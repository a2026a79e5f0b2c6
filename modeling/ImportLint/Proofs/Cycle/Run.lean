import ImportLint.Proofs.Cycle.Invariant
import Mathlib.Algebra.BigOperators.Group.List.Basic
import Mathlib.Algebra.GroupWithZero.Nat
import Mathlib.Algebra.Order.BigOperators.Group.List
import Mathlib.Algebra.Order.Group.Nat

/-!
# Runs of the search for components

`step_cases` says what a step can do. Every step keeps the invariant (`Inv.step`) and takes one off `work`, the
number of steps left (`work_step`), so a run ends with every node in a component (`run_spec`). Nodes share a
component if and only if each reaches the other (`component?_run_eq_iff`).
-/

namespace ImportLint.Cycle.Search

variable {n : Nat} {successors : Nat → List Nat} {s : Search} {v : Nat} {below : List (Nat × List Nat)}

/-! ## Steps -/

/-- What a step can do: leave a node, visit a successor, pass over a successor that is off the stack, or note that a
successor on the stack is reached. -/
theorem step_cases (successors : Nat → List Nat) {l : List Nat} (hf : s.frames = (v, l) :: below) :
    (l = [] ∧ s.step successors = s.leave v below) ∨
    ∃ w rest, l = w :: rest ∧
      ((¬ s.Visited w ∧ s.step successors = { s with frames := (v, rest) :: below }.visit w (successors w)) ∨
       (s.Visited w ∧ s.isOnStack w = false ∧
          s.step successors = { s with frames := (v, rest) :: below }) ∨
       (s.Visited w ∧ s.isOnStack w = true ∧
          s.step successors = { s with frames := (v, rest) :: below }.reach v (s.orderOf w))) := by
  cases l with
  | nil => exact Or.inl ⟨rfl, by simp only [step, hf]⟩
  | cons w rest =>
    refine Or.inr ⟨w, rest, rfl, ?_⟩
    cases ho : s.order? w with
    | none =>
      have ho' : order? { s with frames := (v, rest) :: below } w = none := ho
      exact Or.inl ⟨by simp [Visited, ho], by simp only [step, hf, ho']⟩
    | some k =>
      have ho' : order? { s with frames := (v, rest) :: below } w = some k := ho
      have hv : s.Visited w := by simp [Visited, ho]
      have hk : s.orderOf w = k := by simp [orderOf, ho]
      cases hc : s.isOnStack w with
      | false =>
        have hc' : ¬ isOnStack { s with frames := (v, rest) :: below } w = true := ne_true_of_eq_false hc
        exact Or.inr (Or.inl ⟨hv, rfl, by simp only [step, hf, ho', if_neg hc']⟩)
      | true =>
        have hc' : isOnStack { s with frames := (v, rest) :: below } w = true := hc
        exact Or.inr (Or.inr ⟨hv, rfl, by simp only [step, hf, ho', if_pos hc', hk]⟩)

/-- Settling a node closes none and gives no numbers. -/
theorem settle_frame (v : Nat) : (s.settle v).frames = s.frames ∧ (s.settle v).order = s.order := by
  unfold settle
  split <;> exact ⟨rfl, rfl⟩

/-- Inheriting changes low numbers only. -/
theorem inherit_eq (s : Search) (v : Nat) : ∃ low, s.inherit v = { s with low := low } := by
  unfold inherit
  split
  · exact ⟨_, rfl⟩
  · exact ⟨s.low, rfl⟩

theorem leave_frame : (s.leave v below).frames = below ∧ (s.leave v below).order = s.order := by
  obtain ⟨low, hlow⟩ := inherit_eq { s with frames := below } v
  unfold leave
  rw [(settle_frame v).1, (settle_frame v).2, hlow]
  exact ⟨rfl, rfl⟩

namespace Inv

/-- Settling a node whose low number the node below it knows. -/
theorem settle (h : Inv n successors s) (hf : s.frames = (v, []) :: below)
    (hu : ∀ u l fs, below = (u, l) :: fs → s.lowOf u ≤ s.lowOf v) :
    Inv n successors (Search.settle { s with frames := below } v) := by
  have hv : s.Visited v := h.visited_of_open ((open_cons hf v).mpr (Or.inl rfl))
  have ho : order? { s with frames := below } v = some (s.orderOf v) := order?_eq_some hv
  unfold Search.settle
  rw [ho]
  split_ifs with hroot
  · exact h.complete hf (Option.some.inj hroot).symm
  · have hne : s.orderOf v ≠ s.lowOf v := fun e => hroot (congrArg some e)
    have hle := h.low_le v hv
    exact h.pop hf (by omega) hu

theorem leave (h : Inv n successors s) (hf : s.frames = (v, []) :: below) :
    Inv n successors (s.leave v below) := by
  cases hb : below with
  | nil =>
    subst hb
    exact h.settle hf fun u l fs e => by cases e
  | cons f fs =>
    obtain ⟨u, l⟩ := f
    have huo : s.Open u := ⟨l, by rw [hf, hb]; simp⟩
    have hvo : s.Open v := (open_cons hf v).mpr (Or.inl rfl)
    have hun : u < s.low.size := by
      rw [h.size_low]
      exact h.lt_of_mem (h.mem_of_open huo)
    have huv : s.orderOf u < s.orderOf v := h.orderOf_lt_of_open_below hf ⟨l, by simp [hb]⟩
    have hne : v ≠ u := fun e => by rw [e] at huv; exact Nat.lt_irrefl _ huv
    obtain ⟨z, hz, hzv, hvz⟩ := h.low_reached v hvo
    have hr : Inv n successors (s.reach u (s.lowOf v)) := by
      rw [← hzv]
      exact h.reach huo hz ((h.open_reaches u huo v (h.mem_of_open hvo) (by omega)).trans hvz)
    have hlow : ∀ u' l' fs', below = (u', l') :: fs' →
        (s.reach u (s.lowOf v)).lowOf u' ≤ (s.reach u (s.lowOf v)).lowOf v := by
      intro u' l' fs' e
      rw [hb] at e
      cases e
      rw [lowOf_reach hun, lowOf_reach hun, if_pos rfl, if_neg hne]
      exact Nat.min_le_left _ _
    have hs := hr.settle hf hlow
    rw [hb] at hs
    exact hs

/-- A step keeps the invariant. -/
theorem step (h : Inv n successors s) (hb : ∀ v < n, ∀ w ∈ successors v, w < n) :
    Inv n successors (s.step successors) := by
  cases hf : s.frames with
  | nil =>
    have hs : s.step successors = s := by simp only [Search.step, hf]
    rw [hs]
    exact h
  | cons f below =>
    obtain ⟨v, l⟩ := f
    rcases step_cases successors hf with ⟨rfl, hs⟩ | ⟨w, rest, rfl, hs⟩
    · rw [hs]
      exact h.leave hf
    have hp := pending_head hf
    have hvo := hp.isOpen
    have hvs := h.mem_of_open hvo
    have hw := h.mem_of_pending hp
    have hwn := h.lt_of_pending hb hp
    rcases hs with ⟨hnew, hs⟩ | ⟨hwv, hoff, hs⟩ | ⟨hwv, hon, hs⟩
    · -- the successor is visited
      rw [hs]
      have hr : ∀ x, s.Open x → Reaches successors x w := fun x hx =>
        (h.open_reaches x hx v hvs (h.orderOf_le_of_open hf hx)).tail hw
      have hvisit := h.visit hwn hnew hr
      have hwo : w < s.order.size := by rw [h.size_order]; exact hwn
      have hfv : (s.visit w (successors w)).frames = [(w, successors w)] ++ (v, w :: rest) :: below := by
        show (w, successors w) :: s.frames = _
        rw [hf]
        rfl
      refine hvisit.advance [(w, successors w)] hfv ?_ fun _ => ?_
      · exact (visited_visit hwo _ w).mpr (Or.inl rfl)
      · have hvv := h.visited_of_mem hvs
        have hle := h.low_le v hvv
        have hlt := h.order_lt v hvv
        rw [h.lowOf_visit_of_visited hwn hnew _ hvv, h.orderOf_visit_self hwn]
        omega
    · -- the successor is off the stack
      rw [hs]
      refine h.advance [] hf hwv fun hws => ?_
      rw [(h.onStack_iff w).mpr hws] at hoff
      cases hoff
    · -- the successor is on the stack
      rw [hs]
      have hws : w ∈ s.stack := (h.onStack_iff w).mp hon
      have hr := h.reach hvo hws (.single hw)
      have hvl : v < s.low.size := by
        rw [h.size_low]
        exact h.lt_of_mem hvs
      refine hr.advance [] hf hwv fun _ => ?_
      rw [lowOf_reach hvl, if_pos rfl]
      exact Nat.min_le_left _ _

end Inv

/-! ## The number of steps -/

/-- The steps that the nodes not visited yet will take: one for each successor and one for leaving. -/
def fresh (n : Nat) (successors : Nat → List Nat) (s : Search) : Nat :=
  ((List.range n).map fun v => if (s.order? v).isSome then 0 else (successors v).length + 1).sum

/-- The number of steps left until no node is open. -/
def work (n : Nat) (successors : Nat → List Nat) (s : Search) : Nat :=
  s.fresh n successors + (s.frames.map fun f => f.2.length + 1).sum

theorem fresh_congr {t : Search} (h : t.order = s.order) : t.fresh n successors = s.fresh n successors := by
  unfold fresh order?
  rw [h]

theorem fresh_visit (successors : Nat → List Nat) {w : Nat} (hw : w < n) (hwo : w < s.order.size)
    (hnew : ¬ s.Visited w) (l : List Nat) :
    (s.visit w l).fresh n successors + ((successors w).length + 1) = s.fresh n successors := by
  have hmem : w ∈ List.range n := List.mem_range.mpr hw
  have hold : ¬ (s.order? w).isSome = true := hnew
  have hrest : ∀ x ∈ (List.range n).erase w,
      (if ((s.visit w l).order? x).isSome then 0 else (successors x).length + 1) =
        if (s.order? x).isSome then 0 else (successors x).length + 1 := by
    intro x hx
    rw [order?_visit hwo, if_neg (List.nodup_range.mem_erase_iff.mp hx).1]
  unfold fresh
  rw [← List.sum_map_erase _ hmem, ← List.sum_map_erase _ hmem, List.map_congr_left hrest]
  rw [order?_visit hwo, if_pos rfl, if_neg hold]
  simp
  omega

/-- Visiting a node moves its share of the work from the nodes not visited to the frames. -/
theorem work_visit (successors : Nat → List Nat) {w : Nat} (hw : w < n) (hwo : w < s.order.size)
    (hnew : ¬ s.Visited w) : (s.visit w (successors w)).work n successors = s.work n successors := by
  have hfresh := fresh_visit successors hw hwo hnew (successors w)
  have hframes : ((s.visit w (successors w)).frames.map fun f => f.2.length + 1).sum =
      (successors w).length + 1 + (s.frames.map fun f => f.2.length + 1).sum := List.sum_cons
  rw [work, work, hframes]
  omega

theorem sum_length_succ (n : Nat) (successors : Nat → List Nat) :
    ((List.range n).map fun v => (successors v).length + 1).sum =
      n + ((List.range n).map fun v => (successors v).length).sum := by
  rw [List.sum_map_add]
  simp [Nat.add_comm]

theorem fresh_le (n : Nat) (successors : Nat → List Nat) (s : Search) :
    s.fresh n successors ≤ n + (List.range n).foldl (fun k v => k + (successors v).length) 0 := by
  have hsum : (List.range n).foldl (fun k v => k + (successors v).length) 0 =
      ((List.range n).map fun v => (successors v).length).sum := by
    rw [List.sum_eq_foldl, List.foldl_map]
  calc s.fresh n successors ≤ ((List.range n).map fun v => (successors v).length + 1).sum :=
        List.sum_le_sum fun v _ => by split_ifs <;> omega
    _ = n + (List.range n).foldl (fun k v => k + (successors v).length) 0 := by rw [hsum, sum_length_succ]

/-- Looking at a successor takes one off the work. -/
theorem work_advance {w : Nat} {rest : List Nat} (hf : s.frames = (v, w :: rest) :: below) :
    work n successors { s with frames := (v, rest) :: below } + 1 = s.work n successors := by
  have hsame : fresh n successors { s with frames := (v, rest) :: below } = s.fresh n successors := fresh_congr rfl
  rw [work, work, hsame, hf]
  simp
  omega

/-- A step takes one off the work. -/
theorem work_step (h : Inv n successors s) (hb : ∀ v < n, ∀ w ∈ successors v, w < n) (hf : s.frames ≠ []) :
    (s.step successors).work n successors + 1 = s.work n successors := by
  obtain ⟨⟨v, l⟩, below, hf⟩ := List.exists_cons_of_ne_nil hf
  rcases step_cases successors hf with ⟨rfl, hs⟩ | ⟨w, rest, rfl, ⟨hnew, hs⟩ | ⟨-, -, hs⟩ | ⟨-, -, hs⟩⟩
  · rw [hs, work, work, fresh_congr leave_frame.2, leave_frame.1, hf]
    simp
    omega
  · have hwn := h.lt_of_pending hb (pending_head hf)
    rw [hs, work_visit (s := { s with frames := (v, rest) :: below }) successors hwn (h.size_order ▸ hwn) hnew]
    exact work_advance hf
  · rw [hs]
    exact work_advance hf
  · rw [hs]
    exact work_advance hf

/-- A step leaves the visited nodes visited. -/
theorem visited_step (h : Inv n successors s) (hb : ∀ v < n, ∀ w ∈ successors v, w < n) {x : Nat}
    (hx : s.Visited x) : (s.step successors).Visited x := by
  cases hf : s.frames with
  | nil => simpa only [step, hf] using hx
  | cons f below =>
    obtain ⟨v, l⟩ := f
    rcases step_cases successors hf with ⟨rfl, hs⟩ | ⟨w, rest, rfl, ⟨-, hs⟩ | ⟨-, -, hs⟩ | ⟨-, -, hs⟩⟩
    · rw [hs, Visited, order?, leave_frame.2]
      exact hx
    · have hwn : w < s.order.size := by
        rw [h.size_order]
        exact h.lt_of_pending hb (pending_head hf)
      rw [hs]
      exact (visited_visit (s := { s with frames := (v, rest) :: below }) hwn (successors w) x).mpr (Or.inr hx)
    · rw [hs]
      exact hx
    · rw [hs]
      exact hx

/-! ## Runs -/

/-- With enough fuel the search goes on until no node is open. -/
theorem explore_spec (hb : ∀ v < n, ∀ w ∈ successors v, w < n) (fuel : Nat) (h : Inv n successors s)
    (hfuel : s.work n successors ≤ fuel) :
    Inv n successors (s.explore successors fuel) ∧ (s.explore successors fuel).frames = [] ∧
      ∀ x, s.Visited x → (s.explore successors fuel).Visited x := by
  induction fuel generalizing s with
  | zero =>
    refine ⟨h, ?_, fun x hx => hx⟩
    show s.frames = []
    cases hf : s.frames with
    | nil => rfl
    | cons f below =>
      simp [work, hf] at hfuel
  | succ fuel ih =>
    cases hf : s.frames with
    | nil =>
      have hs : s.explore successors (fuel + 1) = s := by simp only [explore, hf]
      rw [hs]
      exact ⟨h, hf, fun x hx => hx⟩
    | cons f below =>
      have hs : s.explore successors (fuel + 1) = (s.step successors).explore successors fuel := by
        simp only [explore, hf]
      have hw := work_step h hb (by rw [hf]; simp)
      obtain ⟨h1, h2, h3⟩ := ih (h.step hb) (by omega)
      rw [hs]
      exact ⟨h1, h2, fun x hx => h3 x (visited_step h hb hx)⟩

/-- Searching from a root leaves no node open and the root visited. -/
theorem searchFrom_spec (hb : ∀ v < n, ∀ w ∈ successors v, w < n) {fuel root : Nat} (h : Inv n successors s)
    (hf : s.frames = []) (hr : root < n) (hfuel : s.fresh n successors ≤ fuel) :
    Inv n successors (searchFrom successors fuel s root) ∧ (searchFrom successors fuel s root).frames = [] ∧
      (searchFrom successors fuel s root).Visited root ∧
      ∀ x, s.Visited x → (searchFrom successors fuel s root).Visited x := by
  cases ho : s.order? root with
  | some k =>
    have hs : searchFrom successors fuel s root = s := by simp only [searchFrom, ho]
    rw [hs]
    exact ⟨h, hf, by simp [Visited, ho], fun x hx => hx⟩
  | none =>
    have hs : searchFrom successors fuel s root = (s.visit root (successors root)).explore successors fuel := by
      simp only [searchFrom, ho]
    have hnew : ¬ s.Visited root := by simp [Visited, ho]
    have hro : root < s.order.size := by rw [h.size_order]; exact hr
    have hvisit := h.visit hr hnew fun v hv => by
      obtain ⟨rest, hv⟩ := hv
      simp [hf] at hv
    have hwork : (s.visit root (successors root)).work n successors ≤ fuel := by
      rw [work_visit successors hr hro hnew, work, hf]
      exact hfuel
    obtain ⟨h1, h2, h3⟩ := explore_spec hb fuel hvisit hwork
    rw [hs]
    exact ⟨h1, h2, h3 root ((visited_visit hro _ root).mpr (Or.inl rfl)),
      fun x hx => h3 x ((visited_visit hro _ x).mpr (Or.inr hx))⟩

/-- A run ends with every node visited and no node open. -/
theorem run_spec (hb : ∀ v < n, ∀ w ∈ successors v, w < n) :
    Inv n successors (run n successors) ∧ (run n successors).frames = [] ∧
      ∀ v < n, (run n successors).Visited v := by
  unfold run
  set fuel := n + (List.range n).foldl (fun k v => k + (successors v).length) 0 with hfuel
  -- by induction on the number of roots
  have key : ∀ i ≤ n, Inv n successors ((List.range i).foldl (searchFrom successors fuel) (start n)) ∧
      ((List.range i).foldl (searchFrom successors fuel) (start n)).frames = [] ∧
      ∀ v < i, ((List.range i).foldl (searchFrom successors fuel) (start n)).Visited v := by
    intro i
    induction i with
    | zero => exact fun _ => ⟨Inv.start n successors, rfl, fun v hv => absurd hv (Nat.not_lt_zero v)⟩
    | succ i ih =>
      intro hi
      obtain ⟨h1, h2, h3⟩ := ih (by omega)
      rw [List.range_succ, List.foldl_append, List.foldl_cons, List.foldl_nil]
      have hin : i < n := hi
      obtain ⟨h4, h5, h6, h7⟩ := searchFrom_spec hb h1 h2 hin (fresh_le n successors _)
      refine ⟨h4, h5, fun v hv => ?_⟩
      rcases Nat.lt_succ_iff_lt_or_eq.mp hv with hv | rfl
      · exact h7 v (h3 v hv)
      · exact h6
  exact key n (Nat.le_refl n)

/-- Every node is in a component in the end. -/
theorem component?_run (hb : ∀ v < n, ∀ w ∈ successors v, w < n) (hv : v < n) :
    ∃ c, (run n successors).component? v = some c := by
  obtain ⟨h, hf, hall⟩ := run_spec hb
  cases hc : (run n successors).component? v with
  | some c => exact ⟨c, rfl⟩
  | none =>
    obtain ⟨u, ⟨rest, hu⟩, -⟩ := h.reaches_open v ((h.mem_stack v).mpr ⟨hall v hv, hc⟩)
    simp [hf] at hu

/-- Components lead only to components with numbers no higher. -/
theorem Inv.le_of_reaches (h : Inv n successors s) {w c : Nat} (hr : Reaches successors v w)
    (hv : s.component? v = some c) : ∃ d, d ≤ c ∧ s.component? w = some d := by
  induction hr with
  | refl => exact ⟨c, Nat.le_refl c, hv⟩
  | tail _ hstep ih =>
    obtain ⟨d, hd, hx⟩ := ih
    obtain ⟨e, he, hy⟩ := h.closed _ d hx _ hstep
    exact ⟨e, Nat.le_trans he hd, hy⟩

/-- Nodes share a component if and only if each reaches the other. -/
theorem component?_run_eq_iff (hb : ∀ v < n, ∀ w ∈ successors v, w < n) {w : Nat} (hv : v < n) (hw : w < n) :
    (run n successors).component? v = (run n successors).component? w ↔
      Reaches successors v w ∧ Reaches successors w v := by
  obtain ⟨h, -, -⟩ := run_spec hb
  obtain ⟨c, hc⟩ := component?_run hb hv
  obtain ⟨d, hd⟩ := component?_run hb hw
  constructor
  · intro e
    rw [e] at hc
    rw [hc] at e
    exact ⟨h.connected v w c e hc, h.connected w v c hc e⟩
  · rintro ⟨hvw, hwv⟩
    obtain ⟨d', hdc, hd'⟩ := h.le_of_reaches hvw hc
    obtain ⟨c', hcd, hc'⟩ := h.le_of_reaches hwv hd
    rw [hd] at hd'
    rw [hc] at hc'
    cases hd'
    cases hc'
    rw [hc, hd, Nat.le_antisymm hcd hdc]

end ImportLint.Cycle.Search
