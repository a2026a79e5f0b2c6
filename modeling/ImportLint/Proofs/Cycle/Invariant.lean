import ImportLint.Cycle.Search
import Mathlib.Data.List.Basic
import Mathlib.Data.List.Nodup
import Mathlib.Logic.Relation
import Mathlib.Tactic.Common

/-!
# The invariant of the search for components

`Inv n successors s` says what is known of a search in progress through the nodes below `n`:

* the stack holds the visited nodes without a component, the last visited first, and the open nodes among them, and
  the nodes on it are flagged (`onStack_iff`);
* an open node reaches all that is above it on the stack (`open_reaches`), and every node on the stack reaches an
  open node at or below it (`reaches_open`);
* a successor that has been looked at is visited, and if it is still on the stack then some open node above a
  given one knows of it (`low_looked`);
* components lead only to components that are complete (`closed`), and their members reach each other (`connected`).

There is one lemma for each change of the state: `Inv.visit`, `Inv.reach`, `Inv.advance`, `Inv.pop` and
`Inv.complete`.
-/

namespace ImportLint.Cycle

/-- A node leads to another, by any number of steps to successors. -/
def Reaches (successors : Nat → List Nat) : Nat → Nat → Prop :=
  Relation.ReflTransGen fun v w => w ∈ successors v

namespace Search

/-! ## What the state says of a node -/

def Visited (s : Search) (v : Nat) : Prop := (s.order? v).isSome

instance (s : Search) (v : Nat) : Decidable (s.Visited v) :=
  inferInstanceAs (Decidable ((s.order? v).isSome = true))

/-- The number of a visited node. -/
def orderOf (s : Search) (v : Nat) : Nat := (s.order? v).getD 0

/-- The successors of the node are being looked at. -/
def Open (s : Search) (v : Nat) : Prop := ∃ rest, (v, rest) ∈ s.frames

/-- The successor `w` of `v` is still to be looked at. -/
def Pending (s : Search) (v w : Nat) : Prop := ∃ rest, (v, rest) ∈ s.frames ∧ w ∈ rest

variable {s : Search}

theorem Pending.isOpen {v w : Nat} (h : s.Pending v w) : s.Open v :=
  h.imp fun _ h => h.1

theorem order?_eq_some {v : Nat} (h : s.Visited v) : s.order? v = some (s.orderOf v) := by
  obtain ⟨k, hk⟩ := Option.isSome_iff_exists.mp h
  simp [orderOf, hk]

/-- The first of the successors left of the innermost node is pending. -/
theorem pending_head {v w : Nat} {rest : List Nat} {below : List (Nat × List Nat)}
    (hf : s.frames = (v, w :: rest) :: below) : s.Pending v w :=
  ⟨w :: rest, hf ▸ List.mem_cons_self, List.mem_cons_self⟩

theorem open_iff_mem {v : Nat} : s.Open v ↔ v ∈ s.frames.map Prod.fst := by
  simp [Open]

theorem not_visited_start (n v : Nat) : ¬ (start n).Visited v := by
  by_cases h : v < n <;> simp [Visited, order?, start, h]

/-! ## What the operations change -/

section Operations

variable {v w : Nat}

theorem order?_visit (hw : w < s.order.size) (l : List Nat) (x : Nat) :
    (s.visit w l).order? x = if x = w then some s.visited else s.order? x := by
  by_cases hx : x = w
  · subst hx
    simp [order?, visit, hw]
  · rw [if_neg hx]
    simp [order?, visit, Ne.symm hx]

theorem lowOf_visit (hw : w < s.low.size) (l : List Nat) (x : Nat) :
    (s.visit w l).lowOf x = if x = w then s.visited else s.lowOf x := by
  by_cases hx : x = w
  · subst hx
    simp [lowOf, visit, hw, Array.getD_eq_getD_getElem?]
  · rw [if_neg hx]
    simp [lowOf, visit, Array.getD_eq_getD_getElem?, Ne.symm hx]

theorem visited_visit (hw : w < s.order.size) (l : List Nat) (x : Nat) :
    (s.visit w l).Visited x ↔ x = w ∨ s.Visited x := by
  unfold Visited
  rw [order?_visit hw]
  split_ifs with hx <;> simp [hx]

theorem orderOf_visit (hw : w < s.order.size) (l : List Nat) (x : Nat) :
    (s.visit w l).orderOf x = if x = w then s.visited else s.orderOf x := by
  unfold orderOf
  rw [order?_visit hw]
  split_ifs <;> rfl

theorem open_visit (l : List Nat) (x : Nat) : (s.visit w l).Open x ↔ x = w ∨ s.Open x := by
  simp [open_iff_mem, visit]

theorem lowOf_reach (hv : v < s.low.size) (k x : Nat) :
    (s.reach v k).lowOf x = if x = v then min k (s.lowOf v) else s.lowOf x := by
  by_cases hx : x = v
  · subst hx
    simp [lowOf, reach, Array.getD_eq_getD_getElem?, Array.getElem_modify_self, hv]
  · rw [if_neg hx]
    simp [lowOf, reach, Array.getD_eq_getD_getElem?, Array.getElem?_modify, Ne.symm hx]

theorem lowOf_reach_le (hv : v < s.low.size) (k x : Nat) : (s.reach v k).lowOf x ≤ s.lowOf x := by
  rw [lowOf_reach hv]
  split_ifs with hx
  · exact hx ▸ Nat.min_le_right _ _
  · exact Nat.le_refl _

theorem isOnStack_visit (hw : w < s.onStack.size) (l : List Nat) (x : Nat) :
    (s.visit w l).isOnStack x = true ↔ x = w ∨ s.isOnStack x = true := by
  by_cases hx : x = w
  · subst hx
    simp [isOnStack, visit, hw, Array.getD_eq_getD_getElem?]
  · simp [isOnStack, visit, Array.getD_eq_getD_getElem?, hx, Ne.symm hx]

/-- Giving a list of nodes one entry. -/
theorem getElem?_foldl_setIfInBounds {α : Type} (y : α) (ms : List Nat) (a : Array α) (x : Nat) :
    (ms.foldl (fun c m => c.setIfInBounds m y) a)[x]? =
      if x ∈ ms ∧ x < a.size then some y else a[x]? := by
  induction ms generalizing a with
  | nil => simp
  | cons m ms ih =>
    rw [List.foldl_cons, ih, Array.size_setIfInBounds, Array.getElem?_setIfInBounds]
    grind

theorem size_foldl_setIfInBounds {α : Type} (y : α) (ms : List Nat) (a : Array α) :
    (ms.foldl (fun c m => c.setIfInBounds m y) a).size = a.size := by
  induction ms generalizing a with
  | nil => rfl
  | cons m ms ih => rw [List.foldl_cons, ih, Array.size_setIfInBounds]

/-- A component takes the nodes down to `v` off the stack. -/
theorem complete_eq {above below : List Nat} (h : s.stack = above ++ v :: below) (hv : v ∉ above) :
    s.complete v =
      { s with
        component := (v :: above).foldl (fun c m => c.setIfInBounds m (some s.sizes.size)) s.component
        sizes := s.sizes.push (above.length + 1)
        stack := below
        onStack := (v :: above).foldl (fun f m => f.setIfInBounds m false) s.onStack } := by
  have habove : s.stack.takeWhile (· != v) = above := by
    rw [h, List.takeWhile_append_of_pos fun a ha => ?_]
    · simp
    · have hne : a ≠ v := fun e => hv (e ▸ ha)
      simpa using hne
  have hdrop : s.stack.drop (above.length + 1) = below := by
    rw [h, List.drop_append]
    simp
  simp only [complete, habove, List.length_cons, hdrop]

theorem component?_complete {frames : List (Nat × List Nat)} {above below : List Nat}
    (h : s.stack = above ++ v :: below) (hv : v ∉ above) (hlt : ∀ x ∈ v :: above, x < s.component.size) (x : Nat) :
    (Search.complete { s with frames := frames } v).component? x =
      if x ∈ v :: above then some s.sizes.size else s.component? x := by
  rw [complete_eq (s := { s with frames := frames }) h hv]
  show ((v :: above).foldl (fun c m => c.setIfInBounds m (some s.sizes.size)) s.component)[x]?.join = _
  rw [getElem?_foldl_setIfInBounds]
  by_cases hx : x ∈ v :: above
  · rw [if_pos ⟨hx, hlt x hx⟩, if_pos hx, Option.join_some]
  · rw [if_neg fun hx' => hx hx'.1, if_neg hx, component?]

/-- Completing a component takes the flags of its nodes away. -/
theorem isOnStack_complete {frames : List (Nat × List Nat)} {above below : List Nat}
    (h : s.stack = above ++ v :: below) (hv : v ∉ above) (hlt : ∀ x ∈ v :: above, x < s.onStack.size) (x : Nat) :
    (Search.complete { s with frames := frames } v).isOnStack x = true ↔ x ∉ v :: above ∧ s.isOnStack x = true := by
  rw [complete_eq (s := { s with frames := frames }) h hv]
  show ((v :: above).foldl (fun f m => f.setIfInBounds m false) s.onStack).getD x false = true ↔ _
  rw [Array.getD_eq_getD_getElem?, getElem?_foldl_setIfInBounds]
  by_cases hx : x ∈ v :: above
  · rw [if_pos ⟨hx, hlt x hx⟩]
    simp [hx]
  · rw [if_neg fun hx' => hx hx'.1]
    simp only [hx, not_false_eq_true, true_and, isOnStack, Array.getD_eq_getD_getElem?]

end Operations

/-- Nodes without a component get a new one. -/
structure NewComponent (s t : Search) (ms : List Nat) : Prop where
  component : ∀ x, t.component? x = if x ∈ ms then some s.sizes.size else s.component? x
  sizes : t.sizes = s.sizes.push ms.length
  fresh : ∀ x ∈ ms, s.component? x = none
  nodup : ms.Nodup

/-- A node with a component keeps it. -/
theorem NewComponent.keeps {t : Search} {ms : List Nat} (ht : NewComponent s t ms) {x c : Nat}
    (hc : s.component? x = some c) : t.component? x = some c := by
  have hx : x ∉ ms := fun hx => by
    have hnone := ht.fresh x hx
    rw [hc] at hnone
    cases hnone
  rw [ht.component, if_neg hx, hc]

/-! ## The invariant -/

/-- What is known of a search in progress through the nodes below `n`. -/
structure Inv (n : Nat) (successors : Nat → List Nat) (s : Search) : Prop where
  size_order : s.order.size = n
  size_low : s.low.size = n
  size_component : s.component.size = n
  size_onStack : s.onStack.size = n
  order_lt : ∀ v, s.Visited v → s.orderOf v < s.visited
  order_inj : ∀ v w, s.Visited v → s.Visited w → s.orderOf v = s.orderOf w → v = w
  low_le : ∀ v, s.Visited v → s.lowOf v ≤ s.orderOf v
  component_visited : ∀ v c, s.component? v = some c → s.Visited v
  component_lt : ∀ v c, s.component? v = some c → c < s.sizes.size
  mem_stack : ∀ v, v ∈ s.stack ↔ s.Visited v ∧ s.component? v = none
  onStack_iff : ∀ v, s.isOnStack v = true ↔ v ∈ s.stack
  sorted : s.stack.Pairwise fun v w => s.orderOf w < s.orderOf v
  open_sublist : (s.frames.map Prod.fst).Sublist s.stack
  suffix : ∀ v rest, (v, rest) ∈ s.frames → rest <:+ successors v
  open_reaches : ∀ v, s.Open v → ∀ w ∈ s.stack, s.orderOf v ≤ s.orderOf w → Reaches successors v w
  reaches_open : ∀ v ∈ s.stack, ∃ u, s.Open u ∧ s.orderOf u ≤ s.orderOf v ∧ Reaches successors v u
  low_reached : ∀ v, s.Open v → ∃ w ∈ s.stack, s.orderOf w = s.lowOf v ∧ Reaches successors v w
  looked : ∀ v, s.Visited v → ∀ w ∈ successors v, s.Pending v w ∨ s.Visited w
  low_looked : ∀ v ∈ s.stack, ∀ w ∈ s.stack, w ∈ successors v → ¬ s.Pending v w →
    ∀ p, s.Open p → s.orderOf p ≤ s.orderOf v →
      ∃ q, s.Open q ∧ s.orderOf p ≤ s.orderOf q ∧ s.lowOf q ≤ s.orderOf w
  closed : ∀ v c, s.component? v = some c → ∀ w ∈ successors v, ∃ d, d ≤ c ∧ s.component? w = some d
  connected : ∀ v w c, s.component? v = some c → s.component? w = some c → Reaches successors v w
  size_eq : ∀ c, s.sizes.getD c 0 = (List.range n).countP fun v => s.component? v = some c

namespace Inv

variable {n : Nat} {successors : Nat → List Nat} {v w : Nat}

theorem lt_of_visited (h : Inv n successors s) (hv : s.Visited v) : v < n := by
  by_contra hn
  have hnone : s.order[v]? = none := Array.getElem?_eq_none (by rw [h.size_order]; omega)
  simp [Visited, order?, hnone] at hv

theorem visited_of_mem (h : Inv n successors s) (hv : v ∈ s.stack) : s.Visited v :=
  ((h.mem_stack v).mp hv).1

theorem mem_of_open (h : Inv n successors s) (hv : s.Open v) : v ∈ s.stack :=
  h.open_sublist.subset (open_iff_mem.mp hv)

theorem visited_of_open (h : Inv n successors s) (hv : s.Open v) : s.Visited v :=
  h.visited_of_mem (h.mem_of_open hv)

theorem lt_of_mem (h : Inv n successors s) (hv : v ∈ s.stack) : v < n :=
  h.lt_of_visited (h.visited_of_mem hv)

theorem mem_of_pending (h : Inv n successors s) (hp : s.Pending v w) : w ∈ successors v := by
  obtain ⟨rest, hv, hw⟩ := hp
  exact (h.suffix v rest hv).subset hw

theorem lt_of_pending (h : Inv n successors s) (hb : ∀ v < n, ∀ w ∈ successors v, w < n) (hp : s.Pending v w) :
    w < n :=
  hb v (h.lt_of_mem (h.mem_of_open hp.isOpen)) w (h.mem_of_pending hp)

theorem stack_nodup (h : Inv n successors s) : s.stack.Nodup :=
  h.sorted.imp fun hxy e => by rw [e] at hxy; omega

theorem start (n : Nat) (successors : Nat → List Nat) : Inv n successors (start n) := by
  have hv := not_visited_start n
  have hc : ∀ v, (Search.start n).component? v = none := by
    intro v
    by_cases h : v < n <;> simp [component?, Search.start, h]
  have ho : ∀ v, ¬ (Search.start n).Open v := by
    intro v
    simp [Open, Search.start]
  have hflag : ∀ v, ¬ (Search.start n).isOnStack v = true := by
    intro v
    by_cases h : v < n <;> simp [isOnStack, Search.start, Array.getD_eq_getD_getElem?, h]
  refine
    { size_order := by simp [Search.start]
      size_low := by simp [Search.start]
      size_component := by simp [Search.start]
      size_onStack := by simp [Search.start]
      order_lt := fun v h => absurd h (hv v)
      order_inj := fun v w h => absurd h (hv v)
      low_le := fun v h => absurd h (hv v)
      component_visited := fun v c h => by simp [hc] at h
      component_lt := fun v c h => by simp [hc] at h
      mem_stack := fun v => ⟨fun h => by simp [Search.start] at h, fun h => absurd h.1 (hv v)⟩
      onStack_iff := fun v => ⟨fun h => absurd h (hflag v), fun h => by simp [Search.start] at h⟩
      sorted := List.Pairwise.nil
      open_sublist := List.Sublist.refl _
      suffix := fun v rest h => by simp [Search.start] at h
      open_reaches := fun v h => absurd h (ho v)
      reaches_open := fun v h => by simp [Search.start] at h
      low_reached := fun v h => absurd h (ho v)
      looked := fun v h => absurd h (hv v)
      low_looked := fun v h => by simp [Search.start] at h
      closed := fun v c h => by simp [hc] at h
      connected := fun v w c h => by simp [hc] at h
      size_eq := fun c => by simp only [hc]; simp [Search.start] }

/-! ## Visiting nodes -/

theorem orderOf_visit_self (h : Inv n successors s) (hw : w < n) (l : List Nat) :
    (s.visit w l).orderOf w = s.visited := by
  rw [orderOf_visit (by rw [h.size_order]; exact hw), if_pos rfl]

theorem lowOf_visit_self (h : Inv n successors s) (hw : w < n) (l : List Nat) :
    (s.visit w l).lowOf w = s.visited := by
  rw [lowOf_visit (by rw [h.size_low]; exact hw), if_pos rfl]

/-- Earlier nodes keep their numbers. -/
theorem orderOf_visit_of_visited (h : Inv n successors s) (hw : w < n) (hnew : ¬ s.Visited w) (l : List Nat) {x : Nat}
    (hx : s.Visited x) : (s.visit w l).orderOf x = s.orderOf x := by
  have hne : x ≠ w := fun e => hnew (e ▸ hx)
  rw [orderOf_visit (by rw [h.size_order]; exact hw), if_neg hne]

theorem lowOf_visit_of_visited (h : Inv n successors s) (hw : w < n) (hnew : ¬ s.Visited w) (l : List Nat) {x : Nat}
    (hx : s.Visited x) : (s.visit w l).lowOf x = s.lowOf x := by
  have hne : x ≠ w := fun e => hnew (e ▸ hx)
  rw [lowOf_visit (by rw [h.size_low]; exact hw), if_neg hne]

theorem order_inj_visit (h : Inv n successors s) (hw : w < n) (hnew : ¬ s.Visited w) (l : List Nat) {x y : Nat}
    (hx : (s.visit w l).Visited x) (hy : (s.visit w l).Visited y)
    (hxy : (s.visit w l).orderOf x = (s.visit w l).orderOf y) : x = y := by
  have hwo : w < s.order.size := by rw [h.size_order]; exact hw
  have hself := h.orderOf_visit_self hw l
  rcases (visited_visit hwo _ x).mp hx with rfl | hx' <;> rcases (visited_visit hwo _ y).mp hy with rfl | hy'
  · rfl
  · rw [hself, h.orderOf_visit_of_visited hw hnew l hy'] at hxy
    exact absurd (h.order_lt y hy') (by omega)
  · rw [hself, h.orderOf_visit_of_visited hw hnew l hx'] at hxy
    exact absurd (h.order_lt x hx') (by omega)
  · rw [h.orderOf_visit_of_visited hw hnew l hx', h.orderOf_visit_of_visited hw hnew l hy'] at hxy
    exact h.order_inj x y hx' hy' hxy

theorem mem_stack_visit (h : Inv n successors s) (hw : w < n) (hnew : ¬ s.Visited w) (l : List Nat) (x : Nat) :
    x ∈ (s.visit w l).stack ↔ (s.visit w l).Visited x ∧ (s.visit w l).component? x = none := by
  have hwo : w < s.order.size := by rw [h.size_order]; exact hw
  have hcw : s.component? w = none := by
    cases hc : s.component? w with
    | none => rfl
    | some c => exact absurd (h.component_visited w c hc) hnew
  show x ∈ w :: s.stack ↔ _ ∧ s.component? x = none
  rw [List.mem_cons, visited_visit hwo, h.mem_stack]
  constructor
  · rintro (rfl | ⟨hx, hc⟩)
    · exact ⟨Or.inl rfl, hcw⟩
    · exact ⟨Or.inr hx, hc⟩
  · rintro ⟨rfl | hx, hc⟩
    · exact Or.inl rfl
    · exact Or.inr ⟨hx, hc⟩

/-- The open nodes reach the new node, which reaches itself, and nothing on the stack is above it. -/
theorem open_reaches_visit (h : Inv n successors s) (hw : w < n) (hnew : ¬ s.Visited w)
    (hr : ∀ v, s.Open v → Reaches successors v w) (l : List Nat) {x y : Nat} (hx : (s.visit w l).Open x)
    (hy : y ∈ (s.visit w l).stack) (hxy : (s.visit w l).orderOf x ≤ (s.visit w l).orderOf y) :
    Reaches successors x y := by
  rcases List.mem_cons.mp hy with rfl | hy
  · rcases (open_visit _ x).mp hx with rfl | hx
    · exact .refl
    · exact hr x hx
  · have hyv := h.visited_of_mem hy
    rcases (open_visit _ x).mp hx with rfl | hx
    · rw [h.orderOf_visit_self hw, h.orderOf_visit_of_visited hw hnew l hyv] at hxy
      exact absurd (h.order_lt y hyv) (by omega)
    · rw [h.orderOf_visit_of_visited hw hnew l (h.visited_of_open hx), h.orderOf_visit_of_visited hw hnew l hyv] at hxy
      exact h.open_reaches x hx y hy hxy

theorem low_looked_visit (h : Inv n successors s) (hw : w < n) (hnew : ¬ s.Visited w) {x y p : Nat}
    (hx : x ∈ (s.visit w (successors w)).stack) (hy : y ∈ (s.visit w (successors w)).stack) (hxy : y ∈ successors x)
    (hp : ¬ (s.visit w (successors w)).Pending x y) (hpo : (s.visit w (successors w)).Open p)
    (hpx : (s.visit w (successors w)).orderOf p ≤ (s.visit w (successors w)).orderOf x) :
    ∃ q, (s.visit w (successors w)).Open q ∧
      (s.visit w (successors w)).orderOf p ≤ (s.visit w (successors w)).orderOf q ∧
      (s.visit w (successors w)).lowOf q ≤ (s.visit w (successors w)).orderOf y := by
  -- all successors of the new node are pending
  rcases List.mem_cons.mp hx with rfl | hx
  · exact absurd ⟨successors x, List.mem_cons_self, hxy⟩ hp
  have hxv := h.visited_of_mem hx
  have hp' : ¬ s.Pending x y := fun ⟨rest, hx, hy⟩ => hp ⟨rest, List.mem_cons_of_mem _ hx, hy⟩
  have hyv : s.Visited y := (h.looked x hxv y hxy).resolve_left hp'
  have hy : y ∈ s.stack := (List.mem_cons.mp hy).resolve_left fun e => hnew (e ▸ hyv)
  rcases (open_visit _ p).mp hpo with rfl | hpo
  · rw [h.orderOf_visit_self hw, h.orderOf_visit_of_visited hw hnew _ hxv] at hpx
    exact absurd (h.order_lt x hxv) (by omega)
  · have hpv := h.visited_of_open hpo
    rw [h.orderOf_visit_of_visited hw hnew _ hpv, h.orderOf_visit_of_visited hw hnew _ hxv] at hpx
    obtain ⟨q, hq, hpq, hqy⟩ := h.low_looked x hx y hy hxy hp' p hpo hpx
    have hqv := h.visited_of_open hq
    refine ⟨q, (open_visit _ q).mpr (Or.inr hq), ?_, ?_⟩
    · rw [h.orderOf_visit_of_visited hw hnew _ hpv, h.orderOf_visit_of_visited hw hnew _ hqv]
      exact hpq
    · rw [h.lowOf_visit_of_visited hw hnew _ hqv, h.orderOf_visit_of_visited hw hnew _ hyv]
      exact hqy

/-- A node that is visited for the first time, if the open nodes reach it. -/
theorem visit (h : Inv n successors s) (hw : w < n) (hnew : ¬ s.Visited w)
    (hr : ∀ v, s.Open v → Reaches successors v w) : Inv n successors (s.visit w (successors w)) := by
  have hwo : w < s.order.size := by rw [h.size_order]; exact hw
  have hself := h.orderOf_visit_self hw (successors w)
  have hlow := h.lowOf_visit_self hw (successors w)
  have hold : ∀ {x}, s.Visited x → (s.visit w (successors w)).orderOf x = s.orderOf x := fun hx =>
    h.orderOf_visit_of_visited hw hnew _ hx
  have hlowold : ∀ {x}, s.Visited x → (s.visit w (successors w)).lowOf x = s.lowOf x := fun hx =>
    h.lowOf_visit_of_visited hw hnew _ hx
  refine
    { size_order := by simpa [Search.visit] using h.size_order
      size_low := by simpa [Search.visit] using h.size_low
      size_component := h.size_component
      size_onStack := by simpa [Search.visit] using h.size_onStack
      order_lt := ?_
      order_inj := fun x y hx hy => h.order_inj_visit hw hnew _ hx hy
      low_le := ?_
      component_visited := fun x c hx => (visited_visit hwo _ x).mpr (Or.inr (h.component_visited x c hx))
      component_lt := h.component_lt
      mem_stack := h.mem_stack_visit hw hnew _
      onStack_iff := fun x => by
        rw [isOnStack_visit (by rw [h.size_onStack]; exact hw), h.onStack_iff]
        exact List.mem_cons.symm
      sorted := ?_
      open_sublist := h.open_sublist.cons_cons w
      suffix := ?_
      open_reaches := fun x hx y hy => h.open_reaches_visit hw hnew hr _ hx hy
      reaches_open := ?_
      low_reached := ?_
      looked := ?_
      low_looked := fun x hx y hy hxy hp p hpo => h.low_looked_visit hw hnew hx hy hxy hp hpo
      closed := h.closed
      connected := h.connected
      size_eq := h.size_eq }
  · -- order_lt
    intro x hx
    show _ < s.visited + 1
    rcases (visited_visit hwo _ x).mp hx with rfl | hx
    · rw [hself]; omega
    · rw [hold hx]; exact Nat.lt_succ_of_lt (h.order_lt x hx)
  · -- low_le
    intro x hx
    rcases (visited_visit hwo _ x).mp hx with rfl | hx
    · exact Nat.le_of_eq (hlow.trans hself.symm)
    · rw [hlowold hx, hold hx]; exact h.low_le x hx
  · -- sorted
    refine List.Pairwise.cons (fun x hx => ?_) (h.sorted.imp_of_mem fun {x y} hx hy hxy => ?_)
    · rw [hself, hold (h.visited_of_mem hx)]
      exact h.order_lt x (h.visited_of_mem hx)
    · rw [hold (h.visited_of_mem hx), hold (h.visited_of_mem hy)]
      exact hxy
  · -- suffix
    intro x rest hx
    rcases List.mem_cons.mp hx with hx | hx
    · cases hx
      exact List.suffix_refl _
    · exact h.suffix x rest hx
  · -- reaches_open
    intro x hx
    rcases List.mem_cons.mp hx with rfl | hx
    · exact ⟨x, (open_visit _ x).mpr (Or.inl rfl), Nat.le_refl _, .refl⟩
    · obtain ⟨u, hu, hux, hxu⟩ := h.reaches_open x hx
      refine ⟨u, (open_visit _ u).mpr (Or.inr hu), ?_, hxu⟩
      rw [hold (h.visited_of_open hu), hold (h.visited_of_mem hx)]
      exact hux
  · -- low_reached
    intro x hx
    rcases (open_visit _ x).mp hx with rfl | hx
    · exact ⟨x, List.mem_cons_self, by rw [hself, hlow], .refl⟩
    · obtain ⟨z, hz, hzx, hxz⟩ := h.low_reached x hx
      refine ⟨z, List.mem_cons_of_mem _ hz, ?_, hxz⟩
      rw [hold (h.visited_of_mem hz), hlowold (h.visited_of_open hx)]
      exact hzx
  · -- looked
    intro x hx y hy
    rcases (visited_visit hwo _ x).mp hx with rfl | hx
    · exact Or.inl ⟨successors x, List.mem_cons_self, hy⟩
    · rcases h.looked x hx y hy with ⟨rest, hp, hyr⟩ | hp
      · exact Or.inl ⟨rest, List.mem_cons_of_mem _ hp, hyr⟩
      · exact Or.inr ((visited_visit hwo _ y).mpr (Or.inr hp))

/-! ## Looking at successors -/

/-- An open node that is known to reach a node on the stack. -/
theorem reach (h : Inv n successors s) (hv : s.Open v) (hw : w ∈ s.stack) (hr : Reaches successors v w) :
    Inv n successors (s.reach v (s.orderOf w)) := by
  have hvl : v < s.low.size := by
    rw [h.size_low]
    exact h.lt_of_mem (h.mem_of_open hv)
  have hle := lowOf_reach_le hvl (s.orderOf w)
  refine
    { h with
      size_low := by simpa [Search.reach] using h.size_low
      low_le := fun x hx => Nat.le_trans (hle x) (h.low_le x hx)
      low_reached := ?_
      low_looked := ?_ }
  · -- low_reached
    intro x hx
    obtain ⟨z, hz, hzx, hxz⟩ := h.low_reached x hx
    rw [lowOf_reach hvl]
    by_cases hxv : x = v
    · subst hxv
      rw [if_pos rfl]
      rcases Nat.le_total (s.orderOf w) (s.lowOf x) with hwx | hwx
      · exact ⟨w, hw, (Nat.min_eq_left hwx).symm, hr⟩
      · exact ⟨z, hz, hzx.trans (Nat.min_eq_right hwx).symm, hxz⟩
    · rw [if_neg hxv]
      exact ⟨z, hz, hzx, hxz⟩
  · -- low_looked
    intro x hx y hy hxy hp p hpo hpx
    obtain ⟨q, hq, hpq, hqy⟩ := h.low_looked x hx y hy hxy hp p hpo hpx
    exact ⟨q, hq, hpq, Nat.le_trans (hle q) hqy⟩

/-- A successor that has been looked at and is accounted for. -/
theorem advance (above : List (Nat × List Nat)) {below : List (Nat × List Nat)} {rest : List Nat}
    (h : Inv n successors s) (hf : s.frames = above ++ (v, w :: rest) :: below) (hw : s.Visited w)
    (hl : w ∈ s.stack → s.lowOf v ≤ s.orderOf w) :
    Inv n successors { s with frames := above ++ (v, rest) :: below } := by
  set t : Search := { s with frames := above ++ (v, rest) :: below } with ht
  have hnodes : t.frames.map Prod.fst = s.frames.map Prod.fst := by
    rw [hf]
    simp [ht]
  have hopen : ∀ x, t.Open x ↔ s.Open x := fun x => by rw [open_iff_mem, open_iff_mem, hnodes]
  have hpend : ∀ {x y}, s.Pending x y → t.Pending x y ∨ x = v ∧ y = w := by
    rintro x y ⟨l, hx, hy⟩
    rw [hf] at hx
    rcases List.mem_append.mp hx with hx | hx
    · exact Or.inl ⟨l, List.mem_append_left _ hx, hy⟩
    · rcases List.mem_cons.mp hx with hx | hx
      · cases hx
        rcases List.mem_cons.mp hy with rfl | hy
        · exact Or.inr ⟨rfl, rfl⟩
        · exact Or.inl ⟨rest, List.mem_append_right _ List.mem_cons_self, hy⟩
      · exact Or.inl ⟨l, List.mem_append_right _ (List.mem_cons_of_mem _ hx), hy⟩
  have hvo : s.Open v := ⟨w :: rest, by rw [hf]; simp⟩
  refine
    { h with
      open_sublist := by rw [hnodes]; exact h.open_sublist
      suffix := ?_
      open_reaches := fun x hx => h.open_reaches x ((hopen x).mp hx)
      reaches_open := fun x hx => (h.reaches_open x hx).imp fun u hu => ⟨(hopen u).mpr hu.1, hu.2⟩
      low_reached := fun x hx => h.low_reached x ((hopen x).mp hx)
      looked := ?_
      low_looked := ?_ }
  · -- suffix
    intro x l hx
    rcases List.mem_append.mp hx with hx | hx
    · exact h.suffix x l (by rw [hf]; exact List.mem_append_left _ hx)
    · rcases List.mem_cons.mp hx with hx | hx
      · cases hx
        exact (List.suffix_cons w rest).trans (h.suffix v (w :: rest) (by rw [hf]; simp))
      · exact h.suffix x l (by rw [hf]; exact List.mem_append_right _ (List.mem_cons_of_mem _ hx))
  · -- looked
    intro x hx y hy
    rcases h.looked x hx y hy with hp | hp
    · rcases hpend hp with hp | ⟨-, rfl⟩
      · exact Or.inl hp
      · exact Or.inr hw
    · exact Or.inr hp
  · -- low_looked
    intro x hx y hy hxy hp p hpo hpx
    by_cases hp' : s.Pending x y
    · obtain ⟨rfl, rfl⟩ := (hpend hp').resolve_left hp
      exact ⟨x, (hopen x).mpr hvo, hpx, hl hy⟩
    · obtain ⟨q, hq, hpq, hqy⟩ := h.low_looked x hx y hy hxy hp' p ((hopen p).mp hpo) hpx
      exact ⟨q, (hopen q).mpr hq, hpq, hqy⟩

/-! ## New components -/

theorem component_cases (h : Inv n successors s) {t : Search} {ms : List Nat} (ht : NewComponent s t ms) {x c : Nat}
    (hc : t.component? x = some c) :
    (x ∈ ms ∧ c = s.sizes.size) ∨ (s.component? x = some c ∧ c < s.sizes.size) := by
  rw [ht.component] at hc
  split_ifs at hc with hx
  · exact Or.inl ⟨hx, (Option.some.inj hc).symm⟩
  · exact Or.inr ⟨hc, h.component_lt x c hc⟩

/-- The sizes still count the nodes of each component. -/
theorem size_eq_of_newComponent (h : Inv n successors s) {t : Search} {ms : List Nat} (ht : NewComponent s t ms)
    (hlt : ∀ x ∈ ms, x < n) (c : Nat) :
    t.sizes.getD c 0 = (List.range n).countP fun x => t.component? x = some c := by
  rw [ht.sizes]
  by_cases hc : c = s.sizes.size
  · have hperm : ((List.range n).filter fun x => t.component? x = some c).Perm ms := by
      refine (List.perm_ext_iff_of_nodup (List.nodup_range.filter _) ht.nodup).mpr fun x => ?_
      rw [List.mem_filter, List.mem_range, decide_eq_true_iff]
      constructor
      · rintro ⟨-, hx⟩
        rcases h.component_cases ht hx with ⟨hx, -⟩ | ⟨-, hx⟩
        · exact hx
        · exact absurd hx (by omega)
      · intro hx
        exact ⟨hlt x hx, by rw [ht.component, if_pos hx, hc]⟩
    rw [List.countP_eq_length_filter, hperm.length_eq, hc]
    simp [Array.getD_eq_getD_getElem?]
  · have hold : (s.sizes.push ms.length).getD c 0 = s.sizes.getD c 0 := by
      simp [Array.getD_eq_getD_getElem?, Array.getElem?_push, hc]
    rw [hold, h.size_eq c]
    refine List.countP_congr fun x _ => ?_
    rw [decide_eq_true_iff, decide_eq_true_iff]
    refine ⟨ht.keeps, fun hx => ?_⟩
    rcases h.component_cases ht hx with ⟨-, hx⟩ | ⟨hx, -⟩
    · exact absurd hx hc
    · exact hx

/-! ## Leaving nodes -/

section Leave

variable {below : List (Nat × List Nat)}

theorem open_cons (hf : s.frames = (v, []) :: below) (x : Nat) :
    s.Open x ↔ x = v ∨ Open { s with frames := below } x := by
  simp [open_iff_mem, hf]

/-- The open nodes below the innermost one were visited before it. -/
theorem orderOf_lt_of_open_below (h : Inv n successors s) {l : List Nat} (hf : s.frames = (v, l) :: below) {x : Nat}
    (hx : Open { s with frames := below } x) : s.orderOf x < s.orderOf v := by
  have hs := h.sorted.sublist h.open_sublist
  rw [hf, List.map_cons, List.pairwise_cons] at hs
  exact hs.1 x (open_iff_mem.mp hx)

/-- The innermost open node was visited last. -/
theorem orderOf_le_of_open (h : Inv n successors s) {l : List Nat} (hf : s.frames = (v, l) :: below) {x : Nat}
    (hx : s.Open x) : s.orderOf x ≤ s.orderOf v := by
  rw [open_iff_mem, hf, List.map_cons] at hx
  rcases List.mem_cons.mp hx with rfl | hx
  · exact Nat.le_refl _
  · exact Nat.le_of_lt (h.orderOf_lt_of_open_below hf (open_iff_mem.mpr hx))

theorem pending_below (hf : s.frames = (v, []) :: below) {x y : Nat} (hp : s.Pending x y) :
    Pending { s with frames := below } x y := by
  obtain ⟨l, hx, hy⟩ := hp
  rw [hf] at hx
  rcases List.mem_cons.mp hx with hx | hx
  · cases hx
    simp at hy
  · exact ⟨l, hx, hy⟩

/-- Leaving a node that reaches something before itself, which the node below it reaches as well. -/
theorem pop (h : Inv n successors s) (hf : s.frames = (v, []) :: below) (hlt : s.lowOf v < s.orderOf v)
    (hu : ∀ u l fs, below = (u, l) :: fs → s.lowOf u ≤ s.lowOf v) :
    Inv n successors { s with frames := below } := by
  set t : Search := { s with frames := below } with ht
  have hopen : ∀ x, s.Open x ↔ x = v ∨ t.Open x := open_cons hf
  have hvo : s.Open v := (hopen v).mpr (Or.inl rfl)
  -- an open node below `v` that `v` reaches
  obtain ⟨u, huo, huv, hvu⟩ : ∃ u, t.Open u ∧ s.orderOf u < s.orderOf v ∧ Reaches successors v u := by
    obtain ⟨z, hz, hzv, hvz⟩ := h.low_reached v hvo
    obtain ⟨u, hu, huz, hzu⟩ := h.reaches_open z hz
    have hlt' : s.orderOf u < s.orderOf v := by omega
    rcases (hopen u).mp hu with rfl | hu
    · exact absurd hlt' (Nat.lt_irrefl _)
    · exact ⟨u, hu, hlt', hvz.trans hzu⟩
  refine
    { h with
      open_sublist := ?_
      suffix := fun x l hx => h.suffix x l (by rw [hf]; exact List.mem_cons_of_mem _ hx)
      open_reaches := fun x hx => h.open_reaches x ((hopen x).mpr (Or.inr hx))
      reaches_open := ?_
      low_reached := fun x hx => h.low_reached x ((hopen x).mpr (Or.inr hx))
      looked := fun x hx y hy => (h.looked x hx y hy).imp_left (pending_below hf)
      low_looked := ?_ }
  · -- open_sublist
    have hs := h.open_sublist
    rw [hf, List.map_cons] at hs
    exact List.sublist_of_cons_sublist hs
  · -- reaches_open
    intro x hx
    obtain ⟨y, hy, hyx, hxy⟩ := h.reaches_open x hx
    rcases (hopen y).mp hy with rfl | hy
    · exact ⟨u, huo, by show s.orderOf u ≤ s.orderOf x; omega, hxy.trans hvu⟩
    · exact ⟨y, hy, hyx, hxy⟩
  · -- low_looked
    intro x hx y hy hxy hp p hpo hpx
    have hp' : ¬ s.Pending x y := fun hp' => hp (pending_below hf hp')
    obtain ⟨q, hq, hpq, hqy⟩ := h.low_looked x hx y hy hxy hp' p ((hopen p).mpr (Or.inr hpo)) hpx
    rcases (hopen q).mp hq with rfl | hq
    · -- the node below `v` takes its place
      cases hb : below with
      | nil => simp [Open, ht, hb] at hpo
      | cons f fs =>
        obtain ⟨w, l⟩ := f
        have hs := h.sorted.sublist h.open_sublist
        rw [hf, hb, List.map_cons, List.map_cons, List.pairwise_cons, List.pairwise_cons] at hs
        have hpw : s.orderOf p ≤ s.orderOf w := by
          have hmem := open_iff_mem.mp hpo
          rw [ht, hb] at hmem
          rcases List.mem_cons.mp hmem with rfl | hmem
          · exact Nat.le_refl _
          · exact Nat.le_of_lt (hs.2.1 p hmem)
        exact ⟨w, ⟨l, by simp [ht, hb]⟩, hpw, Nat.le_trans (hu w l fs hb) hqy⟩
    · exact ⟨q, hq, hpq, hqy⟩

/-- The stack around a node: what is above was visited after it, and what is under it before. -/
theorem exists_split (h : Inv n successors s) (hv : v ∈ s.stack) :
    ∃ above under, s.stack = above ++ v :: under ∧ v ∉ above ∧
      (∀ x, x ∈ v :: above ↔ x ∈ s.stack ∧ s.orderOf v ≤ s.orderOf x) ∧
      ∀ x, x ∈ under ↔ x ∈ s.stack ∧ s.orderOf x < s.orderOf v := by
  obtain ⟨above, under, hs⟩ := List.append_of_mem hv
  have hp := h.sorted
  rw [hs, List.pairwise_append, List.pairwise_cons] at hp
  have habove : ∀ x ∈ above, s.orderOf v < s.orderOf x := fun x hx => hp.2.2 x hx v List.mem_cons_self
  have hunder : ∀ x ∈ under, s.orderOf x < s.orderOf v := hp.2.1.1
  refine ⟨above, under, hs, fun hva => absurd (habove v hva) (Nat.lt_irrefl _), fun x => ?_, fun x => ?_⟩
  · rw [hs, List.mem_append, List.mem_cons, List.mem_cons]
    constructor
    · rintro (rfl | hx)
      · exact ⟨Or.inr (Or.inl rfl), Nat.le_refl _⟩
      · exact ⟨Or.inl hx, Nat.le_of_lt (habove x hx)⟩
    · rintro ⟨hx | rfl | hx, hvx⟩
      · exact Or.inr hx
      · exact Or.inl rfl
      · exact absurd (hunder x hx) (by omega)
  · rw [hs, List.mem_append, List.mem_cons]
    constructor
    · exact fun hx => ⟨Or.inr (Or.inr hx), hunder x hx⟩
    · rintro ⟨hx | rfl | hx, hvx⟩
      · exact absurd (habove x hx) (by omega)
      · exact absurd hvx (Nat.lt_irrefl _)
      · exact hx

/-- What is left open lies below `v` on the stack. -/
theorem sublist_under (h : Inv n successors s) (hf : s.frames = (v, []) :: below) {above under : List Nat}
    (hs : s.stack = above ++ v :: under) (hv : v ∉ above) : (below.map Prod.fst).Sublist under := by
  have hsub := h.open_sublist
  rw [hf, hs, List.map_cons] at hsub
  clear hs
  induction above with
  | nil => exact hsub.of_cons_cons
  | cons a above ih =>
    rw [List.mem_cons, not_or] at hv
    rw [List.cons_append] at hsub
    exact ih hv.2 (hsub.of_cons_of_ne hv.1)

/-- The nodes down to `v` lead to each other and to complete components only, if `v` reaches nothing before
itself. -/
theorem successor_of_root (h : Inv n successors s) (hf : s.frames = (v, []) :: below)
    (hroot : s.lowOf v = s.orderOf v) {x y : Nat} (hx : x ∈ s.stack) (hvx : s.orderOf v ≤ s.orderOf x)
    (hy : y ∈ successors x) :
    (y ∈ s.stack ∧ s.orderOf v ≤ s.orderOf y) ∨ ∃ c, s.component? y = some c := by
  have hvo : s.Open v := (open_cons hf v).mpr (Or.inl rfl)
  have hp : ¬ s.Pending x y := by
    intro hp
    have hxo := (pending_below hf hp).isOpen
    exact absurd (h.orderOf_lt_of_open_below hf hxo) (by omega)
  have hyv : s.Visited y := (h.looked x (h.visited_of_mem hx) y hy).resolve_left hp
  cases hc : s.component? y with
  | some c => exact Or.inr ⟨c, rfl⟩
  | none =>
    have hys : y ∈ s.stack := (h.mem_stack y).mpr ⟨hyv, hc⟩
    obtain ⟨q, hq, hvq, hqy⟩ := h.low_looked x hx y hys hy hp v hvo hvx
    rcases (open_cons hf q).mp hq with rfl | hq
    · exact Or.inl ⟨hys, hroot ▸ hqy⟩
    · exact absurd (h.orderOf_lt_of_open_below hf hq) (by omega)

/-- The nodes down to `v` lead to each other. -/
theorem reaches_of_open (h : Inv n successors s) (hf : s.frames = (v, []) :: below) {x y : Nat} (hx : x ∈ s.stack)
    (hy : y ∈ s.stack) (hvy : s.orderOf v ≤ s.orderOf y) : Reaches successors x y := by
  have hvo : s.Open v := (open_cons hf v).mpr (Or.inl rfl)
  obtain ⟨u, hu, -, hxu⟩ := h.reaches_open x hx
  have huv : Reaches successors u v := h.open_reaches u hu v (h.mem_of_open hvo) (h.orderOf_le_of_open hf hu)
  exact hxu.trans (huv.trans (h.open_reaches v hvo y hy hvy))

/-- Completing the component of a node that reaches nothing before itself. -/
theorem complete (h : Inv n successors s) (hf : s.frames = (v, []) :: below) (hroot : s.lowOf v = s.orderOf v) :
    Inv n successors (Search.complete { s with frames := below } v) := by
  have hvo : s.Open v := (open_cons hf v).mpr (Or.inl rfl)
  obtain ⟨above, under, hs, hva, hmem, hstack⟩ := h.exists_split (h.mem_of_open hvo)
  have hlt : ∀ x ∈ v :: above, x < n := fun x hx => h.lt_of_mem ((hmem x).mp hx).1
  have hflag : ∀ x, (Search.complete { s with frames := below } v).isOnStack x = true ↔
      x ∉ v :: above ∧ s.isOnStack x = true := isOnStack_complete hs hva (by rw [h.size_onStack]; exact hlt)
  have hnew : NewComponent s (Search.complete { s with frames := below } v) (v :: above) := by
    exact
      { component := component?_complete hs hva (by rw [h.size_component]; exact hlt)
        sizes := by rw [complete_eq (s := { s with frames := below }) hs hva]; rfl
        fresh := fun x hx => ((h.mem_stack x).mp ((hmem x).mp hx).1).2
        nodup := (h.stack_nodup.sublist (hs ▸ List.sublist_append_left above (v :: under))).cons hva }
  rw [complete_eq (s := { s with frames := below }) hs hva] at hnew hflag ⊢
  set t : Search := { s with
    component := (v :: above).foldl (fun c m => c.setIfInBounds m (some s.sizes.size)) s.component
    sizes := s.sizes.push (above.length + 1)
    stack := under
    onStack := (v :: above).foldl (fun f m => f.setIfInBounds m false) s.onStack
    frames := below } with ht
  have hopen : ∀ x, s.Open x ↔ x = v ∨ t.Open x := open_cons hf
  refine
    { h with
      size_component := by rw [ht, size_foldl_setIfInBounds, h.size_component]
      size_onStack := by rw [ht, size_foldl_setIfInBounds, h.size_onStack]
      component_visited := ?_
      component_lt := ?_
      mem_stack := ?_
      onStack_iff := ?_
      sorted := ?_
      open_sublist := h.sublist_under hf hs hva
      suffix := fun x l hx => h.suffix x l (by rw [hf]; exact List.mem_cons_of_mem _ hx)
      open_reaches := fun x hx y hy => h.open_reaches x ((hopen x).mpr (Or.inr hx)) y ((hstack y).mp hy).1
      reaches_open := ?_
      low_reached := ?_
      looked := fun x hx y hy => (h.looked x hx y hy).imp_left (pending_below hf)
      low_looked := ?_
      closed := ?_
      connected := ?_
      size_eq := h.size_eq_of_newComponent hnew hlt }
  · -- component_visited
    intro x c hc
    rcases h.component_cases hnew hc with ⟨hx, -⟩ | ⟨hc, -⟩
    · exact h.visited_of_mem ((hmem x).mp hx).1
    · exact h.component_visited x c hc
  · -- component_lt
    intro x c hc
    rw [ht, Array.size_push]
    rcases h.component_cases hnew hc with ⟨-, rfl⟩ | ⟨-, hc⟩
    · exact Nat.lt_succ_self _
    · exact Nat.lt_succ_of_lt hc
  · -- mem_stack
    intro x
    rw [hnew.component]
    show x ∈ under ↔ s.Visited x ∧ _
    constructor
    · intro hx
      obtain ⟨hx, hxv⟩ := (hstack x).mp hx
      rw [if_neg fun hx' => absurd ((hmem x).mp hx').2 (by omega)]
      exact (h.mem_stack x).mp hx
    · rintro ⟨hx, hc⟩
      split_ifs at hc with hx'
      have hxs := (h.mem_stack x).mpr ⟨hx, hc⟩
      exact (hstack x).mpr ⟨hxs, by by_contra hvx; exact hx' ((hmem x).mpr ⟨hxs, by omega⟩)⟩
  · -- onStack_iff
    intro x
    rw [hflag, h.onStack_iff, hmem]
    show _ ↔ x ∈ under
    rw [hstack]
    constructor
    · rintro ⟨hx, hxs⟩
      exact ⟨hxs, by by_contra hvx; exact hx ⟨hxs, by omega⟩⟩
    · rintro ⟨hxs, hxv⟩
      exact ⟨fun hx => by omega, hxs⟩
  · -- sorted
    have hp := h.sorted
    rw [hs, List.pairwise_append, List.pairwise_cons] at hp
    exact hp.2.1.2
  · -- reaches_open
    intro x hx
    obtain ⟨hx, hxv⟩ := (hstack x).mp hx
    obtain ⟨u, hu, hux, hxu⟩ := h.reaches_open x hx
    rcases (hopen u).mp hu with rfl | hu
    · exact absurd hux (by omega)
    · exact ⟨u, hu, hux, hxu⟩
  · -- low_reached
    intro x hx
    have hxo := (hopen x).mpr (Or.inr hx)
    obtain ⟨z, hz, hzx, hxz⟩ := h.low_reached x hxo
    have hle := h.low_le x (h.visited_of_open hxo)
    have hlt := h.orderOf_lt_of_open_below hf hx
    exact ⟨z, (hstack z).mpr ⟨hz, by omega⟩, hzx, hxz⟩
  · -- low_looked
    intro x hx y hy hxy hp p hpo hpx
    obtain ⟨hx, hxv⟩ := (hstack x).mp hx
    obtain ⟨hy, hyv⟩ := (hstack y).mp hy
    have hp' : ¬ s.Pending x y := fun hp' => hp (pending_below hf hp')
    obtain ⟨q, hq, hpq, hqy⟩ := h.low_looked x hx y hy hxy hp' p ((hopen p).mpr (Or.inr hpo)) hpx
    rcases (hopen q).mp hq with rfl | hq
    · exact absurd hqy (by omega)
    · exact ⟨q, hq, hpq, hqy⟩
  · -- closed
    intro x c hc y hy
    rcases h.component_cases hnew hc with ⟨hx, rfl⟩ | ⟨hc, -⟩
    · obtain ⟨hxs, hvx⟩ := (hmem x).mp hx
      rcases h.successor_of_root hf hroot hxs hvx hy with hy | ⟨d, hd⟩
      · exact ⟨s.sizes.size, Nat.le_refl _, by rw [hnew.component, if_pos ((hmem y).mpr hy)]⟩
      · exact ⟨d, Nat.le_of_lt (h.component_lt y d hd), hnew.keeps hd⟩
    · obtain ⟨d, hdc, hd⟩ := h.closed x c hc y hy
      exact ⟨d, hdc, hnew.keeps hd⟩
  · -- connected
    intro x y c hx hy
    rcases h.component_cases hnew hx with ⟨hxm, rfl⟩ | ⟨hx', hxc⟩ <;>
      rcases h.component_cases hnew hy with ⟨hym, hyc⟩ | ⟨hy', hyc⟩
    · obtain ⟨hys, hvy⟩ := (hmem y).mp hym
      exact h.reaches_of_open hf ((hmem x).mp hxm).1 hys hvy
    · exact absurd hyc (Nat.lt_irrefl _)
    · exact absurd hxc (by omega)
    · exact h.connected x y c hx' hy'

end Leave

end Inv

end Search

end ImportLint.Cycle
