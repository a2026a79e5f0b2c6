import ImportLint.Proofs.Cycle.Run
import Mathlib.Data.List.Chain

/-!
# Moves of the search for components

A run of the search, move by move and without a bound on their number. A `Stage` is a point of a run: the nodes that
are still to be taken as roots, and the search so far. `Stage.next?` makes the next move, which is a turn of the loop
while a node is open, and `Path` strings moves together. A run is a path to a stage without a next move (`path_run`).

`Stage.Sound` is what every move keeps: the invariant of the search, and that the open nodes are a walk. `next?_cases`
tells the moves that visit a node, which goes on the stack and on the frames, from those that put nothing on either.
-/

namespace ImportLint.Cycle.Search

/-- The open nodes, innermost first. -/
def openNodes (s : Search) : List Nat := s.frames.map Prod.fst

/-- A point of a run: the nodes not taken as roots yet, and the search so far. -/
structure Stage where
  roots : List Nat
  search : Search

namespace Stage

/-- The loop is about to take a turn: some node is open. -/
def isTurn (a : Stage) : Bool := !a.search.frames.isEmpty

/-- The stage after the next move. While a node is open, the loop takes a turn. When none is, the next root is taken,
and visited unless it has been. When there is no root left either, the run is over. -/
def next? (successors : Nat → List Nat) (a : Stage) : Option Stage :=
  match a.search.frames, a.roots with
  | _ :: _, roots => some { roots := roots, search := a.search.step successors }
  | [], root :: roots =>
    match a.search.order? root with
    | some _ => some { roots := roots, search := a.search }
    | none => some { roots := roots, search := a.search.visit root (successors root) }
  | [], [] => none

/-- The next move puts a node on top of a list that the search holds. -/
def pushes (successors : Nat → List Nat) (list : Search → List Nat) (v : Nat) (a : Stage) : Bool :=
  (a.next? successors).any fun b => list b.search == v :: list a.search

end Stage

/-- `Path successors a l b`: the moves made in the stages `l`, one after the other, lead from `a` to `b`. -/
inductive Path (successors : Nat → List Nat) : Stage → List Stage → Stage → Prop
  | refl (a : Stage) : Path successors a [] a
  | move {a b c : Stage} {l : List Stage} (hab : a.next? successors = some b) (hbc : Path successors b l c) :
    Path successors a (a :: l) c

variable {n : Nat} {successors : Nat → List Nat} {s : Search} {a b c : Stage} {l : List Stage}

/-! ## Runs as paths -/

section Moves

variable {root : Nat} {roots : List Nat}

theorem next?_turn (hf : s.frames ≠ []) :
    Stage.next? successors ⟨roots, s⟩ = some ⟨roots, s.step successors⟩ := by
  obtain ⟨f, below, hf⟩ := List.exists_cons_of_ne_nil hf
  simp only [Stage.next?, hf]

theorem next?_skip (hf : s.frames = []) (hr : s.Visited root) :
    Stage.next? successors ⟨root :: roots, s⟩ = some ⟨roots, s⟩ := by
  simp only [Stage.next?, hf, order?_eq_some hr]

theorem next?_root (hf : s.frames = []) (hr : ¬ s.Visited root) :
    Stage.next? successors ⟨root :: roots, s⟩ = some ⟨roots, s.visit root (successors root)⟩ := by
  have ho : s.order? root = none := Option.not_isSome_iff_eq_none.mp hr
  simp only [Stage.next?, hf, ho]

theorem next?_end (hf : s.frames = []) : Stage.next? successors ⟨[], s⟩ = none := by
  simp only [Stage.next?, hf]

/-- The moves: a turn of the loop, a root that has been visited, and one that has not. -/
theorem of_next? (h : a.next? successors = some b) :
    (a.search.frames ≠ [] ∧ b = ⟨a.roots, a.search.step successors⟩) ∨
    ∃ root roots, a.roots = root :: roots ∧ a.search.frames = [] ∧
      ((a.search.Visited root ∧ b = ⟨roots, a.search⟩) ∨
       (¬ a.search.Visited root ∧ b = ⟨roots, a.search.visit root (successors root)⟩)) := by
  obtain ⟨rs, s⟩ := a
  by_cases hf : s.frames = []
  · cases rs with
    | nil => rw [next?_end hf] at h; cases h
    | cons root roots =>
      refine Or.inr ⟨root, roots, rfl, hf, ?_⟩
      by_cases hr : s.Visited root
      · rw [next?_skip hf hr] at h
        exact Or.inl ⟨hr, (Option.some.inj h).symm⟩
      · rw [next?_root hf hr] at h
        exact Or.inr ⟨hr, (Option.some.inj h).symm⟩
  · rw [next?_turn hf] at h
    exact Or.inl ⟨hf, (Option.some.inj h).symm⟩

theorem Path.trans {l' : List Stage} (hab : Path successors a l b) (hbc : Path successors b l' c) :
    Path successors a (l ++ l') c := by
  induction hab with
  | refl => exact hbc
  | move h _ ih => exact .move h (ih hbc)

/-- Exploring takes turns of the loop. -/
theorem path_explore (roots : List Nat) (fuel : Nat) (s : Search) :
    ∃ l, Path successors ⟨roots, s⟩ l ⟨roots, s.explore successors fuel⟩ := by
  induction fuel generalizing s with
  | zero => exact ⟨[], .refl _⟩
  | succ fuel ih =>
    cases hf : s.frames with
    | nil =>
      have hs : s.explore successors (fuel + 1) = s := by simp only [explore, hf]
      rw [hs]
      exact ⟨[], .refl _⟩
    | cons f below =>
      have hs : s.explore successors (fuel + 1) = (s.step successors).explore successors fuel := by
        simp only [explore, hf]
      obtain ⟨l, hl⟩ := ih (s.step successors)
      rw [hs]
      exact ⟨_ :: l, .move (next?_turn (by rw [hf]; simp)) hl⟩

theorem path_searchFrom (roots : List Nat) (fuel : Nat) (hf : s.frames = []) (root : Nat) :
    ∃ l, Path successors ⟨root :: roots, s⟩ l ⟨roots, searchFrom successors fuel s root⟩ := by
  cases ho : s.order? root with
  | some k =>
    have hs : searchFrom successors fuel s root = s := by simp only [searchFrom, ho]
    rw [hs]
    exact ⟨[_], .move (next?_skip hf (by simp [Visited, ho])) (.refl _)⟩
  | none =>
    have hs : searchFrom successors fuel s root = (s.visit root (successors root)).explore successors fuel := by
      simp only [searchFrom, ho]
    obtain ⟨l, hl⟩ := path_explore roots fuel (s.visit root (successors root))
    rw [hs]
    exact ⟨_ :: l, .move (next?_root hf (by simp [Visited, ho])) hl⟩

/-- A run is a path. -/
theorem path_run (hb : ∀ v < n, ∀ w ∈ successors v, w < n) :
    ∃ l, Path successors ⟨List.range n, start n⟩ l ⟨[], run n successors⟩ := by
  unfold run
  set fuel := n + (List.range n).foldl (fun k v => k + (successors v).length) 0 with hfuel
  -- by induction on the roots that are left, with no node open between them
  have key : ∀ (roots : List Nat) (s : Search), (∀ r ∈ roots, r < n) → Inv n successors s → s.frames = [] →
      ∃ l, Path successors ⟨roots, s⟩ l ⟨[], roots.foldl (searchFrom successors fuel) s⟩ := by
    intro roots
    induction roots with
    | nil => exact fun s _ _ _ => ⟨[], .refl _⟩
    | cons root roots ih =>
      intro s hlt h hf
      obtain ⟨hroot, hroots⟩ := List.forall_mem_cons.mp hlt
      obtain ⟨h', hf', -, -⟩ := searchFrom_spec hb h hf hroot (fresh_le n successors s)
      obtain ⟨l, hl⟩ : ∃ l, Path successors ⟨root :: roots, s⟩ l ⟨roots, searchFrom successors fuel s root⟩ :=
        path_searchFrom roots fuel hf root
      obtain ⟨l', hl'⟩ := ih _ hroots h' hf'
      exact ⟨l ++ l', hl.trans hl'⟩
  exact key (List.range n) (start n) (fun r hr => List.mem_range.mp hr) (Inv.start n successors) rfl

end Moves

/-! ## What moves keep -/

/-- The open nodes are a walk: each is a successor of the one below it. -/
def IsWalk (successors : Nat → List Nat) (s : Search) : Prop :=
  s.openNodes.IsChain fun w v => w ∈ successors v

theorem IsWalk.step (hs : s.IsWalk successors) (h : Inv n successors s) : (s.step successors).IsWalk successors := by
  cases hf : s.frames with
  | nil =>
    have hstep : s.step successors = s := by simp only [Search.step, hf]
    rw [hstep]
    exact hs
  | cons f below =>
    obtain ⟨v, l⟩ := f
    have hwalk : (v :: below.map Prod.fst).IsChain fun w v => w ∈ successors v := by
      rw [IsWalk, openNodes, hf] at hs
      exact hs
    rcases step_cases successors hf with ⟨rfl, hstep⟩ | ⟨w, rest, rfl, ⟨-, hstep⟩ | ⟨-, -, hstep⟩ | ⟨-, -, hstep⟩⟩
    · rw [IsWalk, openNodes, hstep, leave_frame.1]
      exact hwalk.tail
    · rw [hstep]
      exact List.isChain_cons_cons.mpr ⟨h.mem_of_pending (pending_head hf), hwalk⟩
    · rw [hstep]
      exact hwalk
    · rw [hstep]
      exact hwalk

/-- What every move keeps. -/
structure Stage.Sound (n : Nat) (successors : Nat → List Nat) (a : Stage) : Prop where
  inv : Inv n successors a.search
  roots_lt : ∀ r ∈ a.roots, r < n
  walk : a.search.IsWalk successors

theorem Stage.sound_start (n : Nat) (successors : Nat → List Nat) :
    Stage.Sound n successors ⟨List.range n, start n⟩ where
  inv := Inv.start n successors
  roots_lt := fun _ hr => List.mem_range.mp hr
  walk := .nil

theorem Stage.Sound.next (ha : a.Sound n successors) (hb : ∀ v < n, ∀ w ∈ successors v, w < n)
    (h : a.next? successors = some b) : b.Sound n successors := by
  rcases of_next? h with ⟨-, rfl⟩ | ⟨root, roots, hroots, hf, hmove⟩
  · exact { inv := ha.inv.step hb, roots_lt := ha.roots_lt, walk := ha.walk.step ha.inv }
  obtain ⟨hroot, hlt⟩ : root < n ∧ ∀ r ∈ roots, r < n := List.forall_mem_cons.mp (hroots ▸ ha.roots_lt)
  rcases hmove with ⟨-, rfl⟩ | ⟨hnew, rfl⟩
  · exact { inv := ha.inv, roots_lt := hlt, walk := ha.walk }
  · refine { inv := ha.inv.visit hroot hnew fun v hv => ?_, roots_lt := hlt, walk := ?_ }
    · obtain ⟨rest, hv⟩ := hv
      simp [hf] at hv
    · simp [IsWalk, openNodes, visit, hf]

theorem Path.sound (hb : ∀ v < n, ∀ w ∈ successors v, w < n) (hl : Path successors a l c)
    (ha : a.Sound n successors) : (∀ b ∈ l, b.Sound n successors) ∧ c.Sound n successors := by
  induction hl with
  | refl a => exact ⟨fun b hb => absurd hb List.not_mem_nil, ha⟩
  | move h _ ih =>
    obtain ⟨hl, hc⟩ := ih (ha.next hb h)
    exact ⟨List.forall_mem_cons.mpr ⟨ha, hl⟩, hc⟩

/-! ## Moves that visit a node -/

/-- A node is visited for the first time: it comes on top of the stack and of the frames. -/
structure Visits (w : Nat) (s t : Search) : Prop where
  fresh : ¬ s.Visited w
  visited : ∀ x, t.Visited x ↔ x = w ∨ s.Visited x
  stack : t.stack = w :: s.stack
  openNodes : t.openNodes = w :: s.openNodes

/-- No node is visited for the first time, and nothing comes on the stack or on the frames. -/
structure Stays (s t : Search) : Prop where
  visited : ∀ x, t.Visited x ↔ s.Visited x
  stack : t.stack.length ≤ s.stack.length
  openNodes : t.openNodes.length ≤ s.openNodes.length

theorem visits_visit {w : Nat} (hw : w < s.order.size) (hnew : ¬ s.Visited w) (l : List Nat) :
    Visits w s (s.visit w l) where
  fresh := hnew
  visited := visited_visit hw l
  stack := rfl
  openNodes := rfl

theorem length_stack_settle (v : Nat) : (s.settle v).stack.length ≤ s.stack.length := by
  unfold settle
  split
  · show (s.stack.drop _).length ≤ _
    rw [List.length_drop]
    exact Nat.sub_le _ _
  · exact Nat.le_refl _

theorem length_stack_leave (v : Nat) (below : List (Nat × List Nat)) :
    (s.leave v below).stack.length ≤ s.stack.length := by
  obtain ⟨low, hlow⟩ := inherit_eq { s with frames := below } v
  calc (s.leave v below).stack.length ≤ (inherit { s with frames := below } v).stack.length := length_stack_settle v
    _ = s.stack.length := by rw [hlow]

theorem stays_leave {v : Nat} {l : List Nat} {below : List (Nat × List Nat)} (hf : s.frames = (v, l) :: below) :
    Stays s (s.leave v below) where
  visited := fun x => by rw [Visited, Visited, order?, order?, leave_frame.2]
  stack := length_stack_leave v below
  openNodes := by simp [openNodes, leave_frame.1, hf]

/-- A move visits a node or puts nothing on the stack and on the frames. -/
theorem next?_cases (ha : a.Sound n successors) (hb : ∀ v < n, ∀ w ∈ successors v, w < n)
    (h : a.next? successors = some b) : (∃ w, Visits w a.search b.search) ∨ Stays a.search b.search := by
  have hsize := ha.inv.size_order
  rcases of_next? h with ⟨hf, rfl⟩ | ⟨root, roots, hroots, hf, ⟨-, rfl⟩ | ⟨hnew, rfl⟩⟩
  · obtain ⟨⟨v, l⟩, below, hf⟩ := List.exists_cons_of_ne_nil hf
    show (∃ w, Visits w a.search (a.search.step successors)) ∨ Stays a.search (a.search.step successors)
    rcases step_cases successors hf with ⟨rfl, hs⟩ | ⟨w, rest, rfl, ⟨hnew, hs⟩ | ⟨-, -, hs⟩ | ⟨-, -, hs⟩⟩
    · rw [hs]
      exact Or.inr (stays_leave hf)
    · have hwn : w < n := ha.inv.lt_of_pending hb (pending_head hf)
      have hv := visits_visit (s := { a.search with frames := (v, rest) :: below }) (hsize ▸ hwn) hnew (successors w)
      rw [hs]
      exact Or.inl ⟨w, { hv with openNodes := by rw [hv.openNodes, openNodes, openNodes, hf]; rfl }⟩
    · rw [hs]
      exact Or.inr { visited := fun _ => Iff.rfl, stack := Nat.le_refl _, openNodes := by simp [openNodes, hf] }
    · rw [hs]
      exact Or.inr { visited := fun _ => Iff.rfl, stack := Nat.le_refl _, openNodes := by simp [openNodes, reach, hf] }
  · exact Or.inr { visited := fun _ => Iff.rfl, stack := Nat.le_refl _, openNodes := Nat.le_refl _ }
  · have hroot : root < n := ha.roots_lt root (by rw [hroots]; simp)
    exact Or.inl ⟨root, visits_visit (hsize ▸ hroot) hnew (successors root)⟩

end ImportLint.Cycle.Search
