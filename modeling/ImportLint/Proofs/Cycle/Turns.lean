import ImportLint.Proofs.Cycle.Components
import ImportLint.Proofs.Cycle.Path
import ImportLint.Proofs.Graph.Incidence

/-!
# Turns of the search for components

How much the search does, and in which order it keeps what it holds. `Path.countP_add` counts the moves of a path by
what is left to do: the loop takes one turn for each node and one for each successor (`countP_isTurn_run`), and every
node comes on the stack and on the frames once (`countP_pushes_run`). In a coherent graph the successors are as many as
the internal edges (`Graph.Coherent.sum_length_successors`).

`Components.Traversal` puts this together for the modules and internal edges of a graph, with what holds at each turn
(`Graph.Orderly`) and the bounds of the tables (`Graph.InBounds`).
-/

namespace ImportLint

namespace Cycle.Search

variable {n : Nat} {successors : Nat → List Nat} {s t : Search} {a b c : Stage} {l : List Stage}

/-! ## Counting moves -/

/-- If a number goes down by one with each move in a stage with a property and stays with any other, it goes down by
the number of these stages. -/
theorem Path.countP_add (hb : ∀ v < n, ∀ w ∈ successors v, w < n) {p : Stage → Bool} {f : Stage → Nat}
    (hstep : ∀ a b, a.Sound n successors → a.next? successors = some b → f b + (if p a then 1 else 0) = f a)
    (hl : Path successors a l c) (ha : a.Sound n successors) : f c + l.countP p = f a := by
  induction hl with
  | refl a => simp
  | move h _ ih =>
    have hmove := hstep _ _ ha h
    have hrest := ih (ha.next hb h)
    rw [List.countP_cons]
    omega

/-! ## Turns of the loop -/

/-- A turn of the loop takes one off the work, and no other move does. -/
theorem work_next (hb : ∀ v < n, ∀ w ∈ successors v, w < n) (ha : a.Sound n successors)
    (h : a.next? successors = some b) :
    b.search.work n successors + (if a.isTurn then 1 else 0) = a.search.work n successors := by
  rcases of_next? h with ⟨hf, rfl⟩ | ⟨root, roots, hroots, hf, ⟨-, rfl⟩ | ⟨hnew, rfl⟩⟩
  · have hturn : a.isTurn = true := by simpa [Stage.isTurn] using hf
    rw [if_pos hturn]
    exact work_step ha.inv hb hf
  · simp [Stage.isTurn, hf]
  · have hroot : root < n := ha.roots_lt root (by rw [hroots]; simp)
    rw [work_visit successors hroot (ha.inv.size_order ▸ hroot) hnew]
    simp [Stage.isTurn, hf]

theorem work_start (n : Nat) (successors : Nat → List Nat) :
    (start n).work n successors = n + ((List.range n).map fun v => (successors v).length).sum := by
  have hfresh : (start n).fresh n successors = ((List.range n).map fun v => (successors v).length + 1).sum := by
    unfold fresh
    congr 1
    exact List.map_congr_left fun v _ => if_neg (not_visited_start n v)
  rw [work, hfresh, sum_length_succ]
  simp [start]

theorem work_eq_zero (hf : s.frames = []) (hall : ∀ v < n, s.Visited v) : s.work n successors = 0 := by
  have hfresh : s.fresh n successors = ((List.range n).map fun _ => 0).sum := by
    unfold fresh
    congr 1
    exact List.map_congr_left fun v hv => if_pos (hall v (List.mem_range.mp hv))
  rw [work, hfresh, hf]
  simp

/-- A run takes a turn for each node and one for each successor. -/
theorem countP_isTurn_run (hb : ∀ v < n, ∀ w ∈ successors v, w < n)
    (hl : Path successors ⟨List.range n, start n⟩ l ⟨[], run n successors⟩) :
    l.countP Stage.isTurn = n + ((List.range n).map fun v => (successors v).length).sum := by
  obtain ⟨-, hf, hall⟩ := run_spec hb
  have hcount := hl.countP_add hb (f := fun a => a.search.work n successors)
    (fun _ _ ha h => work_next hb ha h) (Stage.sound_start n successors)
  rw [← work_start, ← hcount, work_eq_zero hf hall, Nat.zero_add]

/-! ## Nodes on the stack and on the frames -/

/-- If a list grows by the nodes that are visited and by no others, then what comes on top of it is what becomes
visited. -/
theorem eq_cons_iff_visited {list : Search → List Nat} (hvisits : ∀ w, Visits w s t → list t = w :: list s)
    (hstays : Stays s t → (list t).length ≤ (list s).length) (h : (∃ w, Visits w s t) ∨ Stays s t) (v : Nat) :
    list t = v :: list s ↔ ¬ s.Visited v ∧ t.Visited v := by
  rcases h with ⟨w, hw⟩ | hst
  · rw [hvisits w hw, List.cons.injEq, and_iff_left rfl, hw.visited]
    constructor
    · rintro rfl
      exact ⟨hw.fresh, Or.inl rfl⟩
    · rintro ⟨hnew, rfl | hv⟩
      · rfl
      · exact absurd hv hnew
  · constructor
    · intro he
      have hlen := hstays hst
      rw [he, List.length_cons] at hlen
      omega
    · rintro ⟨hnew, hv⟩
      exact absurd ((hst.visited v).mp hv) hnew

theorem visited_next (ha : a.Sound n successors) (hb : ∀ v < n, ∀ w ∈ successors v, w < n)
    (h : a.next? successors = some b) {v : Nat} (hv : a.search.Visited v) : b.search.Visited v := by
  rcases next?_cases ha hb h with ⟨w, hw⟩ | hst
  · exact (hw.visited v).mpr (Or.inr hv)
  · exact (hst.visited v).mpr hv

/-- Every node comes once on a list that grows by the nodes that are visited and by no others. -/
theorem countP_pushes_run (hb : ∀ v < n, ∀ w ∈ successors v, w < n)
    (hl : Path successors ⟨List.range n, start n⟩ l ⟨[], run n successors⟩) {list : Search → List Nat}
    (hvisits : ∀ s t w, Visits w s t → list t = w :: list s)
    (hstays : ∀ s t, Stays s t → (list t).length ≤ (list s).length) {v : Nat} (hv : v < n) :
    l.countP (Stage.pushes successors list v) = 1 := by
  -- what goes down is one as long as the node is not visited
  have hstep : ∀ a b : Stage, a.Sound n successors → a.next? successors = some b →
      (if b.search.Visited v then 0 else 1) + (if a.pushes successors list v then 1 else 0) =
        if a.search.Visited v then 0 else 1 := by
    intro a b ha h
    have hpush : a.pushes successors list v = true ↔ ¬ a.search.Visited v ∧ b.search.Visited v := by
      rw [← eq_cons_iff_visited (hvisits _ _) (hstays _ _) (next?_cases ha hb h), Stage.pushes, h]
      simp
    by_cases hva : a.search.Visited v
    · simp [hpush, hva, visited_next ha hb h hva]
    · by_cases hvb : b.search.Visited v <;> simp [hpush, hva, hvb]
  have hcount := hl.countP_add hb hstep (Stage.sound_start n successors)
  obtain ⟨-, -, hall⟩ := run_spec hb
  rw [if_pos (hall v hv), if_neg (not_visited_start n v), Nat.zero_add] at hcount
  exact hcount

/-- When no node is open, the stack is empty. -/
theorem Inv.stack_eq_nil (h : Inv n successors s) (hf : s.frames = []) : s.stack = [] := by
  refine List.eq_nil_iff_forall_not_mem.mpr fun v hv => ?_
  obtain ⟨u, ⟨rest, hu⟩, -⟩ := h.reaches_open v hv
  simp [hf] at hu

end Cycle.Search

/-! ## Successors and internal edges -/

/-- Putting a number into one of the rows of a table. -/
theorem sum_size_modify (rows : List (Array Nat)) {v : Nat} (hv : v < rows.length) (w : Nat) :
    ((rows.modify v (·.push w)).map Array.size).sum = (rows.map Array.size).sum + 1 := by
  induction rows generalizing v with
  | nil => simp at hv
  | cons row rows ih =>
    cases v with
    | zero =>
      simp
      omega
    | succ v =>
      have hrest := ih (v := v) (by simpa using hv)
      simp [hrest]
      omega

open Cycle.Search

namespace Graph

variable {g : Graph}

theorem size_foldl_addSuccessor (es : List Edge) (t : Array (Array Nat)) :
    (es.foldl g.addSuccessor t).size = t.size := by
  induction es generalizing t with
  | nil => rfl
  | cons e es ih => rw [List.foldl_cons, ih, size_addSuccessor]

theorem size_successorTable (g : Graph) : g.successorTable.size = g.modules.size := by
  rw [successorTable, ← Array.foldl_toList, size_foldl_addSuccessor, Array.size_replicate]

/-- Some internal edge leads from the module with one number to the module with another. -/
def ImportsAt (g : Graph) (v w : Nat) : Prop :=
  ∃ a b, g.modules[v]? = some a ∧ g.modules[w]? = some b ∧ g.Imports a b

namespace Coherent

/-- Internal edges become successors, and no other edges do. -/
theorem sum_size_addSuccessor (h : g.Coherent) {e : Edge} (he : e ∈ g.edges) {t : Array (Array Nat)}
    (ht : t.size = g.modules.size) :
    ((g.addSuccessor t e).toList.map Array.size).sum =
      (t.toList.map Array.size).sum + (if e.isInternal then 1 else 0) := by
  cases hi : e.isInternal with
  | false =>
    have hsame : g.addSuccessor t e = t := by simp only [addSuccessor, hi]
    simp [hsame]
  | true =>
    obtain ⟨v, hv⟩ := h.mem_iff_find.mp (h.source_mem e he)
    obtain ⟨b, hb⟩ := Option.isSome_iff_exists.mp (Bool.and_eq_true_iff.mp hi).2
    have htarget : e.target = .module b := Target.module?_eq_some_iff.mp hb
    obtain ⟨w, hw⟩ := h.mem_iff_find.mp (h.target_mem e he b htarget)
    have hpush : g.addSuccessor t e = t.modify v (·.push w) := by
      simp only [addSuccessor, hi, hv, hb, Option.bind_some, hw]
    have hlt : v < t.toList.length := by
      rw [Array.length_toList, ht]
      exact h.lt_of_find hv
    rw [hpush, Array.toList_modify, sum_size_modify _ hlt, if_pos rfl]

/-- The modules have as many successors as there are internal edges. -/
theorem sum_length_successors (h : g.Coherent) :
    ((List.range g.modules.size).map fun v => (g.successors v).length).sum =
      g.edges.toList.countP Edge.isInternal := by
  have key : ∀ (es : List Edge) (t : Array (Array Nat)), (∀ e ∈ es, e ∈ g.edges) → t.size = g.modules.size →
      ((es.foldl g.addSuccessor t).toList.map Array.size).sum =
        (t.toList.map Array.size).sum + es.countP Edge.isInternal := by
    intro es
    induction es with
    | nil => simp
    | cons e es ih =>
      intro t hes ht
      obtain ⟨he, hes⟩ := List.forall_mem_cons.mp hes
      rw [List.foldl_cons, ih _ hes (by rw [size_addSuccessor, ht]), h.sum_size_addSuccessor he ht, List.countP_cons]
      omega
  have hrows : (List.range g.modules.size).map (fun v => (g.successors v).length) =
      g.successorTable.toList.map Array.size := by
    refine List.ext_getElem (by simp [size_successorTable]) fun v hv _ => ?_
    have hlt : v < g.successorTable.size := by simpa [size_successorTable] using hv
    simp [successors, Array.getD_eq_getD_getElem?, hlt]
  rw [hrows, successorTable, ← Array.foldl_toList, key _ _ (fun e he => Array.mem_toList_iff.mp he) (by simp)]
  simp

theorem importsAt_of_mem_successors (h : g.Coherent) {v w : Nat} (hw : w ∈ g.successors v) : g.ImportsAt v w := by
  have hv : v < g.modules.size := by
    by_contra hge
    simp [successors, Array.getD_eq_getD_getElem?, size_successorTable, hge] at hw
  obtain ⟨b, hb, hab⟩ := (h.mem_successors_iff (h.find_getElem hv) w).mp hw
  exact ⟨g.modules[v], b, Array.getElem?_eq_getElem hv, (h.find b w).mp hb, hab⟩

end Coherent

/-! ## What holds at each move -/

/-- What holds of the search at each turn of the loop. The stack has the visited modules without a component and no
others, the last visited first, and just these are flagged as being on it. The open modules are a walk of internal
edges and lie on the stack in the same order. No module has a low number above its own. -/
structure Orderly (g : Graph) (s : Cycle.Search) : Prop where
  mem_stack : ∀ v, v ∈ s.stack ↔ s.Visited v ∧ s.component? v = none
  onStack_iff : ∀ v, s.isOnStack v = true ↔ v ∈ s.stack
  sorted : s.stack.Pairwise fun v w => s.orderOf w < s.orderOf v
  walk : s.openNodes.IsChain fun w v => g.ImportsAt v w
  open_sublist : s.openNodes.Sublist s.stack
  low_le : ∀ v, s.Visited v → s.lowOf v ≤ s.orderOf v

/-- The tables have an entry for each module, and the search holds numbers of modules only. So a move finds the entries
that it looks up or changes: they are those of a root, of an open module, of a successor that is left, or of a module
on the stack. -/
structure InBounds (g : Graph) (a : Stage) : Prop where
  size_successorTable : g.successorTable.size = g.modules.size
  size_order : a.search.order.size = g.modules.size
  size_low : a.search.low.size = g.modules.size
  size_component : a.search.component.size = g.modules.size
  size_onStack : a.search.onStack.size = g.modules.size
  root_lt : ∀ v ∈ a.roots, v < g.modules.size
  open_lt : ∀ v ∈ a.search.openNodes, v < g.modules.size
  left_lt : ∀ f ∈ a.search.frames, ∀ w ∈ f.2, w < g.modules.size
  stack_lt : ∀ v ∈ a.search.stack, v < g.modules.size

variable {a : Stage}

theorem Coherent.orderly (h : g.Coherent) (ha : a.Sound g.modules.size g.successors) : g.Orderly a.search where
  mem_stack := ha.inv.mem_stack
  onStack_iff := ha.inv.onStack_iff
  sorted := ha.inv.sorted
  walk := ha.walk.imp fun _ _ hw => h.importsAt_of_mem_successors hw
  open_sublist := ha.inv.open_sublist
  low_le := ha.inv.low_le

theorem Coherent.inBounds (h : g.Coherent) (ha : a.Sound g.modules.size g.successors) : g.InBounds a where
  size_successorTable := g.size_successorTable
  size_order := ha.inv.size_order
  size_low := ha.inv.size_low
  size_component := ha.inv.size_component
  size_onStack := ha.inv.size_onStack
  root_lt := ha.roots_lt
  open_lt := fun _ hv => ha.inv.lt_of_mem (ha.inv.open_sublist.subset hv)
  left_lt := fun f hf _ hw => ha.inv.lt_of_pending h.successors_lt ⟨f.2, hf, hw⟩
  stack_lt := fun _ hv => ha.inv.lt_of_mem hv

end Graph

namespace Components

/-- How the search for the components of a graph goes, told by the stages in which a move is made and the last stage,
in which none is. Every move finds the entries that it looks up. Each module comes once on the frames and once on the
stack. The loop takes as many turns as there are modules and internal edges, each in good order, and between the roots
the frames and the stack are empty. -/
structure Traversal (c : Components) (g : Graph) (stages : List Stage) (last : Stage) : Prop where
  path : Path g.successors ⟨List.range g.modules.size, start g.modules.size⟩ stages last
  ends : last.next? g.successors = none
  found : c = { number := last.search.component.map (·.getD 0), sizes := last.search.sizes }
  inBounds : ∀ a ∈ stages, g.InBounds a
  opened_once : ∀ v < g.modules.size, stages.countP (Stage.pushes g.successors openNodes v) = 1
  stacked_once : ∀ v < g.modules.size, stages.countP (Stage.pushes g.successors stack v) = 1
  turns : stages.countP Stage.isTurn = g.modules.size + g.edges.toList.countP Edge.isInternal
  orderly : ∀ a ∈ stages, a.isTurn = true → g.Orderly a.search
  at_rest : ∀ a, a ∈ stages ∨ a = last → a.isTurn = false → a.search.frames = [] ∧ a.search.stack = []

/-- After any calls that add modules and records, the search for the components ends after one turn for each module and
one for each internal edge. -/
theorem ofMentions_traversal (ms : List Mention) :
    ∃ stages last, (ofGraph (Graph.ofMentions ms)).Traversal (Graph.ofMentions ms) stages last := by
  have h := (Graph.ofMentions_reflects ms).coherent
  set g := Graph.ofMentions ms
  obtain ⟨stages, hpath⟩ := path_run h.successors_lt
  obtain ⟨-, hf, -⟩ := run_spec h.successors_lt
  obtain ⟨hsound, hlast⟩ := hpath.sound h.successors_lt (Stage.sound_start g.modules.size g.successors)
  refine ⟨stages, ⟨[], run g.modules.size g.successors⟩,
    { path := hpath
      ends := next?_end hf
      found := ofGraph_eq g
      inBounds := fun a ha => h.inBounds (hsound a ha)
      opened_once := fun v hv => countP_pushes_run h.successors_lt hpath (fun _ _ _ hw => hw.openNodes)
        (fun _ _ hs => hs.openNodes) hv
      stacked_once := fun v hv => countP_pushes_run h.successors_lt hpath (fun _ _ _ hw => hw.stack)
        (fun _ _ hs => hs.stack) hv
      turns := by rw [countP_isTurn_run h.successors_lt hpath, h.sum_length_successors]
      orderly := fun a ha _ => h.orderly (hsound a ha)
      at_rest := fun a ha hrest => ?_ }⟩
  have hframes : a.search.frames = [] := by simpa [Stage.isTurn] using hrest
  have hinv : Inv g.modules.size g.successors a.search := by
    rcases ha with ha | rfl
    · exact (hsound a ha).inv
    · exact hlast.inv
  exact ⟨hframes, hinv.stack_eq_nil hframes⟩

end Components

end ImportLint
