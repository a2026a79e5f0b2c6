import ImportLint.Cycle.Components
import ImportLint.Proofs.Cycle.Run
import ImportLint.Proofs.Graph.Coherence

/-!
# Cycles of imports

What it means for an edge to be on a cycle (`Graph.OnCycle`), in terms of walks along internal edges. In a coherent
graph two modules share a component if and only if such walks lead from each to the other
(`Components.componentOf_eq_iff`), and the edges flagged as cyclic are those on a cycle
(`Components.isCyclicEdge_iff`).
-/

namespace ImportLint

namespace Graph

/-- Some internal edge leads from one module to another. -/
def Imports (g : Graph) (a b : String) : Prop :=
  ∃ e ∈ g.edges, e.isInternal = true ∧ e.source = a ∧ e.target = .module b

/-- A walk of internal edges, which may be empty, leads from one module to another. -/
def Leads (g : Graph) : String → String → Prop := Relation.ReflTransGen g.Imports

/-- The edge is on a directed cycle of internal edges: it is one of them, and a walk leads from its target back to
its source. -/
def OnCycle (g : Graph) (e : Edge) : Prop :=
  e.isInternal = true ∧ ∃ b, e.target = .module b ∧ g.Leads b e.source

/-! ## The table of successors -/

/-- The numbers of the modules that the module with a number imports. -/
def successors (g : Graph) (v : Nat) : List Nat := (g.successorTable.getD v #[]).toList

variable {g : Graph}

theorem size_addSuccessor (t : Array (Array Nat)) (e : Edge) : (g.addSuccessor t e).size = t.size := by
  unfold addSuccessor
  split <;> simp

theorem mem_addSuccessor {t : Array (Array Nat)} (e : Edge) {v : Nat} (hv : v < t.size) (w : Nat) :
    w ∈ (g.addSuccessor t e).getD v #[] ↔ w ∈ t.getD v #[] ∨
      (e.isInternal = true ∧ g.find? e.source = some v ∧ e.target.module?.bind g.find? = some w) := by
  unfold addSuccessor
  split
  · next x y hi hx hy =>
    rw [hi, hx, hy]
    by_cases hxv : x = v
    · subst hxv
      simp [Array.getD_eq_getD_getElem?, Array.getElem_modify_self, hv, eq_comm]
    · simp [Array.getD_eq_getD_getElem?, Array.getElem?_modify, hxv]
  · next hne =>
    constructor
    · exact Or.inl
    · rintro (h | ⟨hi, hx, hy⟩)
      · exact h
      · exact absurd hy (hne v w hi hx)

theorem mem_foldl_addSuccessor (es : List Edge) {t : Array (Array Nat)} {v : Nat} (hv : v < t.size) (w : Nat) :
    w ∈ (es.foldl g.addSuccessor t).getD v #[] ↔ w ∈ t.getD v #[] ∨
      ∃ e ∈ es, e.isInternal = true ∧ g.find? e.source = some v ∧ e.target.module?.bind g.find? = some w := by
  induction es generalizing t with
  | nil => simp
  | cons e es ih =>
    rw [List.foldl_cons, ih (by rw [size_addSuccessor]; exact hv), mem_addSuccessor e hv, or_assoc]
    simp

/-- The successors of a number are the numbers that internal edges lead to. -/
theorem mem_successors {v : Nat} (hv : v < g.modules.size) (w : Nat) :
    w ∈ g.successors v ↔
      ∃ e ∈ g.edges, e.isInternal = true ∧ g.find? e.source = some v ∧ e.target.module?.bind g.find? = some w := by
  rw [successors, Array.mem_toList_iff, successorTable, ← Array.foldl_toList,
    mem_foldl_addSuccessor _ (by rw [Array.size_replicate]; exact hv)]
  simp [Array.getD_eq_getD_getElem?, hv]

namespace Coherent

/-- Successors are imported modules, by number. -/
theorem mem_successors_iff (h : g.Coherent) {a : String} {v : Nat} (ha : g.find? a = some v) (w : Nat) :
    w ∈ g.successors v ↔ ∃ b, g.find? b = some w ∧ g.Imports a b := by
  rw [mem_successors (h.lt_of_find ha)]
  constructor
  · rintro ⟨e, he, hi, hs, ht⟩
    obtain ⟨b, hb, hw⟩ := Option.bind_eq_some_iff.mp ht
    refine ⟨b, hw, e, he, hi, h.find_inj hs ha, ?_⟩
    cases htar : e.target with
    | module id =>
      rw [htar] at hb
      exact congrArg Target.module (Option.some.inj hb)
    | unresolved s =>
      rw [htar] at hb
      cases hb
  · rintro ⟨b, hw, e, he, hi, hs, ht⟩
    exact ⟨e, he, hi, hs ▸ ha, by rw [ht]; exact hw⟩

theorem successors_lt (h : g.Coherent) : ∀ v < g.modules.size, ∀ w ∈ g.successors v, w < g.modules.size := by
  intro v hv w hw
  obtain ⟨e, -, -, -, ht⟩ := (mem_successors hv w).mp hw
  obtain ⟨b, -, hb⟩ := Option.bind_eq_some_iff.mp ht
  exact h.lt_of_find hb

/-- Walks between numbers are walks between modules. -/
theorem reaches_iff (h : g.Coherent) {a b : String} {v w : Nat} (ha : g.find? a = some v)
    (hb : g.find? b = some w) : Cycle.Reaches g.successors v w ↔ g.Leads a b := by
  constructor
  · intro hr
    suffices ∃ c, g.find? c = some w ∧ g.Leads a c by
      obtain ⟨c, hc, hl⟩ := this
      exact h.find_inj hc hb ▸ hl
    clear hb
    induction hr with
    | refl => exact ⟨a, ha, .refl⟩
    | tail _ hstep ih =>
      obtain ⟨c, hc, hl⟩ := ih
      obtain ⟨d, hd, hi⟩ := (h.mem_successors_iff hc _).mp hstep
      exact ⟨d, hd, hl.tail hi⟩
  · intro hl
    suffices ∃ x, g.find? b = some x ∧ Cycle.Reaches g.successors v x by
      obtain ⟨x, hx, hr⟩ := this
      rw [hb] at hx
      exact Option.some.inj hx ▸ hr
    clear hb
    induction hl with
    | refl => exact ⟨v, ha, .refl⟩
    | tail _ hstep ih =>
      obtain ⟨x, hx, hr⟩ := ih
      obtain ⟨e, he, hi, hs, ht⟩ := hstep
      obtain ⟨y, hy⟩ := h.mem_iff_find.mp (h.target_mem e he _ ht)
      exact ⟨y, hy, hr.tail ((h.mem_successors_iff hx y).mpr ⟨_, hy, e, he, hi, hs, ht⟩)⟩

end Coherent

end Graph

/-! ## Components -/

namespace Components

variable {g : Graph}

theorem ofGraph_eq (g : Graph) :
    ofGraph g =
      { number := (Cycle.Search.run g.modules.size g.successors).component.map (·.getD 0)
        sizes := (Cycle.Search.run g.modules.size g.successors).sizes } := rfl

/-- The search gives every module its component. -/
theorem component?_eq (h : g.Coherent) {v : Nat} (hv : v < g.modules.size) :
    (Cycle.Search.run g.modules.size g.successors).component? v = some ((ofGraph g).componentOf v) := by
  obtain ⟨c, hc⟩ := Cycle.Search.component?_run h.successors_lt hv
  rw [hc, ofGraph_eq, componentOf]
  rw [Cycle.Search.component?, Option.join_eq_some_iff] at hc
  simp [Array.getD_eq_getD_getElem?, hc]

/-- Two modules share a component if and only if walks of internal edges lead from each to the other. -/
theorem componentOf_eq_iff (h : g.Coherent) {a b : String} {v w : Nat} (ha : g.find? a = some v)
    (hb : g.find? b = some w) :
    (ofGraph g).componentOf v = (ofGraph g).componentOf w ↔ g.Leads a b ∧ g.Leads b a := by
  have hv := h.lt_of_find ha
  have hw := h.lt_of_find hb
  have hiff := Cycle.Search.component?_run_eq_iff h.successors_lt hv hw
  rw [component?_eq h hv, component?_eq h hw, Option.some.injEq, h.reaches_iff ha hb, h.reaches_iff hb ha] at hiff
  exact hiff

/-- A component has as many modules as its size says, and a number that is no component has none. -/
theorem getD_sizes (h : g.Coherent) (i : Nat) :
    (ofGraph g).sizes.getD i 0 = (List.range g.modules.size).countP fun w => (ofGraph g).componentOf w = i := by
  obtain ⟨hinv, -, -⟩ := Cycle.Search.run_spec h.successors_lt
  show (Cycle.Search.run g.modules.size g.successors).sizes.getD i 0 = _
  rw [hinv.size_eq]
  refine List.countP_congr fun w hw => ?_
  rw [decide_eq_true_iff, decide_eq_true_iff, component?_eq h (List.mem_range.mp hw), Option.some.injEq]

/-- The size of a component is the number of modules in it. -/
theorem sizeOf_eq (h : g.Coherent) (v : Nat) :
    (ofGraph g).sizeOf v =
      (List.range g.modules.size).countP fun w => (ofGraph g).componentOf w = (ofGraph g).componentOf v :=
  getD_sizes h _

/-- Two modules that share a component make it larger than one. -/
theorem one_lt_sizeOf (h : g.Coherent) {v w : Nat} (hv : v < g.modules.size) (hw : w < g.modules.size) (hne : v ≠ w)
    (he : (ofGraph g).componentOf v = (ofGraph g).componentOf w) : 1 < (ofGraph g).sizeOf w := by
  rw [sizeOf_eq h, List.countP_eq_length_filter]
  set l := (List.range g.modules.size).filter fun x => (ofGraph g).componentOf x = (ofGraph g).componentOf w with hl
  have hvl : v ∈ l := List.mem_filter.mpr ⟨List.mem_range.mpr hv, decide_eq_true he⟩
  have hwl : w ∈ l := List.mem_filter.mpr ⟨List.mem_range.mpr hw, decide_eq_true rfl⟩
  match l, hvl, hwl with
  | [x], hvl, hwl => exact absurd ((List.mem_singleton.mp hvl).trans (List.mem_singleton.mp hwl).symm) hne
  | x :: y :: rest, _, _ => simp

/-- The edges flagged as cyclic are those on a cycle of internal edges. -/
theorem isCyclicEdge_iff (h : g.Coherent) {e : Edge} (he : e ∈ g.edges) :
    (ofGraph g).isCyclicEdge g e = true ↔ g.OnCycle e := by
  unfold isCyclicEdge Graph.OnCycle
  cases ht : e.target with
  | unresolved s => simp
  | module b =>
    obtain ⟨v, hv⟩ := h.mem_iff_find.mp (h.source_mem e he)
    obtain ⟨w, hw⟩ := h.mem_iff_find.mp (h.target_mem e he b ht)
    have hl : g.Leads e.source b ∨ e.isInternal = false := by
      cases hi : e.isInternal with
      | true => exact Or.inl (.single ⟨e, he, hi, rfl, ht⟩)
      | false => exact Or.inr rfl
    simp only [hv, hw, Bool.and_eq_true, Bool.or_eq_true, beq_iff_eq, decide_eq_true_eq, Target.module.injEq,
      exists_eq_left']
    refine and_congr_right fun hi => ⟨?_, fun hback => ?_⟩
    · rintro (rfl | ⟨hc, -⟩)
      · exact .refl
      · exact ((componentOf_eq_iff h hv hw).mp hc).2
    · by_cases hbs : b = e.source
      · exact Or.inl hbs
      · have hc := (componentOf_eq_iff h hv hw).mpr ⟨hl.resolve_right (by simp [hi]), hback⟩
        have hne : v ≠ w := fun e' => hbs (h.find_inj (e' ▸ hw) hv)
        exact Or.inr ⟨hc, one_lt_sizeOf h (h.lt_of_find hv) (h.lt_of_find hw) hne hc⟩

end Components

end ImportLint
