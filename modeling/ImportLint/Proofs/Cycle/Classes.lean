import ImportLint.Proofs.Cycle.Components
import Mathlib.Data.Set.Card

/-!
# Classes of modules that lead to each other

Walks of internal edges put the modules of a graph into classes: two modules are in one class if a walk leads from each
to the other (`Graph.classOf`). The components are these classes (`Components.members_eq_classOf`), whatever calls the
graph grew from (`Components.componentOf_eq_iff_leads`). An edge is flagged if a walk leads from its target back to its
source, a module if a walk that is not empty leads back to it, and the number of cycles is the number of classes with
two modules or more (`Components.ofMentions_marksCycles`).
-/

namespace ImportLint

/-- Counting below a bound is counting the elements of a set. -/
theorem countP_range_eq_ncard (n : Nat) (p : Nat → Prop) [DecidablePred p] :
    (List.range n).countP p = {v | v < n ∧ p v}.ncard := by
  have hset : {v | v < n ∧ p v} = (((Finset.range n).filter p : Finset Nat) : Set Nat) := by
    ext v
    simp
  rw [hset, Set.ncard_coe_finset, List.countP_eq_length_filter]
  rfl

/-- The entries of an array with a property, counted by their places. -/
theorem countP_eq_ncard_getD (l : Array Nat) {p : Nat → Prop} [DecidablePred p] (hp : ¬ p 0) :
    l.toList.countP p = {i | p (l.getD i 0)}.ncard := by
  have hl : l.toList = (List.range l.size).map fun i => l.getD i 0 := by
    refine List.ext_getElem (by simp) fun i hi _ => ?_
    have hlt : i < l.size := by simpa using hi
    simp [Array.getD_eq_getD_getElem?, hlt]
  have hset : {i | p (l.getD i 0)} = {i | i < l.size ∧ p (l.getD i 0)} := by
    ext i
    refine ⟨fun hi => ⟨?_, hi⟩, And.right⟩
    by_contra hge
    have hzero : l.getD i 0 = 0 := by simp [Array.getD_eq_getD_getElem?, hge]
    exact hp (hzero ▸ hi)
  rw [hl, List.countP_map, hset, ← countP_range_eq_ncard]
  rfl

namespace Graph

variable {g : Graph}

/-- The modules that a module leads to and that lead to it. -/
def classOf (g : Graph) (a : String) : Set String := {b | b ∈ g.modules ∧ g.Leads a b ∧ g.Leads b a}

/-- The classes of the modules of a graph. -/
def classes (g : Graph) : Set (Set String) := {C | ∃ a ∈ g.modules, C = g.classOf a}

/-! ## Closed walks -/

/-- Walks that are not empty lead back to the sources of edges on cycles. -/
theorem transGen_self_iff_source {a : String} :
    Relation.TransGen g.Imports a a ↔ ∃ e ∈ g.edges, g.OnCycle e ∧ e.source = a := by
  rw [Relation.TransGen.head'_iff]
  constructor
  · rintro ⟨b, ⟨e, he, hi, hs, ht⟩, hback⟩
    exact ⟨e, he, ⟨hi, b, ht, hs ▸ hback⟩, hs⟩
  · rintro ⟨e, he, ⟨hi, b, ht, hback⟩, rfl⟩
    exact ⟨b, ⟨e, he, hi, rfl, ht⟩, hback⟩

/-- Walks that are not empty lead back to the targets of edges on cycles. -/
theorem transGen_self_iff_target {a : String} :
    Relation.TransGen g.Imports a a ↔ ∃ e ∈ g.edges, g.OnCycle e ∧ e.target = .module a := by
  rw [Relation.TransGen.tail'_iff]
  constructor
  · rintro ⟨b, hleads, e, he, hi, hs, ht⟩
    exact ⟨e, he, ⟨hi, a, ht, hs ▸ hleads⟩, ht⟩
  · rintro ⟨e, he, ⟨hi, b, hb, hback⟩, ht⟩
    cases hb.symm.trans ht
    exact ⟨e.source, hback, e, he, hi, rfl, ht⟩

/-- A walk that is not empty leads back to a module if it imports itself or shares its class. -/
theorem transGen_self_iff (h : g.Coherent) (a : String) :
    Relation.TransGen g.Imports a a ↔ g.Imports a a ∨ ∃ b ∈ g.classOf a, b ≠ a := by
  constructor
  · intro hwalk
    obtain ⟨b, ⟨e, he, hi, hs, ht⟩, hback⟩ := Relation.TransGen.head'_iff.mp hwalk
    have hab : g.Imports a b := ⟨e, he, hi, hs, ht⟩
    by_cases hba : b = a
    · exact Or.inl (hba ▸ hab)
    · exact Or.inr ⟨b, ⟨h.target_mem e he b ht, .single hab, hback⟩, hba⟩
  · rintro (hself | ⟨b, ⟨-, hab, hba⟩, hne⟩)
    · exact .single hself
    · rcases Relation.reflTransGen_iff_eq_or_transGen.mp hab with e | hab
      · exact absurd e hne
      · exact hab.trans_left hba

end Graph

namespace Components

variable {g : Graph}

/-! ## Members of components -/

/-- The modules whose component has a number. -/
def members (c : Components) (g : Graph) (i : Nat) : Set String :=
  {a | ∃ v, g.find? a = some v ∧ c.componentOf v = i}

/-- The component of a module is its class. -/
theorem members_eq_classOf (h : g.Coherent) {a : String} {v : Nat} (ha : g.find? a = some v) :
    (ofGraph g).members g ((ofGraph g).componentOf v) = g.classOf a := by
  ext b
  constructor
  · rintro ⟨w, hb, hw⟩
    obtain ⟨hba, hab⟩ := (componentOf_eq_iff h hb ha).mp hw
    exact ⟨h.mem_iff_find.mpr ⟨w, hb⟩, hab, hba⟩
  · rintro ⟨hb, hab, hba⟩
    obtain ⟨w, hw⟩ := h.mem_iff_find.mp hb
    exact ⟨w, hw, (componentOf_eq_iff h hw ha).mpr ⟨hba, hab⟩⟩

theorem ncard_members (h : g.Coherent) (i : Nat) :
    ((ofGraph g).members g i).ncard = (ofGraph g).sizes.getD i 0 := by
  rw [getD_sizes h, countP_range_eq_ncard]
  symm
  refine Set.ncard_congr (fun v hv => g.modules[(⟨v, hv.1⟩ : Fin g.modules.size)]) ?_ ?_ ?_
  · rintro v ⟨hv, hc⟩
    exact ⟨v, h.find_getElem hv, hc⟩
  · intro v w hv hw he
    have hfind := (h.find_getElem hv.1).symm.trans ((congrArg g.find? he).trans (h.find_getElem hw.1))
    exact Option.some.inj hfind
  · rintro a ⟨v, ha, hc⟩
    obtain ⟨hv, hva⟩ := Array.getElem?_eq_some_iff.mp ((h.find a v).mp ha)
    exact ⟨v, ⟨hv, hc⟩, hva⟩

/-- The size of the component of a module is that of its class. -/
theorem sizeOf_eq_ncard (h : g.Coherent) {a : String} {v : Nat} (ha : g.find? a = some v) :
    (ofGraph g).sizeOf v = (g.classOf a).ncard := by
  rw [← members_eq_classOf h ha, ncard_members h]
  rfl

/-- A component has more than one module if another module shares the class. -/
theorem one_lt_sizeOf_iff (h : g.Coherent) {a : String} {v : Nat} (ha : g.find? a = some v) :
    1 < (ofGraph g).sizeOf v ↔ ∃ b ∈ g.classOf a, b ≠ a := by
  constructor
  · intro hlt
    rw [sizeOf_eq_ncard h ha] at hlt
    exact Set.exists_ne_of_one_lt_ncard hlt a
  · rintro ⟨b, ⟨hb, hab, hba⟩, hne⟩
    obtain ⟨w, hw⟩ := h.mem_iff_find.mp hb
    have hwv : w ≠ v := fun e => hne (h.find_inj (e ▸ hw) ha)
    exact one_lt_sizeOf h (h.lt_of_find hw) (h.lt_of_find ha) hwv ((componentOf_eq_iff h hw ha).mpr ⟨hba, hab⟩)

/-! ## Flags and numbers -/

theorem importsItself_iff (a : String) : importsItself g a = true ↔ g.Imports a a := by
  simp only [importsItself, Array.any_eq_true', Bool.and_eq_true, beq_iff_eq, Graph.Imports, and_assoc]

/-- A module is flagged as cyclic if and only if a walk that is not empty leads back to it. -/
theorem isCyclic_iff (h : g.Coherent) {a : String} {v : Nat} (ha : g.find? a = some v) :
    (ofGraph g).isCyclic g v = true ↔ Relation.TransGen g.Imports a a := by
  have hmod : g.modules[v]? = some a := (h.find a v).mp ha
  rw [isCyclic, hmod, Option.any_some, Bool.or_eq_true, decide_eq_true_iff, importsItself_iff, one_lt_sizeOf_iff h ha,
    Graph.transGen_self_iff h, or_comm]

theorem getElem?_cyclicEdges (h : g.Coherent) {i : Nat} {e : Edge} (he : g.edges[i]? = some e) :
    ((ofGraph g).cyclicEdges g)[i]? = some true ↔ g.OnCycle e := by
  rw [cyclicEdges, List.getElem?_map, Array.getElem?_toList, he, Option.map_some, Option.some.injEq,
    isCyclicEdge_iff h (Array.mem_of_getElem? he)]

/-- Flagged edges with a property are edges on cycles with it. -/
theorem exists_flagged_iff (h : g.Coherent) (P : Edge → Prop) :
    (∃ (i : Nat) (e : Edge), g.edges[i]? = some e ∧ ((ofGraph g).cyclicEdges g)[i]? = some true ∧ P e) ↔
      ∃ e ∈ g.edges, g.OnCycle e ∧ P e := by
  constructor
  · rintro ⟨i, e, he, hflag, hP⟩
    exact ⟨e, Array.mem_of_getElem? he, (getElem?_cyclicEdges h he).mp hflag, hP⟩
  · rintro ⟨e, he, hcyc, hP⟩
    obtain ⟨i, hi⟩ := Array.mem_iff_getElem?.mp he
    exact ⟨i, e, hi, (getElem?_cyclicEdges h hi).mpr hcyc, hP⟩

/-- Classes with two modules or more are the components whose size says so. -/
theorem image_members (h : g.Coherent) :
    (ofGraph g).members g '' {i | 1 < (ofGraph g).sizes.getD i 0} = {C ∈ g.classes | 2 ≤ C.ncard} := by
  have hlarge : ∀ i, 1 < (ofGraph g).sizes.getD i 0 ↔ 2 ≤ ((ofGraph g).members g i).ncard := fun i => by
    rw [ncard_members h]
    exact Iff.rfl
  ext C
  constructor
  · rintro ⟨i, hi, rfl⟩
    have hsize := (hlarge i).mp hi
    obtain ⟨a, v, ha, rfl⟩ := Set.nonempty_of_ncard_ne_zero (by omega : ((ofGraph g).members g i).ncard ≠ 0)
    exact ⟨⟨a, h.mem_iff_find.mpr ⟨v, ha⟩, members_eq_classOf h ha⟩, hsize⟩
  · rintro ⟨⟨a, hmem, rfl⟩, hsize⟩
    obtain ⟨v, ha⟩ := h.mem_iff_find.mp hmem
    rw [← members_eq_classOf h ha] at hsize ⊢
    exact ⟨(ofGraph g).componentOf v, (hlarge _).mpr hsize, rfl⟩

/-- The number of cycles is the number of classes with two modules or more. -/
theorem cycleCount_eq (h : g.Coherent) : (ofGraph g).cycleCount = {C ∈ g.classes | 2 ≤ C.ncard}.ncard := by
  have hinj : Set.InjOn ((ofGraph g).members g) {i | 1 < (ofGraph g).sizes.getD i 0} := by
    intro i hi j _ heq
    have hne : ((ofGraph g).members g i).ncard ≠ 0 := by
      rw [ncard_members h]
      exact Nat.ne_of_gt (Nat.lt_of_succ_lt hi)
    obtain ⟨a, v, ha, hv⟩ := Set.nonempty_of_ncard_ne_zero hne
    obtain ⟨w, ha', hw⟩ : a ∈ (ofGraph g).members g j := heq ▸ ⟨v, ha, hv⟩
    rw [ha] at ha'
    cases ha'
    exact hv.symm.trans hw
  rw [cycleCount, countP_eq_ncard_getD _ (by omega : ¬ 1 < 0), ← image_members h, hinj.ncard_image]

/-! ## Graphs that grew from calls -/

/-- Two modules share a component if and only if each can be reached from the other along internal edges. -/
theorem componentOf_eq_iff_leads (ms : List Mention) (u v : Fin (Graph.ofMentions ms).modules.size) :
    (ofGraph (Graph.ofMentions ms)).componentOf u = (ofGraph (Graph.ofMentions ms)).componentOf v ↔
      (Graph.ofMentions ms).Leads (Graph.ofMentions ms).modules[u] (Graph.ofMentions ms).modules[v] ∧
        (Graph.ofMentions ms).Leads (Graph.ofMentions ms).modules[v] (Graph.ofMentions ms).modules[u] := by
  have h := (Graph.ofMentions_reflects ms).coherent
  exact componentOf_eq_iff h (h.find_getElem u.isLt) (h.find_getElem v.isLt)

/-- What the flags and the number of cycles say of a graph: there is a flag for each edge, set if the edge is internal
and a walk leads from its target back to its source; a module is flagged if a walk that is not empty leads back to it,
which is to say that a flagged edge leaves it, or that one leads to it; and there are as many cycles as classes with two
modules or more. -/
structure MarksCycles (c : Components) (g : Graph) : Prop where
  length_cyclicEdges : (c.cyclicEdges g).length = g.edges.size
  edge_iff : ∀ (i : Nat) (e : Edge), g.edges[i]? = some e →
    ((c.cyclicEdges g)[i]? = some true ↔ e.isInternal = true ∧ ∃ b, e.target = .module b ∧ g.Leads b e.source)
  module_iff : ∀ v : Fin g.modules.size,
    c.isCyclic g v = true ↔ Relation.TransGen g.Imports g.modules[v] g.modules[v]
  module_iff_source : ∀ v : Fin g.modules.size, c.isCyclic g v = true ↔
    ∃ (i : Nat) (e : Edge), g.edges[i]? = some e ∧ (c.cyclicEdges g)[i]? = some true ∧ e.source = g.modules[v]
  module_iff_target : ∀ v : Fin g.modules.size, c.isCyclic g v = true ↔
    ∃ (i : Nat) (e : Edge), g.edges[i]? = some e ∧ (c.cyclicEdges g)[i]? = some true ∧
      e.target = .module g.modules[v]
  cycleCount_eq : c.cycleCount = {C ∈ g.classes | 2 ≤ C.ncard}.ncard

/-- After any calls that add modules and records, the flags and the number of cycles are those of the graph. -/
theorem ofMentions_marksCycles (ms : List Mention) :
    (ofGraph (Graph.ofMentions ms)).MarksCycles (Graph.ofMentions ms) := by
  have h := (Graph.ofMentions_reflects ms).coherent
  set g := Graph.ofMentions ms
  have hflag : ∀ v : Fin g.modules.size,
      (ofGraph g).isCyclic g v = true ↔ Relation.TransGen g.Imports g.modules[v] g.modules[v] := fun v =>
    isCyclic_iff h (h.find_getElem v.isLt)
  exact
    { length_cyclicEdges := by simp [cyclicEdges]
      edge_iff := fun i e he => getElem?_cyclicEdges h he
      module_iff := hflag
      module_iff_source := fun v => by rw [hflag v, Graph.transGen_self_iff_source, exists_flagged_iff h]
      module_iff_target := fun v => by rw [hflag v, Graph.transGen_self_iff_target, exists_flagged_iff h]
      cycleCount_eq := cycleCount_eq h }

end Components

end ImportLint
