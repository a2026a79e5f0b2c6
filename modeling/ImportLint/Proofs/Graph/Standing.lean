import ImportLint.Graph.Standing
import Mathlib.Data.List.Basic
import Mathlib.Tactic.Common
import Std.Data.HashSet.Lemmas

/-!
# Where modules stand

The ends collected from all edges of a graph are what they are called (`Ends.mem_importing`, `Ends.mem_imported`,
`Ends.mem_internal`), and they give every module the standing that the edges touching it give (`Graph.standing_eq`).
-/

namespace ImportLint

namespace Ends

theorem mem_importing_add (id : String) (s : Ends) (e : Edge) :
    id ∈ (s.add e).importing ↔ e.source = id ∨ id ∈ s.importing := by
  unfold add
  split <;> simp

theorem mem_imported_add (id : String) (s : Ends) (e : Edge) :
    id ∈ (s.add e).imported ↔ e.target = .module id ∨ id ∈ s.imported := by
  unfold add
  split <;> simp [*]

theorem mem_internal_add (id : String) (s : Ends) (e : Edge) :
    id ∈ (s.add e).internal ↔
      (e.isInternal = true ∧ (e.source = id ∨ e.target = .module id)) ∨ id ∈ s.internal := by
  unfold add
  split
  · next ht => simp [Edge.isInternal, ht, Target.module?]
  · next t ht =>
    split_ifs with hi
    · simp [hi, ht, or_assoc, or_comm]
    · simp [hi]

/-- What each edge adds to one of the sets adds up. -/
theorem mem_foldl_add {id : String} {ends : Ends → Std.HashSet String} {P : Edge → Prop}
    (hadd : ∀ s e, id ∈ ends (add s e) ↔ P e ∨ id ∈ ends s) (es : List Edge) (s : Ends) :
    id ∈ ends (es.foldl add s) ↔ (∃ e ∈ es, P e) ∨ id ∈ ends s := by
  induction es generalizing s with
  | nil => simp
  | cons e es ih =>
    rw [List.foldl_cons, ih, hadd, List.exists_mem_cons_iff, or_left_comm, ← or_assoc]

/-- The sources of edges. -/
theorem mem_importing (g : Graph) (id : String) : id ∈ (ofGraph g).importing ↔ ∃ e ∈ g.edges, e.source = id := by
  rw [ofGraph, ← Array.foldl_toList, mem_foldl_add (mem_importing_add id)]
  simp [empty]

/-- The modules that edges lead to. -/
theorem mem_imported (g : Graph) (id : String) :
    id ∈ (ofGraph g).imported ↔ ∃ e ∈ g.edges, e.target = .module id := by
  rw [ofGraph, ← Array.foldl_toList, mem_foldl_add (mem_imported_add id)]
  simp [empty]

/-- The modules that internal edges touch. -/
theorem mem_internal (g : Graph) (id : String) :
    id ∈ (ofGraph g).internal ↔ ∃ e ∈ g.edges, e.isInternal = true ∧ (e.source = id ∨ e.target = .module id) := by
  rw [ofGraph, ← Array.foldl_toList, mem_foldl_add (mem_internal_add id)]
  simp [empty]

/-- The standing of a module, from the edges that touch it. -/
theorem standing_ofGraph (g : Graph) (id : String) :
    (ofGraph g).standing id =
      if ∃ e ∈ g.edges, e.isInternal = true ∧ (e.source = id ∨ e.target = .module id) then .connected
      else if (¬ ∃ e ∈ g.edges, e.source = id) ∧ ∃ e ∈ g.edges, e.target = .module id then .package
      else .orphan := by
  unfold standing
  simp only [← mem_importing, ← mem_imported, ← mem_internal, Std.HashSet.contains_iff_mem, Bool.and_eq_true,
    Bool.not_eq_true', ← Bool.not_eq_true]

end Ends

/-- Both ways to tell the standing of a module agree. -/
theorem Graph.standing_eq (g : Graph) (id : String) : g.standing id = (Ends.ofGraph g).standing id := by
  have hin : g.internalIn id = 0 ↔ ¬ ∃ e ∈ g.edges, e.isInternal = true ∧ e.target = .module id := by
    simp [internalIn]
  have hout : g.internalOut id = 0 ↔ ¬ ∃ e ∈ g.edges, e.isInternal = true ∧ e.source = id := by
    simp [internalOut]
  have hpackage : g.isPackage id = true ↔ (¬ ∃ e ∈ g.edges, e.source = id) ∧
      (∃ e ∈ g.edges, e.target = .module id) ∧
      ¬ ∃ e ∈ g.edges, e.isInternal = true ∧ e.target = .module id := by
    rw [isPackage, Bool.and_eq_true, Bool.and_eq_true, Bool.not_eq_true', Bool.not_eq_true', ← Bool.not_eq_true,
      ← Bool.not_eq_true, Array.any_eq_true', Array.any_eq_true', Array.any_eq_true', and_assoc]
    simp only [beq_iff_eq, Bool.and_eq_true]
  rw [Ends.standing_ofGraph, standing]
  simp only [hin, hout, hpackage, and_or_left, exists_or]
  split_ifs <;> grind

end ImportLint
