import ImportLint.Proofs.Cycle.Components
import Mathlib.Data.List.FinRange

/-!
# Component numbers as a certificate

Components are numbered in the order in which the search completes them, and a component is complete only after all that
it leads to. So the numbers order the graph: an internal edge between two components leads to the lower number
(`Components.Certificate`). No number is left out, since a component that is completed has a member
(`Cycle.Search.sizes_pos_run`), and no module is left without one. Where no cycle is in the way, a list of the modules
by component number has every module behind those that it imports.
-/

namespace ImportLint

namespace Cycle.Search

variable {s : Search} {successors : Nat → List Nat}

/-! ## Sizes of components -/

/-- Settling a node completes no component or one with a member. -/
theorem sizes_settle (v : Nat) :
    (s.settle v).sizes = s.sizes ∨ ∃ k, (s.settle v).sizes = s.sizes.push (k + 1) := by
  unfold settle
  split
  · exact Or.inr ⟨_, rfl⟩
  · exact Or.inl rfl

theorem sizes_pos_settle (h : ∀ k ∈ s.sizes, 0 < k) (v : Nat) : ∀ k ∈ (s.settle v).sizes, 0 < k := by
  intro k hk
  rcases sizes_settle (s := s) v with he | ⟨m, he⟩
  · exact h k (he ▸ hk)
  · rw [he] at hk
    rcases Array.mem_push.mp hk with hk | rfl
    · exact h k hk
    · exact Nat.succ_pos m

/-- A step leaves no component empty. -/
theorem sizes_pos_step (h : ∀ k ∈ s.sizes, 0 < k) : ∀ k ∈ (s.step successors).sizes, 0 < k := by
  cases hf : s.frames with
  | nil => simpa only [step, hf] using h
  | cons f below =>
    obtain ⟨v, l⟩ := f
    rcases step_cases successors hf with ⟨rfl, hs⟩ | ⟨w, rest, rfl, ⟨-, hs⟩ | ⟨-, -, hs⟩ | ⟨-, -, hs⟩⟩
    · obtain ⟨low, hlow⟩ := inherit_eq { s with frames := below } v
      rw [hs]
      exact sizes_pos_settle (by rw [hlow]; exact h) v
    all_goals
      rw [hs]
      exact h

theorem sizes_pos_explore (fuel : Nat) (h : ∀ k ∈ s.sizes, 0 < k) :
    ∀ k ∈ (s.explore successors fuel).sizes, 0 < k := by
  induction fuel generalizing s with
  | zero => exact h
  | succ fuel ih =>
    unfold explore
    split
    · exact h
    · exact ih (sizes_pos_step h)

/-- No component is empty in the end. -/
theorem sizes_pos_run (n : Nat) (successors : Nat → List Nat) : ∀ k ∈ (run n successors).sizes, 0 < k := by
  unfold run
  refine List.foldlRecOn (motive := fun s : Search => ∀ k ∈ s.sizes, 0 < k) _ _ (by simp [start]) fun s h root _ => ?_
  unfold searchFrom
  split
  · exact h
  · exact sizes_pos_explore _ h

end Cycle.Search

/-- In a list sorted by a number, what has the lower number comes first. -/
theorem idxOf_lt_idxOf_of_pairwise {α : Type} [DecidableEq α] {f : α → Nat} {l : List α}
    (hl : l.Pairwise fun a b => f a ≤ f b) {a b : α} (ha : a ∈ l) (hb : b ∈ l) (hlt : f a < f b) :
    l.idxOf a < l.idxOf b := by
  have hia := List.idxOf_lt_length_of_mem ha
  have hib := List.idxOf_lt_length_of_mem hb
  by_contra hge
  rcases Nat.lt_or_eq_of_le (Nat.le_of_not_lt hge) with hi | hi
  · have hle := List.pairwise_iff_getElem.mp hl _ _ hib hia hi
    rw [List.getElem_idxOf, List.getElem_idxOf] at hle
    omega
  · have hab : b = a := by rw [← List.getElem_idxOf hib, ← List.getElem_idxOf hia]; simp [hi]
    rw [hab] at hlt
    exact Nat.lt_irrefl _ hlt

namespace Components

variable {g : Graph}

/-- The numbers of components are those below the number of components. -/
theorem exists_componentOf_iff (h : g.Coherent) (i : Nat) :
    (∃ v, v < g.modules.size ∧ (ofGraph g).componentOf v = i) ↔ i < (ofGraph g).sizes.size := by
  constructor
  · rintro ⟨v, hv, rfl⟩
    obtain ⟨hinv, -, -⟩ := Cycle.Search.run_spec h.successors_lt
    exact hinv.component_lt v _ (component?_eq h hv)
  · intro hi
    have hpos : 0 < (ofGraph g).sizes.getD i 0 := by
      rw [Array.getD_eq_getD_getElem?, Array.getElem?_eq_getElem hi]
      exact Cycle.Search.sizes_pos_run _ _ _ (Array.getElem_mem hi)
    rw [getD_sizes h, List.countP_pos_iff] at hpos
    obtain ⟨v, hv, hc⟩ := hpos
    exact ⟨v, List.mem_range.mp hv, of_decide_eq_true hc⟩

/-- An internal edge does not lead to a higher number. -/
theorem componentOf_le_of_imports (h : g.Coherent) {a b : String} {v w : Nat} (ha : g.find? a = some v)
    (hb : g.find? b = some w) (hab : g.Imports a b) : (ofGraph g).componentOf w ≤ (ofGraph g).componentOf v := by
  obtain ⟨hinv, -, -⟩ := Cycle.Search.run_spec h.successors_lt
  obtain ⟨d, hd, hw⟩ := hinv.closed v _ (component?_eq h (h.lt_of_find ha)) w
    ((h.mem_successors_iff ha w).mpr ⟨b, hb, hab⟩)
  rw [component?_eq h (h.lt_of_find hb)] at hw
  exact Option.some.inj hw ▸ hd

/-- What the numbers of components say of a graph. Every number below that of the components is used and no other; the
size of a component is the number of modules that have its number; an internal edge between two components leads to
the lower number. So if no component has two modules and no module imports itself, a list of the modules by component
number has the target of every internal edge before its source. -/
structure Certificate (c : Components) (g : Graph) : Prop where
  used_iff : ∀ i, (∃ v : Fin g.modules.size, c.componentOf v = i) ↔ i < c.sizes.size
  sizeOf_eq : ∀ v : Fin g.modules.size,
    c.sizeOf v = (List.finRange g.modules.size).countP fun w : Fin g.modules.size => c.componentOf w = c.componentOf v
  descends : ∀ u v : Fin g.modules.size, g.Imports g.modules[u] g.modules[v] →
    c.componentOf u ≠ c.componentOf v → c.componentOf v < c.componentOf u
  lists : (∀ u v : Fin g.modules.size, c.componentOf u = c.componentOf v → u = v) →
    (∀ v : Fin g.modules.size, ¬ g.Imports g.modules[v] g.modules[v]) →
    ∀ l : List (Fin g.modules.size), l.Perm (List.finRange g.modules.size) →
      l.Pairwise (fun u v : Fin g.modules.size => c.componentOf u ≤ c.componentOf v) →
      ∀ u v : Fin g.modules.size, g.Imports g.modules[u] g.modules[v] → l.idxOf v < l.idxOf u

/-- After any calls that add modules and records, the numbers of the components certify the order of the graph. -/
theorem ofMentions_certificate (ms : List Mention) :
    (ofGraph (Graph.ofMentions ms)).Certificate (Graph.ofMentions ms) := by
  have h := (Graph.ofMentions_reflects ms).coherent
  set g := Graph.ofMentions ms
  have hdesc : ∀ u v : Fin g.modules.size, g.Imports g.modules[u] g.modules[v] →
      (ofGraph g).componentOf u ≠ (ofGraph g).componentOf v →
      (ofGraph g).componentOf v < (ofGraph g).componentOf u := fun u v huv hne =>
    Nat.lt_of_le_of_ne (componentOf_le_of_imports h (h.find_getElem u.isLt) (h.find_getElem v.isLt) huv) hne.symm
  refine
    { used_iff := fun i => ?_
      sizeOf_eq := fun v => ?_
      descends := hdesc
      lists := fun hone hself l hperm hsorted u v huv => ?_ }
  · rw [← exists_componentOf_iff h]
    constructor
    · rintro ⟨v, hv⟩
      exact ⟨v, v.isLt, hv⟩
    · rintro ⟨v, hlt, hv⟩
      exact ⟨⟨v, hlt⟩, hv⟩
  · rw [Components.sizeOf_eq h, ← List.map_coe_finRange_eq_range, List.countP_map]
    rfl
  · have hmem : ∀ x, x ∈ l := fun x => hperm.mem_iff.mpr (List.mem_finRange x)
    have hne : (ofGraph g).componentOf u ≠ (ofGraph g).componentOf v := fun e => hself u (by
      have huv' := huv
      rw [← hone u v e] at huv'
      exact huv')
    exact idxOf_lt_idxOf_of_pairwise hsorted (hmem v) (hmem u) (hdesc u v huv hne)

end Components

end ImportLint
