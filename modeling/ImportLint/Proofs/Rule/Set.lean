import ImportLint.Rule.Set
import Mathlib.Data.List.Nodup
import Mathlib.Tactic.Common

/-!
# What rule sets assure

Parts make a rule set, with nothing else in it (`RuleSet.ofParts_eq_ok_iff`), if no two rules share a name and every
element that a relation names has a pattern (`RuleSet.problems_eq_nil_iff`). So a name tells its rule
(`RuleSet.eq_of_name_eq`).
-/

namespace ImportLint

variable [PatternLanguage]

namespace RuleSet

theorem duplicates_eq_nil_iff (seen : List String) (rs : List Rule) :
    duplicates seen rs = [] ↔ (rs.map Rule.name).Nodup ∧ ∀ r ∈ rs, r.name ∉ seen := by
  induction rs generalizing seen with
  | nil => simp [duplicates]
  | cons r rs ih =>
    by_cases hr : r.name ∈ seen
    · rw [duplicates, if_pos (List.contains_iff_mem.mpr hr)]
      exact iff_of_false (List.cons_ne_nil _ _) fun h => h.2 r List.mem_cons_self hr
    · -- the names before the rest are those seen and the name of `r`
      rw [duplicates, if_neg (fun h => hr (List.contains_iff_mem.mp h)), ih, List.map_cons, List.nodup_cons]
      simp only [List.mem_cons, not_or, List.mem_map, not_exists, not_and, forall_eq_or_imp]
      constructor
      · rintro ⟨hn, h⟩
        exact ⟨⟨fun x hx => (h x hx).1, hn⟩, hr, fun x hx => (h x hx).2⟩
      · rintro ⟨⟨hne, hn⟩, -, h⟩
        exact ⟨hn, fun x hx => ⟨hne x hx, h x hx⟩⟩

/-- Every element that a relation of the policy names has a pattern. -/
def Declared (elements : List ElementPattern) (policy? : Option Policy) : Prop :=
  ∀ p ∈ policy?, ∀ r ∈ p.relations, ∀ n ∈ r.names, ∃ e ∈ elements, e.element = n

theorem undeclared_eq_nil_iff (elements : List ElementPattern) (r : Relation) :
    undeclared elements r = [] ↔ ∀ n ∈ r.names, ∃ e ∈ elements, e.element = n := by
  simp [undeclared, List.filter_eq_nil_iff]

/-- What parts need to make a rule set. -/
theorem problems_eq_nil_iff {elements : List ElementPattern} {rules : List Rule} {policy? : Option Policy} :
    problems elements rules policy? = [] ↔ (rules.map Rule.name).Nodup ∧ Declared elements policy? := by
  have hrelations : (∀ r ∈ policy?.toList.flatMap Policy.relations, undeclared elements r = []) ↔
      Declared elements policy? := by
    simp only [undeclared_eq_nil_iff, List.mem_flatMap, Option.mem_toList, Declared]
    exact ⟨fun h p hp r hr => h r ⟨p, hp, hr⟩, fun h r ⟨p, hp, hr⟩ => h p hp r hr⟩
  rw [problems, List.append_eq_nil_iff, duplicates_eq_nil_iff, List.flatMap_eq_nil_iff, hrelations]
  simp

/-- The rule set that parts make has these parts. -/
theorem ofParts_eq_ok_iff {elements : List ElementPattern} {rules : List Rule} {policy? : Option Policy}
    {parallel : Bool} {s : RuleSet} :
    ofParts elements rules policy? parallel = .ok s ↔
      s.elements = elements ∧ s.rules = rules ∧ s.policy? = policy? ∧ s.parallel = parallel := by
  constructor
  · intro h
    rw [ofParts] at h
    split_ifs at h
    cases h
    exact ⟨rfl, rfl, rfl, rfl⟩
  · rintro ⟨rfl, rfl, rfl, rfl⟩
    exact dif_pos s.sound

theorem exists_ofParts_iff {elements : List ElementPattern} {rules : List Rule} {policy? : Option Policy}
    {parallel : Bool} :
    (∃ s, ofParts elements rules policy? parallel = .ok s) ↔ problems elements rules policy? = [] := by
  constructor
  · rintro ⟨s, hs⟩
    obtain ⟨rfl, rfl, rfl, -⟩ := ofParts_eq_ok_iff.mp hs
    exact s.sound
  · intro h
    exact ⟨_, dif_pos h⟩

/-- Parts without problems make a rule set. -/
theorem exists_ofParts {elements : List ElementPattern} {rules : List Rule} {policy? : Option Policy}
    (h : problems elements rules policy? = []) (parallel : Bool) :
    ∃ s, ofParts elements rules policy? parallel = .ok s ∧ s.elements = elements ∧ s.rules = rules ∧
      s.policy? = policy? :=
  ⟨⟨elements, rules, policy?, parallel, h⟩, dif_pos h, rfl, rfl, rfl⟩

variable (s : RuleSet)

/-- No two rules share a name. -/
theorem names_nodup : (s.rules.map Rule.name).Nodup := (problems_eq_nil_iff.mp s.sound).1

theorem declared : Declared s.elements s.policy? := (problems_eq_nil_iff.mp s.sound).2

theorem rules_nodup : s.rules.Nodup := List.Nodup.of_map _ s.names_nodup

theorem eq_of_name_eq {q r : Rule} (hq : q ∈ s.rules) (hr : r ∈ s.rules) (h : q.name = r.name) : q = r :=
  List.inj_on_of_nodup_map s.names_nodup hq hr h

end RuleSet

end ImportLint
