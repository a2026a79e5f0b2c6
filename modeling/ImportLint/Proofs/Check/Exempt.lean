import ImportLint.Proofs.Check.Modules
import ImportLint.Proofs.Check.Recommended
import ImportLint.Proofs.Pattern.Spelling

/-!
# Which modules the recommended rules exempt

Two of the recommended rules look at some modules only. Their patterns spell out how the ids of these modules start and
end, so no regular expression is needed to say which ids they are (`RuleSet.recommended_exempts`).
-/

namespace ImportLint

/-- The id starts like that. -/
def StartsWith (id start : String) : Prop := start.toList <+: id.toList

/-- The id ends like that. -/
def EndsWith (id ending : String) : Prop := ending.toList <:+ id.toList

/-! ## Patterns -/

namespace Preset

theorem sourceTree_isMatch_iff (id : String) : sourceTree.isMatch id = true ↔ StartsWith id "src" := by
  have hspelt : (Regex.parse sourceTree.text).bind Regex.spellings? = some [⟨true, "src".toList, false⟩] := by decide +kernel
  rw [PathPattern.isMatch_iff_of_spellings hspelt]
  simp [Spelling.occursIn_start_iff, StartsWith]

theorem typeModules_isMatch_iff (id : String) : typeModules.isMatch id = true ↔ EndsWith id "/types.ts" := by
  have hspelt : (Regex.parse typeModules.text).bind Regex.spellings? = some [⟨false, "/types.ts".toList, true⟩] := by decide +kernel
  rw [PathPattern.isMatch_iff_of_spellings hspelt]
  simp [Spelling.occursIn_end_iff, EndsWith]

/-- The id is that of a module that may depend on packages for development. -/
def IsDevModule (id : String) : Prop :=
  EndsWith id ".spec.ts" ∨ EndsWith id ".spec.tsx" ∨ EndsWith id ".test.ts" ∨ EndsWith id ".test.tsx" ∨
    StartsWith id "src/test/" ∨ EndsWith id "-env.d.ts" ∨ EndsWith id "test-helpers.ts"

theorem devModules_isMatch_iff (id : String) : devModules.isMatch id = true ↔ IsDevModule id := by
  have hspelt : (Regex.parse devModules.text).bind Regex.spellings? =
      some [⟨false, ".spec.ts".toList, true⟩, ⟨false, ".spec.tsx".toList, true⟩, ⟨false, ".test.ts".toList, true⟩,
        ⟨false, ".test.tsx".toList, true⟩, ⟨true, "src/test/".toList, false⟩, ⟨false, "-env.d.ts".toList, true⟩,
        ⟨false, "test-helpers.ts".toList, true⟩] := by decide +kernel
  rw [PathPattern.isMatch_iff_of_spellings hspelt]
  simp [Spelling.occursIn_start_iff, Spelling.occursIn_end_iff, IsDevModule, StartsWith, EndsWith]

end Preset

/-! ## Filters -/

namespace Rule

theorem noOrphans_admits_iff (id : String) :
    noOrphans.source.Admits id ↔ StartsWith id "src" ∧ ¬EndsWith id "/types.ts" := by
  rw [← Preset.sourceTree_isMatch_iff, ← Preset.typeModules_isMatch_iff, Bool.not_eq_true]
  constructor
  · intro h
    exact ⟨h.path _ rfl, h.pathNot _ rfl⟩
  · rintro ⟨hpath, hnot⟩
    refine ⟨fun p hp => ?_, fun p hp => ?_⟩
    · cases hp
      exact hpath
    · cases hp
      exact hnot

theorem notToDevDependency_admits_iff (id : String) :
    notToDevDependency.source.Admits id ↔ ¬Preset.IsDevModule id := by
  rw [← Preset.devModules_isMatch_iff, Bool.not_eq_true]
  constructor
  · exact fun h => h.pathNot _ rfl
  · intro hnot
    refine ⟨nofun, fun p hp => ?_⟩
    cases hp
    exact hnot

end Rule

/-! ## Reports -/

namespace RuleSet

variable {s : RuleSet} {r : Rule} {g : Graph} {v : Violation}

/-- Without a policy, the violations with the name of a rule are those that the rule finds. -/
theorem mem_report_of_name_iff (hs : s.policy? = none) (hr : r ∈ s.rules) :
    (v ∈ (s.check g).violations ∧ v.rule = r.name) ↔ v ∈ r.check g (Facts.ofGraph g) := by
  constructor
  · rintro ⟨hv, hname⟩
    rcases s.mem_check_of_name hr hv hname with hv | ⟨p, hp, -⟩
    · exact hv
    · rw [hs] at hp
      cases hp
  · intro hv
    exact ⟨s.mem_check.mpr (Or.inl ⟨r, hr, hv⟩), (Rule.check_parts hv).1⟩

/-- The rule about orphans names the orphans that it looks at. -/
theorem names_orphan_iff (g : Graph) (id : String) :
    (∃ v ∈ (recommended.check g).violations, v.rule = "no-orphans" ∧ v.source = id) ↔
      (id ∈ g.modules ∧ g.standing id = .orphan) ∧ StartsWith id "src" ∧ ¬EndsWith id "/types.ts" := by
  have hr : Rule.noOrphans ∈ recommended.rules := by simp [recommended]
  have hname := fun v => mem_report_of_name_iff (g := g) (v := v) rfl hr
  have hscope : Rule.noOrphans.scope = .modules true := rfl
  have hcheck := fun v => Rule.mem_check_modules (g := g) (v := v) hscope
  rw [g.standing_eq]
  constructor
  · rintro ⟨v, hv, hrule, rfl⟩
    obtain ⟨id, hid, hstanding, hadmits, rfl⟩ := (hcheck v).mp ((hname v).mp ⟨hv, hrule⟩)
    exact ⟨⟨hid, hstanding⟩, (Rule.noOrphans_admits_iff id).mp hadmits⟩
  · rintro ⟨⟨hid, hstanding⟩, hpath⟩
    have hfound := (hcheck _).mpr ⟨id, hid, hstanding, (Rule.noOrphans_admits_iff id).mpr hpath, rfl⟩
    obtain ⟨hv, hrule⟩ := (hname _).mpr hfound
    exact ⟨_, hv, hrule, rfl⟩

/-- The rule about packages for development names the modules that import one and are not exempt. -/
theorem names_dev_import_iff {g : Graph} (h : g.Coherent) (id : String) :
    (∃ v ∈ (recommended.check g).violations, v.rule = "not-to-dev-dep" ∧ v.source = id) ↔
      (∃ e ∈ g.edges, e.source = id ∧ e.kind = .npmDev) ∧ ¬Preset.IsDevModule id := by
  have hr : Rule.notToDevDependency ∈ recommended.rules := by simp [recommended]
  have hname := fun v => mem_report_of_name_iff (g := g) (v := v) rfl hr
  have hforbids : ∀ e : Edge, Rule.notToDevDependency.Forbids g e ↔ e.kind = .npmDev ∧ ¬Preset.IsDevModule e.source := by
    intro e
    rw [Rule.notToDevDependency_forbids, ← Preset.devModules_isMatch_iff, Bool.not_eq_true]
  have hcheck : ∀ v, v ∈ Rule.notToDevDependency.check g (Facts.ofGraph g) ↔
      ∃ e ∈ g.edges, (e.kind = .npmDev ∧ ¬Preset.IsDevModule e.source) ∧ Rule.notToDevDependency.breach e = v := by
    intro v
    rw [Rule.check_edges h rfl, List.mem_filterMap]
    simp only [Rule.finding, Option.ite_none_right_eq_some, Option.some.injEq, hforbids, Array.mem_toList_iff]
  constructor
  · rintro ⟨v, hv, hrule, rfl⟩
    obtain ⟨e, he, ⟨hkind, hnot⟩, rfl⟩ := (hcheck v).mp ((hname v).mp ⟨hv, hrule⟩)
    exact ⟨⟨e, he, rfl, hkind⟩, hnot⟩
  · rintro ⟨⟨e, he, rfl, hkind⟩, hnot⟩
    obtain ⟨hv, hrule⟩ := (hname _).mpr ((hcheck _).mpr ⟨e, he, ⟨hkind, hnot⟩, rfl⟩)
    exact ⟨_, hv, hrule, rfl⟩

/-- The recommended rule about orphans looks at the modules whose ids start with `src` and do not end with `/types.ts`:
of these it names the orphans. The rule about packages for development exempts the modules whose ids say that they are
tests or belong to tests: it names all others that import such a package. -/
theorem recommended_exempts :
    ∃ s, parse "" = .ok s ∧ ∃ orphans ∈ s.rules, ∃ dev ∈ s.rules,
      orphans.name = "no-orphans" ∧ dev.name = "not-to-dev-dep" ∧
      (∀ id, orphans.source.passes id = true ↔ StartsWith id "src" ∧ ¬EndsWith id "/types.ts") ∧
      (∀ id, dev.source.passes id = false ↔
        EndsWith id ".spec.ts" ∨ EndsWith id ".spec.tsx" ∨ EndsWith id ".test.ts" ∨ EndsWith id ".test.tsx" ∨
          StartsWith id "src/test/" ∨ EndsWith id "-env.d.ts" ∨ EndsWith id "test-helpers.ts") ∧
      ∀ ms id,
        ((∃ v ∈ (s.check (Graph.ofMentions ms)).violations, v.rule = orphans.name ∧ v.source = id) ↔
          (id ∈ (Graph.ofMentions ms).modules ∧ (Graph.ofMentions ms).standing id = .orphan) ∧
            orphans.source.passes id = true) ∧
        ((∃ v ∈ (s.check (Graph.ofMentions ms)).violations, v.rule = dev.name ∧ v.source = id) ↔
          (∃ e ∈ (Graph.ofMentions ms).edges, e.source = id ∧ e.kind = .npmDev) ∧ dev.source.passes id = true) := by
  have horphans : ∀ id, Rule.noOrphans.source.passes id = true ↔ StartsWith id "src" ∧ ¬EndsWith id "/types.ts" :=
    fun id => (PathFilter.passes_iff _ id).trans (Rule.noOrphans_admits_iff id)
  have hdev : ∀ id, Rule.notToDevDependency.source.passes id = true ↔ ¬Preset.IsDevModule id :=
    fun id => (PathFilter.passes_iff _ id).trans (Rule.notToDevDependency_admits_iff id)
  refine ⟨recommended, parse_empty, .noOrphans, by simp [recommended], .notToDevDependency, by simp [recommended], rfl,
    rfl, horphans, fun id => ?_, fun ms id => ⟨?_, ?_⟩⟩
  · rw [← Bool.not_eq_true, hdev, not_not]
    rfl
  · rw [horphans]
    exact names_orphan_iff _ id
  · rw [hdev]
    exact names_dev_import_iff (Graph.ofMentions_reflects ms).coherent id

end RuleSet

end ImportLint
