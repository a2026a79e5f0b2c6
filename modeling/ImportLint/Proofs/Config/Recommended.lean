import ImportLint.Config.Load
import Mathlib.Tactic.Common

/-!
# The recommended rules

The rule set of a configuration that says nothing (`RuleSet.recommended`): five rules that the loader makes of the
entries of the recommended preset (`RuleSet.parse_empty`).
-/

namespace ImportLint

/-! ## Patterns -/

theorem patternOf_of_text_eq [PatternLanguage] {text : String} {p : PathPattern} (place : ConfigPlace) (h : p.text = text) :
    patternOf place (some text) = .ok (some p) := by
  rw [patternOf, ← h, p.ofText_text]
  rfl

namespace Preset

/-- The modules below `src`. -/
def sourceTree : PathPattern := .ofAccepted "^src" (by decide +kernel)

/-- The modules that hold types only. -/
def typeModules : PathPattern := .ofAccepted "/types\\.ts$" (by decide +kernel)

/-- The modules that may depend on packages for development. -/
def devModules : PathPattern := .ofAccepted devDependencyPattern (by decide +kernel)

end Preset

/-! ## Rules -/

namespace Rule

/-- Imports must resolve. -/
def notToUnresolvable : Rule :=
  { name := "not-to-unresolvable", severity := .error, comment? := Preset.notToUnresolvable.comment?,
    source := .none, scope := .edges { TargetFilter.none with unresolvable? := some true }, named := by decide }

/-- No internal import is on a cycle. -/
def noCircular : Rule :=
  { name := "no-circular", severity := .error, comment? := Preset.noCircular.comment?, source := .none,
    scope := .edges { TargetFilter.none with circular? := some true }, named := by decide }

/-- Modules below `src` are no orphans. -/
def noOrphans : Rule :=
  { name := "no-orphans", severity := .error, comment? := Preset.noOrphans.comment?,
    source := ⟨some Preset.sourceTree, some Preset.typeModules⟩, scope := .modules true, named := by decide }

/-- Only some modules depend on packages for development. -/
def notToDevDependency : Rule :=
  { name := "not-to-dev-dep", severity := .error, comment? := Preset.notToDevDependency.comment?,
    source := ⟨none, some Preset.devModules⟩, scope := .edges { TargetFilter.none with kinds := [.npmDev] },
    named := by decide }

/-- No module depends on a deprecated package. -/
def noDeprecated : Rule :=
  { name := "no-deprecated", severity := .error, comment? := Preset.noDeprecated.comment?, source := .none,
    scope := .edges { TargetFilter.none with kinds := [.deprecated] }, named := by decide }

end Rule

namespace Preset

theorem check_notToUnresolvable : notToUnresolvable.check = .ok (some Rule.notToUnresolvable) := rfl

theorem check_noCircular : noCircular.check = .ok (some Rule.noCircular) := rfl

theorem check_noDeprecated : noDeprecated.check = .ok (some Rule.noDeprecated) := rfl

theorem check_noOrphans : noOrphans.check = .ok (some Rule.noOrphans) := by
  have hp : patternOf (.ruleField "no-orphans" .sourcePath) (some "^src") = .ok (some sourceTree) :=
    patternOf_of_text_eq _ rfl
  have hn : patternOf (.ruleField "no-orphans" .sourcePathNot) (some "/types\\.ts$") = .ok (some typeModules) :=
    patternOf_of_text_eq _ rfl
  simp only [RuleEntry.check, RuleEntry.checkParts, noOrphans, rule, severityOf, hp, hn]
  rfl

theorem check_notToDevDependency : notToDevDependency.check = .ok (some Rule.notToDevDependency) := by
  have hn : patternOf (.ruleField "not-to-dev-dep" .sourcePathNot) (some devDependencyPattern) =
      .ok (some devModules) := patternOf_of_text_eq _ rfl
  simp only [RuleEntry.check, RuleEntry.checkParts, notToDevDependency, rule, severityOf, hn]
  rfl

end Preset

/-! ## The rule set -/

namespace RuleSet

/-- The five recommended rules, without elements and without a boundary policy. -/
def recommended : RuleSet :=
  { elements := []
    rules := [.notToUnresolvable, .noCircular, .noOrphans, .notToDevDependency, .noDeprecated]
    policy? := none
    parallel := false
    sound := by decide }

theorem load_blank : Config.blank.load = .ok recommended := by
  have hrules : Preset.recommended.rules.mapM RuleEntry.check =
      .ok (recommended.rules.map some) := by
    simp only [Preset.rules, List.mapM_cons, Preset.check_notToUnresolvable, Preset.check_noCircular,
      Preset.check_noOrphans, Preset.check_notToDevDependency, Preset.check_noDeprecated]
    rfl
  have hpreset : Config.blank.preset = .ok .recommended := rfl
  have helements : checkEach ElementEntry.check Config.blank.elements = .ok [] := rfl
  have hmerged : Config.blank.mergedRules .recommended = .ok Preset.recommended.rules := rfl
  simp only [Config.load, hpreset, helements, hmerged, hrules, bind, Except.bind]
  rfl

/-- The empty configuration asks for the recommended rules. -/
theorem parse_empty : parse "" = .ok recommended := by
  have hblank : Config.parse "" = .ok Config.blank := by rfl
  simp only [parse, hblank, bind, Except.bind]
  exact load_blank

end RuleSet

end ImportLint
