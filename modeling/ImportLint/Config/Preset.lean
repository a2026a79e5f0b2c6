import ImportLint.Config.Entry

/-!
# Presets

Rules that come with the program. They are written like the rules of a configuration, so that they pass the
same checks.
-/

namespace ImportLint

/-- A list of rules that comes with the program. -/
inductive Preset
  | recommended
  | minimal
  | none
  deriving DecidableEq, Repr

namespace Preset

def name : Preset → String
  | recommended => "recommended"
  | minimal => "minimal"
  | none => "none"

/-- The preset with a name. -/
def ofName? : String → Option Preset
  | "recommended" => some recommended
  | "minimal" => some minimal
  | "none" => some none
  | _ => .none

/-- The modules that may depend on packages for development: tests and what belongs to them. -/
def devDependencyPattern : String :=
  "(\\.(spec|test)\\.(ts|tsx)$|^src/test/|-env\\.d\\.ts$|test-helpers\\.ts$)"

/-- A rule of a preset. -/
def rule (name comment : String) (source : SourceEntry) (target : TargetEntry) : RuleEntry :=
  { name := name, severity := "error", comment? := some comment, source := source, target := target }

def notToUnresolvable : RuleEntry :=
  rule "not-to-unresolvable" "Imports must resolve to an existing module" .blank
    { TargetEntry.blank with unresolvable? := some true }

def noCircular : RuleEntry :=
  rule "no-circular" "Modules must not depend on each other in a cycle" .blank
    { TargetEntry.blank with circular? := some true }

def noOrphans : RuleEntry :=
  rule "no-orphans" "Modules under src must import or be imported by another module"
    { path? := some "^src", pathNot? := some "/types\\.ts$", orphan? := some true } .blank

def notToDevDependency : RuleEntry :=
  rule "not-to-dev-dep" "Production code must not depend on devDependencies"
    { SourceEntry.blank with pathNot? := some devDependencyPattern }
    { TargetEntry.blank with kinds := ["npm-dev"] }

def noDeprecated : RuleEntry :=
  rule "no-deprecated" "Deprecated packages must be replaced" .blank
    { TargetEntry.blank with kinds := ["deprecated"] }

/-- The rules of a preset. -/
def rules : Preset → List RuleEntry
  | recommended => [notToUnresolvable, noCircular, noOrphans, notToDevDependency, noDeprecated]
  | minimal => [notToUnresolvable, noCircular]
  | none => []

end Preset

end ImportLint
