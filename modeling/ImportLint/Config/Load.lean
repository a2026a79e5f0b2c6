import ImportLint.Config.Error
import ImportLint.Config.Preset
import ImportLint.Rule.Set
import ImportLint.Toml.Parse

/-!
# Loading configurations

`Config.load` makes a rule set of a configuration: it merges the rules with those of the preset, checks every
entry in order and stops at the first one at fault. `Config.notes` lists what is noted on the way.
-/

namespace ImportLint

/-- Replaces the error of a part by the error of a configuration. -/
def RuleError.at {α : Type} (place : ConfigPlace) : Except RuleError α → Except ConfigError α
  | .ok a => .ok a
  | .error e => .error (.invalid place e)

/-- Applies a check to every item of a list with its index, up to the first one at fault. -/
def checkEach {α β : Type} (check : Nat → α → Except ConfigError β) (xs : List α) :
    Except ConfigError (List β) :=
  xs.zipIdx.mapM fun (x, i) => check i x

/-- The severity that a text asks for; `none` if it asks to leave the entry out. -/
def severityOf (place : ConfigPlace) : String → Except ConfigError (Option Severity)
  | "error" => .ok (some .error)
  | "warn" | "warning" => .ok (some .warning)
  | "info" => .ok (some .info)
  | "off" | "ignore" => .ok none
  | value => .error (.unknownSeverity place value)

variable [PatternLanguage]

/-- A pattern that may be left out. -/
def patternOf (place : ConfigPlace) : Option String → Except ConfigError (Option PathPattern)
  | none => .ok none
  | some text => some <$> RuleError.at place (PathPattern.ofText text)

namespace ElementEntry

/-- The pattern of an element. -/
def check (i : Nat) (e : ElementEntry) : Except ConfigError ElementPattern := do
  let name ← RuleError.at (.elementName i) (ElementName.ofText e.element)
  let pattern ← RuleError.at (.elementPattern i) (PathPattern.ofText e.pattern)
  pure { element := name, pattern := pattern }

end ElementEntry

namespace RuleEntry

/-- The kind that a text names. -/
def kindOf (rule : String) (i : Nat) (text : String) : Except ConfigError Kind :=
  match Kind.ofName? text with
  | some k => .ok k
  | none => .error (.unknownKind (.ruleField rule (.kind i)) text)

/-- The rule with a severity. -/
def checkParts (e : RuleEntry) (severity : Severity) : Except ConfigError Rule := do
  let sourcePath? ← patternOf (.ruleField e.name .sourcePath) e.source.path?
  let sourceNot? ← patternOf (.ruleField e.name .sourcePathNot) e.source.pathNot?
  let kinds ← checkEach (kindOf e.name) e.target.kinds
  let targetPath? ← patternOf (.ruleField e.name .targetPath) e.target.path?
  let targetNot? ← patternOf (.ruleField e.name .targetPathNot) e.target.pathNot?
  let target : TargetFilter :=
    { paths := ⟨targetPath?, targetNot?⟩, circular? := e.target.circular?,
      unresolvable? := e.target.unresolvable?, kinds := kinds }
  RuleError.at (.rule e.name)
    (Rule.ofParts e.name severity e.comment? ⟨sourcePath?, sourceNot?⟩ e.source.orphan? target)

/-- The rule of an entry, unless its severity leaves it out; nothing else is checked then. -/
def check (e : RuleEntry) : Except ConfigError (Option Rule) := do
  match ← severityOf (.rule e.name) e.severity with
  | none => pure none
  | some severity => some <$> e.checkParts severity

end RuleEntry

namespace RelationEntry

/-- A relation that allows or disallows. -/
def check (allows : Bool) (i : Nat) (e : RelationEntry) : Except ConfigError Relation := do
  let source ← RuleError.at (.relationSource allows i) (ElementName.ofText e.source)
  let targets ← checkEach (fun j t => RuleError.at (.relationTarget allows i j) (ElementName.ofText t)) e.targets
  pure { source := source, targets := targets }

end RelationEntry

namespace BoundariesEntry

/-- Whether a text allows or disallows what no relation covers. -/
def defaultOf : String → Except ConfigError Bool
  | "allow" => .ok true
  | "disallow" => .ok false
  | value => .error (.unknownDefault value)

/-- The policy with a default and a severity. -/
def checkParts (e : BoundariesEntry) (allowByDefault : Bool) (severity : Severity) :
    Except ConfigError Policy := do
  let ignore ← checkEach (fun i g => RuleError.at (.ignore i) (GlobPattern.ofText g)) e.ignore
  let allow ← checkEach (RelationEntry.check true) e.allow
  let disallow ← checkEach (RelationEntry.check false) e.disallow
  pure
    { allowByDefault := allowByDefault, allow := allow, disallow := disallow, ignore := ignore,
      noUnknown := e.noUnknown, noIgnored := e.noIgnored, severity := severity }

/-- The policy of an entry, unless its severity leaves it out. -/
def check (e : BoundariesEntry) : Except ConfigError (Option Policy) := do
  let allowByDefault ← defaultOf e.default
  match ← severityOf .boundaries e.severity with
  | none => pure none
  | some severity => some <$> e.checkParts allowByDefault severity

end BoundariesEntry

/-- Rules in the course of merging. Those of the preset come first, each with whether it has been replaced;
`repeated` holds the names used once too often, in reverse. -/
structure Merge where
  preset : List (RuleEntry × Bool)
  added : List RuleEntry
  repeated : List String

namespace Merge

/-- The start of a merge with the rules of a preset. -/
def start (rules : List RuleEntry) : Merge :=
  { preset := rules.map fun r => (r, false), added := [], repeated := [] }

/-- Notes that a name is used once too often. -/
def addRepeated (m : Merge) (name : String) : Merge :=
  if m.repeated.contains name then m else { m with repeated := name :: m.repeated }

/-- Adds a rule: it takes the place of the rule of the preset with its name, or comes last. No name may be
used twice. -/
def add (m : Merge) (r : RuleEntry) : Merge :=
  match m.preset.find? fun p => p.1.name == r.name with
  | some (_, true) => m.addRepeated r.name
  | some (_, false) =>
    { m with preset := m.preset.map fun p => if p.1.name = r.name then (r, true) else p }
  | none =>
    if m.added.any fun a => a.name == r.name then m.addRepeated r.name
    else { m with added := m.added ++ [r] }

/-- The merged rules. -/
def rules (m : Merge) : List RuleEntry := m.preset.map Prod.fst ++ m.added

end Merge

/-- What is noted while a configuration is loaded. -/
inductive LoadNote
  | ruleOff (name : String)
  | boundariesOff
  | loaded (elements rules : Nat) (preset : Preset)
  deriving DecidableEq, Repr

namespace LoadNote

def message : LoadNote → String
  | ruleOff name => "Rule " ++ name ++ " is off"
  | boundariesOff => "Boundary checks are off"
  | loaded elements rules preset =>
    "Loaded " ++ toString elements ++ " element patterns and " ++ toString rules ++ " rules (preset: " ++
      preset.name ++ ")"

end LoadNote

namespace Config

/-- Reads a configuration from TOML. -/
def parse (text : String) : Except ConfigError Config :=
  match Toml.parse text with
  | none => .error (.malformed none)
  | some t =>
    match shape.reader t with
    | .ok c => .ok c
    | .error e => .error (.malformed e.detail)

/-- The preset that a configuration asks for. -/
def preset (c : Config) : Except ConfigError Preset :=
  match c.preset? with
  | none => .ok .recommended
  | some name =>
    match Preset.ofName? name with
    | some p => .ok p
    | none => .error (.unknownPreset name)

/-- The rules of a preset with those of the configuration. -/
def mergedRules (c : Config) (p : Preset) : Except ConfigError (List RuleEntry) :=
  let m := c.rules.foldl Merge.add (.start p.rules)
  if m.repeated.isEmpty then .ok m.rules
  else .error (.inconsistent (m.repeated.reverse.map .duplicateRule))

/-- The policy of a configuration. -/
def policy (c : Config) : Except ConfigError (Option Policy) :=
  match c.boundaries? with
  | none => .ok none
  | some b => b.check

/-- The rule set of a configuration. -/
def load (c : Config) : Except ConfigError RuleSet := do
  let preset ← c.preset
  let elements ← checkEach ElementEntry.check c.elements
  let entries ← c.mergedRules preset
  let rules ← entries.mapM RuleEntry.check
  let policy? ← c.policy
  match RuleSet.ofParts elements (rules.filterMap id) policy? c.options.parallel with
  | .ok s => .ok s
  | .error errors => .error (.inconsistent errors)

/-- What is noted about rules: each one that is left out, up to the first one at fault. -/
def ruleNotes : List RuleEntry → List LoadNote
  | [] => []
  | e :: es =>
    match e.check with
    | .ok (some _) => ruleNotes es
    | .ok none => .ruleOff e.name :: ruleNotes es
    | .error _ => []

/-- What is noted about the policy. -/
def policyNotes (c : Config) : List LoadNote :=
  match c.boundaries?.map BoundariesEntry.check with
  | some (.ok none) => [.boundariesOff]
  | _ => []

/-- What is noted while the configuration is loaded, up to the first entry at fault. -/
def notes (c : Config) : List LoadNote :=
  let begun : Except ConfigError (Preset × List ElementPattern × List RuleEntry) := do
    let preset ← c.preset
    let elements ← checkEach ElementEntry.check c.elements
    pure (preset, elements, ← c.mergedRules preset)
  match begun with
  | .error _ => []
  | .ok (preset, elements, entries) =>
    ruleNotes entries ++
      match entries.mapM RuleEntry.check with
      | .error _ => []
      | .ok rules =>
        c.policyNotes ++
          match c.policy with
          | .error _ => []
          | .ok _ => [.loaded elements.length (rules.filterMap id).length preset]

end Config

/-- The rule set that a configuration text describes. -/
def RuleSet.parse (text : String) : Except ConfigError RuleSet :=
  Config.parse text >>= Config.load

end ImportLint
