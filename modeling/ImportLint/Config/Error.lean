import ImportLint.Import.Kind
import ImportLint.Rule.Error

/-!
# Errors of configurations

Why a configuration is refused, with the place of the entry at fault, and the messages.
-/

namespace ImportLint

/-- A field of a rule. -/
inductive RuleField
  | sourcePath
  | sourcePathNot
  /-- The kind with an index. -/
  | kind (i : Nat)
  | targetPath
  | targetPathNot
  deriving DecidableEq, Repr

namespace RuleField

def path : RuleField → String
  | sourcePath => "from.path"
  | sourcePathNot => "from.path_not"
  | kind i => "to.dependency_types[" ++ toString i ++ "]"
  | targetPath => "to.path"
  | targetPathNot => "to.path_not"

end RuleField

/-- The place of an entry in a configuration. Entries of a list are counted from zero. -/
inductive ConfigPlace
  | elementName (i : Nat)
  | elementPattern (i : Nat)
  | rule (name : String)
  | ruleField (name : String) (field : RuleField)
  | boundaries
  | ignore (i : Nat)
  /-- The source of a relation that allows or disallows. -/
  | relationSource (allows : Bool) (i : Nat)
  /-- A target of a relation. -/
  | relationTarget (allows : Bool) (i j : Nat)
  deriving DecidableEq, Repr

namespace ConfigPlace

/-- A list of relations with an index. -/
def relation (allows : Bool) (i : Nat) : String :=
  "boundaries." ++ (if allows then "allow" else "disallow") ++ "[" ++ toString i ++ "]"

/-- The text for a place. -/
def text : ConfigPlace → String
  | elementName i => "elements[" ++ toString i ++ "].type"
  | elementPattern i => "elements[" ++ toString i ++ "].pattern"
  | rule name => "forbidden '" ++ name ++ "'"
  | ruleField name field => "forbidden '" ++ name ++ "' " ++ field.path
  | boundaries => "boundaries"
  | ignore i => "boundaries.ignore[" ++ toString i ++ "]"
  | relationSource allows i => relation allows i ++ ".from"
  | relationTarget allows i j => relation allows i ++ ".to[" ++ toString j ++ "]"

end ConfigPlace

/-- Why a configuration is refused. -/
inductive ConfigError
  /-- The text is no configuration; the detail says why, if it is well-formed. -/
  | malformed (detail? : Option String)
  | unknownPreset (name : String)
  | invalid (place : ConfigPlace) (error : RuleError)
  | unknownSeverity (place : ConfigPlace) (value : String)
  | unknownKind (place : ConfigPlace) (name : String)
  | unknownDefault (value : String)
  /-- The parts do not fit together. -/
  | inconsistent (errors : List RuleError)
  deriving DecidableEq, Repr

namespace ConfigError

/-- The message behind its fixed start; faults of the text and of regular expressions have none of their
own. -/
def reason : ConfigError → Option String
  | malformed _ => none
  | unknownPreset name => some ("unknown preset `" ++ name ++ "`, expected: recommended, minimal, none")
  | invalid place e => e.message.map fun m => place.text ++ ": " ++ m
  | unknownSeverity place value =>
    some (place.text ++ ": unknown severity `" ++ value ++ "`, expected: error, warn, info, off")
  | unknownKind place name => some (place.text ++ ": " ++ Kind.unknownMessage name)
  | unknownDefault value =>
    some ("boundaries.default: unknown value `" ++ value ++ "`, expected: allow, disallow")
  | inconsistent errors =>
    some ("configuration validation errors:\n" ++
      "\n".intercalate (errors.map fun e => "  - " ++ e.message.getD ""))

def message (e : ConfigError) : Option String := e.reason.map ("invalid config: " ++ ·)

/-- The code of the error. -/
def code : ConfigError → String
  | malformed _ => "modgraph_lint::config::parse"
  | _ => "modgraph_lint::config::invalid"

/-- What to do about the error. -/
def help : ConfigError → String
  | malformed _ => "check the TOML syntax and field names"
  | _ => "fix the named rule or pattern; no analysis was run"

end ConfigError

end ImportLint
