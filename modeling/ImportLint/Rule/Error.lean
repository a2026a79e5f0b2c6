/-!
# Defects of rules

What can be wrong with the parts of a rule set, and the message for each. A malformed regular expression has
no message of its own.
-/

namespace ImportLint

/-- What is wrong with a part of a rule set. -/
inductive RuleError
  | emptyElementName
  | invalidElementName (name : String)
  | invalidRegex (pattern : String)
  | emptyGlob
  | invalidGlob (pattern reason : String)
  | emptyRuleName
  /-- A rule about orphans that says something about targets. -/
  | orphanRuleWithTarget (rule : String)
  | duplicateRule (name : String)
  /-- A relation from the element `source` that names an element without a pattern. -/
  | unknownElement (source name : String)
  deriving DecidableEq, Repr

namespace RuleError

def message : RuleError → Option String
  | emptyElementName => some "element name must not be empty"
  | invalidElementName name => some ("invalid element name `" ++ name ++ "`: must be [a-z0-9_-]")
  | invalidRegex _ => none
  | emptyGlob => some "glob pattern must not be empty"
  | invalidGlob pattern reason => some ("invalid glob pattern `" ++ pattern ++ "`: " ++ reason)
  | emptyRuleName => some "rule name must not be empty"
  | orphanRuleWithTarget rule => some ("rule `" ++ rule ++ "`: orphan rules must not set `to` predicates")
  | duplicateRule name => some ("duplicate rule name `" ++ name ++ "`")
  | unknownElement source name =>
    some ("boundaries relation from '" ++ source ++ "': unknown element `" ++ name ++ "`")

end RuleError

end ImportLint
