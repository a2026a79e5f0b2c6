import ImportLint.Rule.Basic
import ImportLint.Rule.Policy

/-!
# Rule sets

A rule set has the patterns of the elements, the rules and the boundary policy of one run. No two of its rules
share a name, and its policy names no element without a pattern; `RuleSet.problems` lists what is wrong with
parts that do not fit together.
-/

namespace ImportLint

variable [PatternLanguage]

namespace RuleSet

/-- One problem for each rule whose name an earlier rule has; `seen` holds the earlier names. -/
def duplicates : List String → List Rule → List RuleError
  | _, [] => []
  | seen, r :: rs =>
    if seen.contains r.name then .duplicateRule r.name :: duplicates seen rs
    else duplicates (r.name :: seen) rs

/-- One problem for each element that a relation names and no pattern declares. -/
def undeclared (elements : List ElementPattern) (r : Relation) : List RuleError :=
  (r.names.filter fun n => !(elements.any fun e => e.element == n)).map fun n =>
    .unknownElement r.source.text n.text

/-- What is wrong with the parts of a rule set, in order: rules with a name used before, then the elements
without a pattern. -/
def problems (elements : List ElementPattern) (rules : List Rule) (policy? : Option Policy) :
    List RuleError :=
  duplicates [] rules ++ (policy?.toList.flatMap Policy.relations).flatMap (undeclared elements)

end RuleSet

/-- The rules of one run. `parallel` asks for the checks to be run side by side, which changes no report. -/
structure RuleSet where
  elements : List ElementPattern
  rules : List Rule
  policy? : Option Policy
  parallel : Bool
  sound : RuleSet.problems elements rules policy? = []
  deriving DecidableEq

namespace RuleSet

/-- The rule set with the given parts, or what is wrong with them. -/
def ofParts (elements : List ElementPattern) (rules : List Rule) (policy? : Option Policy)
    (parallel : Bool) : Except (List RuleError) RuleSet :=
  if h : problems elements rules policy? = [] then
    .ok { elements := elements, rules := rules, policy? := policy?, parallel := parallel, sound := h }
  else .error (problems elements rules policy?)

/-- Whether there is nothing to check. -/
def isEmpty (s : RuleSet) : Bool := s.rules.isEmpty && s.policy?.isNone

end RuleSet

end ImportLint
