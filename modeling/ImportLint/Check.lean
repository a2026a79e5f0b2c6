import ImportLint.Cycle.Components
import ImportLint.Graph.Standing
import ImportLint.Report.Basic
import ImportLint.Rule.Set

/-!
# Checking graphs

`RuleSet.check` judges a graph by a rule set. Each rule looks at the modules or the edges by itself, and the
boundary policy looks at the internal edges; what they find is put together in a report.
-/

namespace ImportLint

/-- What the checks need to know of a graph: where each module stands and which edges are on a cycle. -/
structure Facts where
  ends : Ends
  components : Components
  /-- The edges, each with whether it is on a cycle. -/
  edges : List (Edge × Bool)

namespace Facts

/-- The facts about a graph. -/
def ofGraph (g : Graph) : Facts :=
  let c := Components.ofGraph g
  { ends := Ends.ofGraph g
    components := c
    edges := g.edges.toList.map fun e => (e, c.isCyclicEdge g e) }

end Facts

variable [PatternLanguage]

namespace Rule

/-- A violation of the rule. -/
def violation (r : Rule) (source : String) (target? : Option String) (message : String) : Violation :=
  { rule := r.name, severity := r.severity, source := source, target? := target?, message := message,
    comment? := r.comment? }

/-- What the rule says about a module. -/
def checkModule (r : Rule) (orphan : Bool) (ends : Ends) (id : String) : Option Violation :=
  let breached := ends.standing id = (if orphan then .orphan else .connected)
  if breached ∧ r.source.passes id = true then
    some (r.violation id none
      (if orphan then "orphan module: no internal imports and no internal dependents"
       else "module has internal dependencies"))
  else none

/-- Whether an edge is what a filter asks for. -/
def breaches (r : Rule) (t : TargetFilter) (e : Edge) (cyclic : Bool) : Bool :=
  r.source.passes e.source && t.paths.passes e.target.label && t.passesKind e.kind &&
    t.circular?.all (· == cyclic) && t.unresolvable?.all (· == (e.kind == .unresolvable))

/-- The message for an edge that a filter asks for. -/
def edgeMessage (t : TargetFilter) (e : Edge) (cyclic : Bool) : String :=
  if t.unresolvable? = some true then "cannot resolve '" ++ e.specifier ++ "'"
  else if t.circular? = some true ∧ cyclic then
    "circular dependency: " ++ e.source ++ " -> " ++ e.target.label
  else if t.kinds ≠ [] then e.kind.name ++ " dependency on '" ++ e.target.label ++ "'"
  else "forbidden dependency on '" ++ e.target.label ++ "'"

/-- What the rule says about an edge. -/
def checkEdge (r : Rule) (t : TargetFilter) (edge : Edge × Bool) : Option Violation :=
  let (e, cyclic) := edge
  if r.breaches t e cyclic then
    some (r.violation e.source (some e.target.label) (edgeMessage t e cyclic))
  else none

/-- What the rule finds in a graph. -/
def check (r : Rule) (g : Graph) (facts : Facts) : List Violation :=
  match r.scope with
  | .modules orphan => g.modules.toList.filterMap (r.checkModule orphan facts.ends)
  | .edges t => facts.edges.filterMap (r.checkEdge t)

end Rule

namespace Policy

/-- A violation of the policy. -/
def violation (p : Policy) (name source target message : String) : Violation :=
  { rule := "boundaries/" ++ name, severity := p.severity, source := source, target? := some target,
    message := message, comment? := none }

/-- What the policy says about a dependency on an unclassified module. -/
def checkUnknown (p : Policy) (source target : String) (b? : Option ElementName) : List Violation :=
  if p.noUnknown ∧ b? = none then
    [p.violation "no-unknown" source target ("'" ++ target ++ "' does not belong to any element")]
  else []

/-- What the policy says about a dependency of one element on another. -/
def checkElements (p : Policy) (source target : String) (a? b? : Option ElementName) : List Violation :=
  match a?, b? with
  | some a, some b =>
    if p.permits a b then []
    else
      [p.violation "element-types" source target
        ("elements of type '" ++ a.text ++ "' must not depend on '" ++ b.text ++ "'")]
  | _, _ => []

/-- What the policy says about an internal dependency. -/
def checkDependency (p : Policy) (elements : List ElementPattern) (source target : String) : List Violation :=
  if p.isIgnored source then []
  else if p.isIgnored target then
    if p.noIgnored then
      [p.violation "no-ignored" source target ("'" ++ target ++ "' is excluded from boundary checks")]
    else []
  else
    let b? := classify elements target
    p.checkUnknown source target b? ++ p.checkElements source target (classify elements source) b?

/-- What the policy says about an edge. -/
def checkEdge (p : Policy) (elements : List ElementPattern) (e : Edge) : List Violation :=
  match e.isInternal, e.target with
  | true, .module target => p.checkDependency elements e.source target
  | _, _ => []

/-- What the policy finds in a graph. -/
def check (p : Policy) (elements : List ElementPattern) (g : Graph) : List Violation :=
  g.edges.toList.flatMap (p.checkEdge elements)

end Policy

namespace RuleSet

/-- The violations of a rule set in a graph, rule by rule, those of the policy last. -/
def violations (s : RuleSet) (g : Graph) (facts : Facts) : List Violation :=
  s.rules.flatMap (fun r => r.check g facts) ++
    s.policy?.toList.flatMap fun p => p.check s.elements g

/-- How many checks a rule set asks for. -/
def checkCount (s : RuleSet) : Nat := s.rules.length + s.policy?.toList.length

/-- The report of a rule set on a graph. -/
def check (s : RuleSet) (g : Graph) : Report :=
  Report.ofViolations (s.violations g (Facts.ofGraph g)) g.modules.size g.edges.size

end RuleSet

end ImportLint
