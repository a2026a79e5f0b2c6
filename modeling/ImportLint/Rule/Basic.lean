import ImportLint.Import.Kind
import ImportLint.Rule.Pattern
import ImportLint.Rule.Severity

/-!
# Rules

A rule forbids something. It looks either at modules, asking whether they are orphans, or at edges, asking for
the kind, the cycles and the target of an edge. In both cases the importing module must pass a filter of paths.
-/

namespace ImportLint

variable [PatternLanguage]

/-- A filter of ids: those that one pattern matches, if it is given, and another one does not. -/
structure PathFilter where
  path? : Option PathPattern
  pathNot? : Option PathPattern
  deriving DecidableEq

namespace PathFilter

/-- The filter that everything passes. -/
def none : PathFilter := ⟨.none, .none⟩

/-- Whether an id passes the filter. -/
def passes (f : PathFilter) (id : String) : Bool :=
  f.path?.all (·.isMatch id) && !f.pathNot?.any (·.isMatch id)

/-- Whether neither pattern is given. -/
def isEmpty (f : PathFilter) : Bool := f.path?.isNone && f.pathNot?.isNone

end PathFilter

/-- What a rule asks of an edge besides its source. -/
structure TargetFilter where
  /-- The filter for the label of the target. -/
  paths : PathFilter
  /-- Whether the edge must be on a cycle. -/
  circular? : Option Bool
  /-- Whether the edge must be unresolvable. -/
  unresolvable? : Option Bool
  /-- The kinds asked for; none means any. -/
  kinds : List Kind
  deriving DecidableEq

namespace TargetFilter

/-- The filter that every edge passes. -/
def none : TargetFilter :=
  { paths := .none, circular? := .none, unresolvable? := .none, kinds := [] }

/-- Whether a kind is asked for. -/
def passesKind (f : TargetFilter) (k : Kind) : Bool :=
  f.kinds.isEmpty || f.kinds.contains k

/-- Whether nothing is asked for. -/
def isEmpty (f : TargetFilter) : Bool :=
  f.paths.isEmpty && f.circular?.isNone && f.unresolvable?.isNone && f.kinds.isEmpty

end TargetFilter

/-- What a rule looks at. -/
inductive Scope
  /-- Modules that are orphans, or those that are connected. -/
  | modules (orphan : Bool)
  /-- Edges that pass a filter. -/
  | edges (target : TargetFilter)
  deriving DecidableEq

namespace Scope

/-- What is asked about orphans. -/
def orphan? : Scope → Option Bool
  | modules b => some b
  | edges _ => none

/-- What is asked of edges. -/
def target : Scope → TargetFilter
  | modules _ => .none
  | edges t => t

end Scope

/-- A rule. -/
structure Rule where
  name : String
  severity : Severity
  comment? : Option String
  /-- The filter for the importing module. -/
  source : PathFilter
  scope : Scope
  named : name ≠ ""
  deriving DecidableEq

namespace Rule

/-- The rule with the given parts. It must have a name, and if it asks about orphans it must not ask anything
of edges. -/
def ofParts (name : String) (severity : Severity) (comment? : Option String) (source : PathFilter)
    (orphan? : Option Bool) (target : TargetFilter) : Except RuleError Rule :=
  if h : name = "" then .error .emptyRuleName
  else
    match orphan? with
    | none =>
      .ok { name := name, severity := severity, comment? := comment?, source := source,
            scope := .edges target, named := h }
    | some b =>
      if target.isEmpty then
        .ok { name := name, severity := severity, comment? := comment?, source := source,
              scope := .modules b, named := h }
      else .error (.orphanRuleWithTarget name)

end Rule

end ImportLint
