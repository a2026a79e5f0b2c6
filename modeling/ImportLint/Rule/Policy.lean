import ImportLint.Rule.Element
import ImportLint.Rule.Severity

/-!
# Boundary policies

Which elements may depend on which. Relations allow or disallow dependencies of one element on others; a
disallowing relation outweighs an allowing one, and both outweigh the default. An element may always depend on
itself, and modules that an ignore pattern matches are left out.
-/

namespace ImportLint

/-- Dependencies of one element on others. -/
structure Relation where
  source : ElementName
  targets : List ElementName
  deriving DecidableEq

namespace Relation

/-- Whether the relation is about dependencies of `a` on `b`. -/
def covers (r : Relation) (a b : ElementName) : Bool :=
  r.source == a && r.targets.contains b

/-- The elements that the relation names. -/
def names (r : Relation) : List ElementName := r.source :: r.targets

end Relation

variable [PatternLanguage]

/-- Which elements may depend on which, and what else is asked of internal edges. -/
structure Policy where
  /-- Whether what no relation covers is allowed. -/
  allowByDefault : Bool
  allow : List Relation
  disallow : List Relation
  ignore : List GlobPattern
  /-- Whether dependencies on unclassified modules are reported. -/
  noUnknown : Bool
  /-- Whether dependencies on ignored modules are reported. -/
  noIgnored : Bool
  severity : Severity
  deriving DecidableEq

namespace Policy

/-- Whether a module is left out. -/
def isIgnored (p : Policy) (id : String) : Bool := p.ignore.any (·.isMatch id)

/-- Whether the element `a` may depend on the element `b`. -/
def permits (p : Policy) (a b : ElementName) : Bool :=
  if a = b then true
  else if p.disallow.any (·.covers a b) then false
  else if p.allow.any (·.covers a b) then true
  else p.allowByDefault

/-- All relations, the allowing ones first. -/
def relations (p : Policy) : List Relation := p.allow ++ p.disallow

end Policy

end ImportLint
