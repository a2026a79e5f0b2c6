import ImportLint.Graph.Basic
import Std.Data.HashSet

/-!
# The standing of modules

Whether a module of a graph is connected by internal edges, is an orphan without any, or is a package, which
is neither. `Graph.standing` says so from the edges; `Ends` collects the ends of all edges once, so that
`Ends.standing` answers the same for every module at little cost.
-/

namespace ImportLint

/-- The place of a module among the others. -/
inductive Standing
  /-- Some internal edge touches the module. -/
  | connected
  /-- No internal edge touches the module. -/
  | orphan
  /-- The module is known only as the target of imports that are not internal. -/
  | package
  deriving DecidableEq, Repr

/-- The standing of a module, from the edges that touch it. -/
def Graph.standing (g : Graph) (id : String) : Standing :=
  if g.isPackage id then .package
  else if g.internalIn id = 0 ∧ g.internalOut id = 0 then .orphan
  else .connected

/-- The modules at the ends of edges. -/
structure Ends where
  /-- The sources of edges. -/
  importing : Std.HashSet String
  /-- The modules that edges lead to. -/
  imported : Std.HashSet String
  /-- The modules at either end of internal edges. -/
  internal : Std.HashSet String

namespace Ends

def empty : Ends := ⟨{}, {}, {}⟩

/-- Takes in the ends of an edge. -/
def add (s : Ends) (e : Edge) : Ends :=
  match e.target with
  | .unresolved _ => { s with importing := s.importing.insert e.source }
  | .module id =>
    { importing := s.importing.insert e.source
      imported := s.imported.insert id
      internal := if e.isInternal then (s.internal.insert e.source).insert id else s.internal }

/-- The ends of all edges of a graph. -/
def ofGraph (g : Graph) : Ends := g.edges.foldl add empty

/-- The standing of a module. -/
def standing (s : Ends) (id : String) : Standing :=
  if s.internal.contains id then .connected
  else if !s.importing.contains id && s.imported.contains id then .package
  else .orphan

end Ends

end ImportLint
