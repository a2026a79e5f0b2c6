import ImportLint.Cycle.Search
import ImportLint.Graph.Basic

/-!
# Import cycles

The strongly connected components of a graph along its internal edges. Two modules share a component if each
can be reached from the other. A module is on a cycle if it shares its component or imports itself; an edge
is on a cycle if it is internal and both its ends are one module or share a component.
-/

namespace ImportLint

namespace Graph

/-- Puts the target of an internal edge among the successors of its source. -/
def addSuccessor (g : Graph) (table : Array (Array Nat)) (e : Edge) : Array (Array Nat) :=
  match e.isInternal, g.find? e.source, e.target.module?.bind g.find? with
  | true, some v, some w => table.modify v (·.push w)
  | _, _, _ => table

/-- The numbers of the modules that each module imports internally, in the order of the edges. -/
def successorTable (g : Graph) : Array (Array Nat) :=
  g.edges.foldl (g.addSuccessor) (Array.replicate g.modules.size #[])

end Graph

/-- The components of a graph: the component of each module and the size of each component. -/
structure Components where
  number : Array Nat
  sizes : Array Nat
  deriving Repr

namespace Components

/-- The components of a graph. -/
def ofGraph (g : Graph) : Components :=
  let table := g.successorTable
  let s := Cycle.Search.run g.modules.size fun v => (table.getD v #[]).toList
  { number := s.component.map (·.getD 0), sizes := s.sizes }

/-- The component of the module with a number. -/
def componentOf (c : Components) (v : Nat) : Nat := c.number.getD v 0

/-- How many modules are in the component of the module with a number. -/
def sizeOf (c : Components) (v : Nat) : Nat := c.sizes.getD (c.componentOf v) 0

/-- The number of components with more than one module. -/
def cycleCount (c : Components) : Nat := c.sizes.toList.countP (1 < ·)

/-- Whether an internal edge of the graph leads from a module to itself. -/
def importsItself (g : Graph) (id : String) : Bool :=
  g.edges.any fun e => e.isInternal && e.source == id && e.target == .module id

/-- Whether the module with a number is on a cycle. -/
def isCyclic (c : Components) (g : Graph) (v : Nat) : Bool :=
  1 < c.sizeOf v || (g.modules[v]?).any (importsItself g)

/-- Whether an edge of the graph is on a cycle. -/
def isCyclicEdge (c : Components) (g : Graph) (e : Edge) : Bool :=
  match e.target with
  | .unresolved _ => false
  | .module id =>
    e.isInternal && (id == e.source ||
      match g.find? e.source, g.find? id with
      | some v, some w => c.componentOf v == c.componentOf w && 1 < c.sizeOf w
      | _, _ => false)

/-- For each edge of the graph whether it is on a cycle. -/
def cyclicEdges (c : Components) (g : Graph) : List Bool :=
  g.edges.toList.map (c.isCyclicEdge g)

end Components

end ImportLint
