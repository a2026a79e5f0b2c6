import ImportLint.Import.Record
import Std.Data.HashMap

/-!
# Import graphs

A graph has the modules and the edges of one analysis, each numbered in the order of first mention.
`addModule` and `addRecord` let it grow: a module is added once, an edge once for each source and target. Of
the records for one edge the first gives the specifier and the one of highest rank the kind.
-/

namespace ImportLint

/-- A change of the kind of an edge by a further record for it. -/
structure Upgrade where
  source : String
  old : Kind
  new : Kind
  deriving DecidableEq, Repr

/-- The modules and edges of one analysis. `moduleIndex` and `edgeIndex` find their numbers; `upgrades` notes
the changes of kinds so far. -/
structure Graph where
  modules : Array String
  edges : Array Edge
  moduleIndex : Std.HashMap String Nat
  edgeIndex : Std.HashMap (String × Target) Nat
  upgrades : Array Upgrade

namespace Graph

/-- The graph without modules. -/
def empty : Graph :=
  { modules := #[], edges := #[], moduleIndex := {}, edgeIndex := {}, upgrades := #[] }

/-- The number of a module. -/
def find? (g : Graph) (id : String) : Option Nat := g.moduleIndex[id]?

/-- The number of the edge between a source and a target. -/
def findEdge? (g : Graph) (key : String × Target) : Option Nat := g.edgeIndex[key]?

/-- Adds a module unless it is there. -/
def addModule (g : Graph) (id : String) : Graph :=
  match g.find? id with
  | some _ => g
  | none =>
    { g with
      modules := g.modules.push id
      moduleIndex := g.moduleIndex.insert id g.modules.size }

/-- Adds the module that a target leads to. -/
def addTarget (g : Graph) : Target → Graph
  | .module id => g.addModule id
  | .unresolved _ => g

/-- Adds an edge under the next number. -/
def pushEdge (g : Graph) (e : Edge) : Graph :=
  { g with
    edges := g.edges.push e
    edgeIndex := g.edgeIndex.insert e.key g.edges.size }

/-- Gives an edge another kind if that ranks higher. -/
def raiseKind (g : Graph) (i : Nat) (kind : Kind) : Graph :=
  match g.edges[i]? with
  | none => g
  | some e =>
    if e.kind.rank < kind.rank then
      { g with
        edges := g.edges.setIfInBounds i { e with kind := kind }
        upgrades := g.upgrades.push { source := e.source, old := e.kind, new := kind } }
    else g

/-- Adds an edge, or raises the kind of the edge between the same ends. -/
def addEdge (g : Graph) (e : Edge) : Graph :=
  match g.findEdge? e.key with
  | some i => g.raiseKind i e.kind
  | none => g.pushEdge e

/-- Adds what a record reports: its source, its target and its edge. -/
def addRecord (g : Graph) (r : Record) : Graph :=
  ((g.addModule r.source).addTarget r.target).addEdge r.edge

/-- The number of the edge that a record stands for. -/
def recordEdge? (g : Graph) (r : Record) : Option Nat :=
  g.findEdge? r.edge.key

/-- Notes the number of an edge at the module at one of its ends, if there is one. -/
def noteEdge (g : Graph) (end? : Edge → Option String) (table : Array (Array Nat)) (e : Edge × Nat) :
    Array (Array Nat) :=
  match (end? e.1).bind g.find? with
  | some v => table.modify v (·.push e.2)
  | none => table

/-- For each module, by number, the numbers of the edges that have it at one of their ends. -/
def edgeTable (g : Graph) (end? : Edge → Option String) : Array (Array Nat) :=
  g.edges.toList.zipIdx.foldl (g.noteEdge end?) (Array.replicate g.modules.size #[])

/-- The numbers of the edges that have a module at one of their ends. -/
def edgesAt (g : Graph) (end? : Edge → Option String) (id : String) : List Nat :=
  match g.find? id with
  | some v => ((g.edgeTable end?).getD v #[]).toList
  | none => []

/-- The numbers of the edges that leave a module. -/
def outgoing (g : Graph) (id : String) : List Nat := g.edgesAt (fun e => some e.source) id

/-- The numbers of the edges that lead to a module. -/
def incoming (g : Graph) (id : String) : List Nat := g.edgesAt (fun e => e.target.module?) id

/-- How many internal edges lead to a module. -/
def internalIn (g : Graph) (id : String) : Nat :=
  g.edges.toList.countP fun e => e.isInternal && e.target == .module id

/-- How many internal edges leave a module. -/
def internalOut (g : Graph) (id : String) : Nat :=
  g.edges.toList.countP fun e => e.isInternal && e.source == id

/-- Whether a module is a package: it imports nothing, and something imports it but nothing does so
internally. -/
def isPackage (g : Graph) (id : String) : Bool :=
  !(g.edges.any fun e => e.source == id) &&
    (g.edges.any fun e => e.target == .module id) &&
    !(g.edges.any fun e => e.isInternal && e.target == .module id)

end Graph

end ImportLint
