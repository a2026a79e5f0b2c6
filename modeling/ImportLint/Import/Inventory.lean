import ImportLint.Document.Shape
import ImportLint.Graph.Basic
import ImportLint.Json.Parse
import ImportLint.Json.Value

/-!
# Import inventories

What an extractor reports about a tree: modules with their imports, and further import records. An inventory
is read from and written as a JSON document; `graph` adds the modules with their imports first, in order, and
then the further records. A module without imports is in the graph as well.
-/

namespace ImportLint

open Document (Field Reader Shape ReadError)
open Json (Value)

/-- One import of a listed module. -/
structure Dependency where
  /-- The import as written. -/
  specifier : String
  /-- The imported module, if one was found. -/
  resolved? : Option String
  kind? : Option Kind
  /-- Whether the extractor says that nothing was found. -/
  couldNotResolve : Bool
  deriving DecidableEq, Repr

/-- A module with its imports. -/
structure Listing where
  source : String
  dependencies : List Dependency
  deriving DecidableEq, Repr

/-- What an extractor reports. -/
structure Inventory where
  listings : List Listing
  records : List Record
  deriving DecidableEq, Repr

/-- Reads the name of a kind. -/
def Kind.reader : Reader Kind := Reader.choice Kind.ofName? Kind.spellings

/-- A kind as JSON. -/
def Kind.json (k : Kind) : Value := .text k.name

namespace Dependency

def shape : Shape Dependency where
  name := "DependencyRecord"
  fields :=
    [.need "module" Reader.text fun s d => { d with specifier := s },
     .want "resolved" (Reader.optional Reader.text) fun r d => { d with resolved? := r },
     .want "kind" (Reader.optional Kind.reader) fun k d => { d with kind? := k },
     .want "couldNotResolve" Reader.flag fun b d => { d with couldNotResolve := b }]
  blank := { specifier := "", resolved? := none, kind? := none, couldNotResolve := false }
  strict := false

/-- The record that an import of a listed module stands for. -/
def record (source : String) (d : Dependency) : Record :=
  { source := source
    to? := d.resolved?
    specifier? := some d.specifier
    kind? := d.kind?
    resolved := !d.couldNotResolve && d.resolved?.isSome }

def json (d : Dependency) : Value :=
  .table
    [("module", .text d.specifier),
     ("resolved", .option .text d.resolved?),
     ("kind", .option Kind.json d.kind?),
     ("couldNotResolve", .bool d.couldNotResolve)]

end Dependency

namespace Listing

def shape : Shape Listing where
  name := "ModuleRecord"
  fields :=
    [.need "source" Reader.text fun s m => { m with source := s },
     .want "dependencies" (Reader.list Dependency.shape.reader) fun ds m => { m with dependencies := ds }]
  blank := { source := "", dependencies := [] }
  strict := false

/-- The records of a listed module. -/
def records (m : Listing) : List Record := m.dependencies.map (Dependency.record m.source)

def json (m : Listing) : Value :=
  .table
    [("source", .text m.source),
     ("dependencies", .list (m.dependencies.map Dependency.json))]

/-- Adds a listed module and its imports to a graph. -/
def addTo (g : Graph) (m : Listing) : Graph :=
  m.records.foldl Graph.addRecord (g.addModule m.source)

end Listing

namespace Record

def shape : Shape Record where
  name := "EdgeRecord"
  fields :=
    [.need "from" Reader.text fun s r => { r with source := s },
     .want "to" (Reader.optional Reader.text) fun t r => { r with to? := t },
     .want "specifier" (Reader.optional Reader.text) fun s r => { r with specifier? := s },
     .want "kind" (Reader.optional Kind.reader) fun k r => { r with kind? := k },
     .want "resolved" Reader.flag fun b r => { r with resolved := b }]
  blank := { source := "", to? := none, specifier? := none, kind? := none, resolved := true }
  strict := false

def json (r : Record) : Value :=
  .table
    [("from", .text r.source),
     ("to", .option .text r.to?),
     ("specifier", .option .text r.specifier?),
     ("kind", .option Kind.json r.kind?),
     ("resolved", .bool r.resolved)]

end Record

namespace Inventory

def shape : Shape Inventory where
  name := "InputDocument"
  fields :=
    [.want "modules" (Reader.list Listing.shape.reader) fun ms i => { i with listings := ms },
     .want "edges" (Reader.list Record.shape.reader) fun rs i => { i with records := rs }]
  blank := { listings := [], records := [] }
  strict := false

/-- Reads an inventory from JSON. -/
def parse (text : String) : Except ReadError Inventory := Json.read shape.reader text

def json (i : Inventory) : Value :=
  .table
    [("modules", .list (i.listings.map Listing.json)),
     ("edges", .list (i.records.map Record.json))]

/-- All records: those of the listed modules and the further ones. -/
def allRecords (i : Inventory) : List Record := i.listings.flatMap Listing.records ++ i.records

/-- The number of imports reported, repetitions counted. -/
def recordCount (i : Inventory) : Nat := i.allRecords.length

/-- The graph of an inventory. -/
def graph (i : Inventory) : Graph :=
  i.records.foldl Graph.addRecord (i.listings.foldl Listing.addTo Graph.empty)

end Inventory

end ImportLint
