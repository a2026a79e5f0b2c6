import ImportLint.Document.Tree

/-!
# Tables of TOML

A document is built up table by table. `Node` is a part of an unfinished document; how a table came to be
decides what may still be added to it. Tables with a header are complete when the next header comes, those
made by dotted keys may be extended by dotted keys, and those a header only passes through may get a header
of their own. `none` stands for a key that is given twice or goes through something that cannot be extended.
-/

namespace ImportLint.Toml

open Document (Tree)

/-- How a table came to be. -/
inductive Origin
  /-- By its own header. -/
  | header
  /-- As a part of the header of another table. -/
  | implied
  /-- By a dotted key. -/
  | dotted
  deriving DecidableEq, Repr

/-- A part of an unfinished document. -/
inductive Node
  | value (t : Tree)
  | table (origin : Origin) (entries : List (String × Node))
  /-- An array of tables. -/
  | tables (elements : List (List (String × Node)))

/-- The entries of a table, in order. -/
abbrev Entries := List (String × Node)

namespace Node

mutual

/-- The finished form of a node. -/
def tree : Node → Tree
  | value t => t
  | table _ entries => .table (treeOfEntries entries) .closed
  | tables elements => .list (treeOfElements elements) .closed

def treeOfEntries : List (String × Node) → List (Document.Key × Tree)
  | [] => []
  | (k, n) :: es => (.text k, n.tree) :: treeOfEntries es

def treeOfElements : List (List (String × Node)) → List Tree
  | [] => []
  | es :: rest => .table (treeOfEntries es) .closed :: treeOfElements rest

end

end Node

namespace Entries

/-- The entry with a key. -/
def find? (es : Entries) (key : String) : Option Node :=
  (List.find? (fun e => e.1 == key) es).map Prod.snd

/-- Puts a node in the place of the entry with the key, or behind all entries if there is none. -/
def put (key : String) (n : Node) : Entries → Entries
  | [] => [(key, n)]
  | e :: es => if e.1 = key then (key, n) :: es else e :: put key n es

/-- The entries without the one with the key. -/
def erase (es : Entries) (key : String) : Entries := es.filter fun e => e.1 != key

/-- Changes the last one of a list of tables. -/
def alterLast (f : Entries → Option Entries) : List Entries → Option (List Entries)
  | [] => none
  | [es] => (f es).map fun es => [es]
  | es :: rest => (alterLast f rest).map (es :: ·)

/-- Adds a value under a dotted key: `path` are its parts but the last. -/
def insert : List String → String → Tree → Entries → Option Entries
  | [], key, t, es =>
    match es.find? key with
    | some _ => none
    | none => some (es ++ [(key, .value t)])
  | k :: path, key, t, es => do
    let n ← match es.find? k with
      | none => (insert path key t []).map (.table .dotted)
      | some (.table .header _) => none
      | some (.table .implied inner) =>
        if path.isEmpty then none else (insert path key t inner).map (.table .implied)
      | some (.table .dotted inner) => (insert path key t inner).map (.table .dotted)
      | some (.tables elements) =>
        if path.isEmpty then none else (alterLast (insert path key t) elements).map .tables
      | some (.value _) => none
    pure (es.put k n)

/-- Changes the entries of the table at a path, making tables on the way where there are none. An array of
tables stands for its last table. -/
def alterAt (f : Entries → Option Entries) : List String → Entries → Option Entries
  | [], es => f es
  | k :: path, es => do
    let n ← match es.find? k with
      | none => (alterAt f path []).map (.table .implied)
      | some (.table origin inner) => (alterAt f path inner).map (.table origin)
      | some (.tables elements) => (alterLast (alterAt f path) elements).map .tables
      | some (.value _) => none
    pure (es.put k n)

end Entries

/-- A key and its value: the parts of the key but the last, the last part, and the value. -/
structure Assignment where
  path : List String
  key : String
  value : Tree

/-- A header with the assignments below it. -/
structure Section where
  /-- Whether the header adds a table to an array. -/
  isArray : Bool
  path : List String
  key : String
  assignments : List Assignment

namespace Entries

/-- Adds assignments in order. -/
def assign (es : Entries) (as : List Assignment) : Option Entries :=
  as.foldlM (fun es a => insert a.path a.key a.value es) es

/-- Adds the table of a header to its parent. A table that has been implied so far moves to the end. -/
def addTable (key : String) (as : List Assignment) (es : Entries) : Option Entries :=
  match es.find? key with
  | none => (assign [] as).map fun t => es ++ [(key, .table .header t)]
  | some (.table .implied inner) => (assign inner as).map fun t => es.erase key ++ [(key, .table .header t)]
  | some _ => none

/-- Adds a table to an array of tables. -/
def addElement (key : String) (as : List Assignment) (es : Entries) : Option Entries :=
  match es.find? key with
  | none => (assign [] as).map fun t => es ++ [(key, .tables [t])]
  | some (.tables elements) => (assign [] as).map fun t => es.put key (.tables (elements ++ [t]))
  | some _ => none

/-- Adds a section to a document. -/
def addSection (es : Entries) (s : Section) : Option Entries :=
  alterAt (if s.isArray then addElement s.key s.assignments else addTable s.key s.assignments) s.path es

end Entries

/-- The table of a list of assignments. -/
def tableOf (as : List Assignment) : Option Tree :=
  (Entries.assign [] as).map fun es => .table (Node.treeOfEntries es) .closed

/-- The document of the assignments before the first header and the sections. -/
def documentOf (as : List Assignment) (sections : List Section) : Option Tree := do
  let es ← Entries.assign [] as
  let es ← sections.foldlM Entries.addSection es
  pure (.table (Node.treeOfEntries es) .closed)

end ImportLint.Toml
