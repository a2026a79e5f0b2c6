import ImportLint.Proofs.Document.Padded
import ImportLint.Proofs.Import.Written

/-!
# Padded inventories

What an extractor says beyond the fields of an inventory does not disturb it. The inventory, its modules, their
dependencies and its edges may have further members with other keys, and their members may stand in any order: the text
is read as the same inventory (`Inventory.parse_padded`).
-/

namespace ImportLint

open Document (Field Itemwise Key Reader Shape Tree)

namespace Dependency

/-- A dependency with further members, in any order. -/
def Padded : Tree → Tree → Prop := shape.Padded fun _ => Eq

theorem reader_respects_padded : Reader.Respects shape.reader Padded :=
  Shape.reader_respects_padded shape_lawful rfl fun f _ a => Reader.respects_eq (f.read a)

end Dependency

namespace Listing

/-- A module with further members, in any order, and padded dependencies. -/
def Padded : Tree → Tree → Prop :=
  shape.Padded fun name => if name = "dependencies" then Itemwise Dependency.Padded else Eq

theorem reader_respects_padded : Reader.Respects shape.reader Padded := by
  refine Shape.reader_respects_padded shape_lawful rfl ?_
  simp only [shape, List.forall_mem_cons]
  refine ⟨fun a => Reader.respects_eq _, ?_, List.forall_mem_nil _⟩
  exact Field.respects_of_put rfl Dependency.reader_respects_padded.list

end Listing

namespace Record

/-- A record with further members, in any order. -/
def Padded : Tree → Tree → Prop := shape.Padded fun _ => Eq

theorem reader_respects_padded : Reader.Respects shape.reader Padded :=
  Shape.reader_respects_padded shape_lawful rfl fun f _ a => Reader.respects_eq (f.read a)

end Record

namespace Inventory

/-- An inventory with further members, in any order, and padded modules and edges. -/
def Padded : Tree → Tree → Prop :=
  shape.Padded fun name => Itemwise (if name = "modules" then Listing.Padded else Record.Padded)

theorem reader_respects_padded : Reader.Respects shape.reader Padded := by
  refine Shape.reader_respects_padded shape_lawful rfl ?_
  simp only [shape, List.forall_mem_cons]
  refine ⟨?_, ?_, List.forall_mem_nil _⟩
  · exact Field.respects_of_put rfl Listing.reader_respects_padded.list
  · exact Field.respects_of_put rfl Record.reader_respects_padded.list

/-- A text whose document is that of an accepted text padded is read as the same inventory. -/
theorem parse_padded {text text' : String} {i : Inventory} (h : parse text = .ok i)
    (hpadded : Padded (Json.parse text).1 (Json.parse text').1) (hend : (Json.parse text').2 = false) :
    parse text' = .ok i := by
  obtain ⟨hread, -⟩ := Json.read_eq_ok_iff.mp h
  exact Json.read_eq_ok_iff.mpr ⟨reader_respects_padded _ _ i hpadded hread, hend⟩

/-- An inventory with a module, its import and a record. -/
def plain : Inventory :=
  { listings :=
      [{ source := "a"
         dependencies := [{ specifier := "./b", resolved? := none, kind? := none, couldNotResolve := false }] }]
    records := [{ source := "a", to? := some "c", specifier? := none, kind? := none, resolved := true }] }

def plainText : String :=
  "\x7b\"modules\":[\x7b\"source\":\"a\",\"dependencies\":[\x7b\"module\":\"./b\"\x7d]\x7d]," ++
    "\"edges\":[\x7b\"from\":\"a\",\"to\":\"c\"\x7d]\x7d"

/-- The same inventory with further members in each table and all members the other way round. -/
def paddedText : String :=
  "\x7b\"v\":\x7b\"v\":[]\x7d,\"v\":2,\"edges\":[\x7b\"weight\":1e4294967296,\"to\":\"c\",\"from\":\"a\"\x7d]," ++
    "\"modules\":[\x7b\"loc\":\"\\ud800\",\"dependencies\":[\x7b\"at\":[1,\x7b\x7d],\"module\":\"./b\"\x7d]," ++
      "\"source\":\"a\"\x7d]\x7d"

def plainDependency : Tree := .table [(.text "module", .text "./b")] .closed

def paddedDependency : Tree :=
  .table [(.text "at", .list [.int 1, .table [] .closed] .closed), (.text "module", .text "./b")] .closed

def plainModule : Tree :=
  .table [(.text "source", .text "a"), (.text "dependencies", .list [plainDependency] .closed)] .closed

def paddedModule : Tree :=
  .table
    [(.text "loc", .unpaired), (.text "dependencies", .list [paddedDependency] .closed), (.text "source", .text "a")]
    .closed

theorem padded_paddedModule : Listing.Padded plainModule paddedModule := by
  have hat : ∀ m ∈ [(Key.text "at", Tree.list [.int 1, .table [] .closed] .closed)], Dependency.shape.IsExtra m :=
    List.forall_mem_singleton.mpr ⟨"at", rfl, Shape.field?_eq_none_iff.mp rfl, rfl⟩
  have hdependency : Dependency.Padded plainDependency paddedDependency :=
    .table (.cons (.field rfl rfl) .nil) hat (List.reverse_perm _).symm
  have hloc : ∀ m ∈ [(Key.text "loc", Tree.unpaired)], Listing.shape.IsExtra m :=
    List.forall_mem_singleton.mpr ⟨"loc", rfl, Shape.field?_eq_none_iff.mp rfl, rfl⟩
  have hdependencies :
      Itemwise Dependency.Padded (.list [plainDependency] .closed) (.list [paddedDependency] .closed) :=
    .list (.cons hdependency .nil)
  exact .table (.cons (.field rfl rfl) (.cons (.field rfl hdependencies) .nil)) hloc (List.reverse_perm _).symm

def plainRecord : Tree := .table [(.text "from", .text "a"), (.text "to", .text "c")] .closed

def paddedRecord : Tree :=
  .table [(.text "weight", .overflow), (.text "to", .text "c"), (.text "from", .text "a")] .closed

theorem padded_paddedRecord : Record.Padded plainRecord paddedRecord := by
  have hweight : ∀ m ∈ [(Key.text "weight", Tree.overflow)], Record.shape.IsExtra m :=
    List.forall_mem_singleton.mpr ⟨"weight", rfl, Shape.field?_eq_none_iff.mp rfl, rfl⟩
  exact .table (.cons (.field rfl rfl) (.cons (.field rfl rfl) .nil)) hweight (List.reverse_perm _).symm

def plainTree : Tree :=
  .table [(.text "modules", .list [plainModule] .closed), (.text "edges", .list [plainRecord] .closed)] .closed

def paddedTree : Tree :=
  .table
    [(.text "v", .table [(.text "v", .list [] .closed)] .closed),
     (.text "v", .int 2),
     (.text "edges", .list [paddedRecord] .closed),
     (.text "modules", .list [paddedModule] .closed)] .closed

theorem padded_paddedTree : Padded plainTree paddedTree := by
  have hv : ∀ m ∈ [(Key.text "v", Tree.int 2), (.text "v", .table [(.text "v", .list [] .closed)] .closed)],
      shape.IsExtra m :=
    List.forall_mem_cons.mpr ⟨⟨"v", rfl, Shape.field?_eq_none_iff.mp rfl, rfl⟩,
      List.forall_mem_singleton.mpr ⟨"v", rfl, Shape.field?_eq_none_iff.mp rfl, rfl⟩⟩
  have hmodules : Itemwise Listing.Padded (.list [plainModule] .closed) (.list [paddedModule] .closed) :=
    .list (.cons padded_paddedModule .nil)
  have hrecords : Itemwise Record.Padded (.list [plainRecord] .closed) (.list [paddedRecord] .closed) :=
    .list (.cons padded_paddedRecord .nil)
  exact .table (.cons (.field rfl hmodules) (.cons (.field rfl hrecords) .nil)) hv (List.reverse_perm _).symm

set_option maxRecDepth 3000 in
theorem parse_paddedText :
    parse plainText = .ok plain ∧ Padded (Json.parse plainText).1 (Json.parse paddedText).1 ∧
      (Json.parse paddedText).2 = false ∧ parse paddedText = .ok plain := by
  have hplain : Json.parse plainText = (plainTree, false) := rfl
  have hpadded : Json.parse paddedText = (paddedTree, false) := rfl
  have hread : parse plainText = .ok plain := by
    rw [parse, Json.read_eq_ok_iff, hplain]
    exact ⟨rfl, rfl⟩
  have htrees : Padded (Json.parse plainText).1 (Json.parse paddedText).1 := by
    rw [hplain, hpadded]
    exact padded_paddedTree
  have hend : (Json.parse paddedText).2 = false := by
    rw [hpadded]
  exact ⟨hread, htrees, hend, parse_padded hread htrees hend⟩

end Inventory

end ImportLint
