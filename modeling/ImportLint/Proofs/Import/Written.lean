import ImportLint.Import.Inventory
import ImportLint.Proofs.Document.Record
import ImportLint.Proofs.Json.Written

/-!
# Written inventories

The records of an inventory are written with all their fields in order, an absent value as `null`, and each of them is
read back from its document. So the text of an inventory is read as that inventory, whatever its strings are
(`Inventory.parse_json_render`).
-/

namespace ImportLint

open Document (Field Reader Shape)
open Json (Value)

theorem Kind.reader_name (k : Kind) : Kind.reader (.text k.name) = .ok k := by
  rw [Kind.reader, Reader.choice, Reader.named, Kind.ofName?_name]

namespace Dependency

theorem shape_lawful : shape.Lawful where
  names := by decide
  own := by decide
  commutes := by
    simp only [shape, List.pairwise_cons, List.forall_mem_cons, List.not_mem_nil, false_imp_iff,
      implies_true, List.Pairwise.nil, and_true]
    repeat' apply And.intro
    all_goals exact Field.commutes_of_put rfl rfl fun _ _ _ => rfl

/-- A dependency is read back from its document. -/
theorem reader_json (d : Dependency) : shape.reader d.json.tree = .ok d := by
  have hresolved := Value.option_read (r := Reader.text) (f := id) (fun _ => rfl) d.resolved?
  have hkind := Value.option_read Kind.reader_name d.kind?
  refine Shape.reader_of_writes shape_lawful ?_
  refine .give rfl (.give (map_eq_ok_iff.mpr ⟨_, hresolved, rfl⟩) ?_)
  exact .give (map_eq_ok_iff.mpr ⟨_, hkind, rfl⟩) (.give rfl (.nil _))

end Dependency

namespace Listing

theorem shape_lawful : shape.Lawful where
  names := by decide
  own := by decide
  commutes := by
    simp only [shape, List.pairwise_cons, List.forall_mem_cons, List.not_mem_nil, false_imp_iff,
      implies_true, List.Pairwise.nil, and_true]
    exact Field.commutes_of_put rfl rfl fun _ _ _ => rfl

/-- A listed module is read back from its document. -/
theorem reader_json (m : Listing) : shape.reader m.json.tree = .ok m := by
  have hdependencies := Value.list_read Dependency.reader_json m.dependencies
  refine Shape.reader_of_writes shape_lawful ?_
  exact .give rfl (.give (map_eq_ok_iff.mpr ⟨_, hdependencies, rfl⟩) (.nil _))

end Listing

namespace Record

theorem shape_lawful : shape.Lawful where
  names := by decide
  own := by decide
  commutes := by
    simp only [shape, List.pairwise_cons, List.forall_mem_cons, List.not_mem_nil, false_imp_iff,
      implies_true, List.Pairwise.nil, and_true]
    repeat' apply And.intro
    all_goals exact Field.commutes_of_put rfl rfl fun _ _ _ => rfl

/-- A record is read back from its document. -/
theorem reader_json (r : Record) : shape.reader r.json.tree = .ok r := by
  have hto := Value.option_read (r := Reader.text) (f := id) (fun _ => rfl) r.to?
  have hspecifier := Value.option_read (r := Reader.text) (f := id) (fun _ => rfl) r.specifier?
  have hkind := Value.option_read Kind.reader_name r.kind?
  refine Shape.reader_of_writes shape_lawful ?_
  refine .give rfl (.give (map_eq_ok_iff.mpr ⟨_, hto, rfl⟩) (.give (map_eq_ok_iff.mpr ⟨_, hspecifier, rfl⟩) ?_))
  exact .give (map_eq_ok_iff.mpr ⟨_, hkind, rfl⟩) (.give rfl (.nil _))

end Record

namespace Inventory

theorem shape_lawful : shape.Lawful where
  names := by decide
  own := by decide
  commutes := by
    simp only [shape, List.pairwise_cons, List.forall_mem_cons, List.not_mem_nil, false_imp_iff,
      implies_true, List.Pairwise.nil, and_true]
    exact Field.commutes_of_put rfl rfl fun _ _ _ => rfl

theorem reader_json (i : Inventory) : shape.reader i.json.tree = .ok i := by
  have hmodules := Value.list_read Listing.reader_json i.listings
  have hedges := Value.list_read Record.reader_json i.records
  refine Shape.reader_of_writes shape_lawful ?_
  exact .give (map_eq_ok_iff.mpr ⟨_, hmodules, rfl⟩) (.give (map_eq_ok_iff.mpr ⟨_, hedges, rfl⟩) (.nil _))

/-- The text of an inventory is read as this inventory. -/
theorem parse_json_render (i : Inventory) : parse i.json.render = .ok i := Value.read_render i.reader_json

end Inventory

end ImportLint
