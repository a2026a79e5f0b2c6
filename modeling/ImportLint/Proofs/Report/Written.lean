import ImportLint.Proofs.Document.Record
import ImportLint.Proofs.Json.Written
import ImportLint.Report.Basic

/-!
# Written reports

A target or a comment that a violation does not have is left out when the violation is written. It is read back as
absent, and an empty text as an empty text (`Violation.reader_json`). A report is read back with its violations in the
same order if its numbers fit sixty-four bits (`Report.reader_json`).
-/

namespace ImportLint

open Document (Reader Shape)
open Json (Value)

theorem Severity.reader_name (s : Severity) : reader (.text s.name) = .ok s := by
  cases s <;> rfl

namespace Violation

theorem shape_lawful : shape.Lawful where
  names := by decide
  own := by decide
  commutes := by
    simp only [shape, List.pairwise_cons, List.forall_mem_cons, List.not_mem_nil, false_imp_iff,
      implies_true, List.Pairwise.nil, and_true]
    repeat' apply And.intro
    all_goals exact Document.Field.commutes_of_put rfl rfl fun _ _ _ => rfl

/-- A text that is written only if it is there gives the value of its field, if the record starts without one. -/
theorem writes_present {α : Type} {name : String} {put : Option String → α → α} {fs : List (Document.Field α)}
    {ms : List (String × Value)} {a b : α} (text? : Option String) (hnone : put none a = a)
    (h : Shape.Writes fs (Value.treesOfMembers ms) (put text? a) b) :
    Shape.Writes (.want name (Reader.optional Reader.text) put :: fs)
      (Value.treesOfMembers (present name text? ++ ms)) a b := by
  cases text? with
  | none => exact .leave rfl (hnone ▸ h)
  | some s => exact .give rfl h

theorem json_eq (v : Violation) :
    v.json = .table (("rule", .text v.rule) :: ("severity", v.severity.json) :: ("from", .text v.source) ::
      (present "to" v.target? ++ ("message", .text v.message) :: (present "comment" v.comment? ++ []))) := by
  simp [json]

/-- A violation is read back from its document. -/
theorem reader_json (v : Violation) : shape.reader v.json.tree = .ok v := by
  rw [json_eq]
  refine Shape.reader_of_writes shape_lawful ?_
  have hseverity : Severity.reader v.severity.json.tree = .ok v.severity := v.severity.reader_name
  refine .give rfl (.give (map_eq_ok_iff.mpr ⟨_, hseverity, rfl⟩) (.give rfl ?_))
  exact writes_present v.target? rfl (.give rfl (writes_present v.comment? rfl (.nil _)))

end Violation

namespace Report

theorem shape_lawful : shape.Lawful where
  names := by decide
  own := by decide
  commutes := by
    simp only [shape, List.pairwise_cons, List.forall_mem_cons, List.not_mem_nil, false_imp_iff,
      implies_true, List.Pairwise.nil, and_true]
    repeat' apply And.intro
    all_goals exact Document.Field.commutes_of_put rfl rfl fun _ _ _ => rfl

/-- A report is read back from its document. -/
theorem reader_json {r : Report} (hm : r.modulesChecked ≤ Json.word64) (he : r.edgesChecked ≤ Json.word64) :
    shape.reader r.json.tree = .ok r := by
  have hviolations := Value.list_read Violation.reader_json r.violations
  have hmodules := Value.count_read hm
  have hedges := Value.count_read he
  refine Shape.reader_of_writes shape_lawful ?_
  refine .give (map_eq_ok_iff.mpr ⟨_, hviolations, rfl⟩) (.give (map_eq_ok_iff.mpr ⟨_, hmodules, rfl⟩) ?_)
  exact .give (map_eq_ok_iff.mpr ⟨_, hedges, rfl⟩) (.nil _)

end Report

end ImportLint
