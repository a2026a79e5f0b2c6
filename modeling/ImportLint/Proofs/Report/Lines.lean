import ImportLint.Report.Basic
import Mathlib.Data.List.Basic

/-!
# Lines of compact reports

A compact report ends every violation with a line feed, and writes the violation as it is. So it has a line for each
violation, and one more for each line feed in the texts of these (`Report.length_linesOf_compact`); each violation has a
line of its own if and only if no violation has a line feed in its text (`Report.linesOf_compact_eq_iff`).
-/

namespace ImportLint

/-! ## Lines -/

/-- No line feed stands in the text. -/
def OneLine (text : String) : Prop := '\n' ∉ text.toList

instance (text : String) : Decidable (OneLine text) := inferInstanceAs (Decidable (_ ∉ _))

/-- The parts of a text before, between and behind its line feeds. -/
def partsOf (text : String) : List String := (text.toList.splitOn '\n').map String.ofList

/-- The lines of a text: its parts, unless the last one is empty and only ends the line before it. -/
def linesOf (text : String) : List String :=
  if (partsOf text).getLast? = some "" then (partsOf text).dropLast else partsOf text

@[simp] theorem oneLine_append {a b : String} : OneLine (a ++ b) ↔ OneLine a ∧ OneLine b := by
  simp only [OneLine, String.toList_append, List.mem_append, not_or]

theorem partsOf_append (a b : String) : partsOf (a ++ "\n" ++ b) = partsOf a ++ partsOf b := by
  have htext : (a ++ "\n" ++ b).toList = a.toList ++ '\n' :: b.toList := by simp
  rw [partsOf, htext, List.splitOn_append_cons_self, List.map_append]
  rfl

theorem partsOf_of_oneLine {text : String} (h : OneLine text) : partsOf text = [text] := by
  rw [partsOf, List.splitOn_eq_singleton h, List.map_singleton, String.ofList_toList]

/-- Splitting makes one part more than there are places to split at. -/
theorem length_splitOn {α : Type} [DecidableEq α] (a : α) (xs : List α) :
    (xs.splitOn a).length = xs.count a + 1 := by
  induction xs with
  | nil => rfl
  | cons x xs ih =>
    rw [List.splitOn_cons_eq_if_modifyHead]
    by_cases hx : x = a
    · simp [hx, ih]
    · simp [hx, ih]

theorem length_partsOf (text : String) : (partsOf text).length = text.toList.count '\n' + 1 := by
  rw [partsOf, List.length_map, length_splitOn]

theorem length_flatMap_partsOf (texts : List String) :
    (texts.flatMap partsOf).length = texts.length + (texts.flatMap String.toList).count '\n' := by
  induction texts with
  | nil => rfl
  | cons text texts ih =>
    rw [List.flatMap_cons, List.flatMap_cons, List.length_append, List.count_append, length_partsOf, ih,
      List.length_cons]
    omega

theorem partsOf_join (texts : List String) :
    partsOf (String.join (texts.map fun text => text ++ "\n")) = texts.flatMap partsOf ++ [""] := by
  induction texts with
  | nil => rfl
  | cons text texts ih =>
    rw [List.map_cons, String.join_cons, partsOf_append, ih, List.flatMap_cons, List.append_assoc]

/-- Where each text is ended by a line feed, its parts are lines. -/
theorem linesOf_join (texts : List String) :
    linesOf (String.join (texts.map fun text => text ++ "\n")) = texts.flatMap partsOf := by
  rw [linesOf, partsOf_join, if_pos (List.getLast?_concat ..), List.dropLast_concat]

example : linesOf "a\n\nb\n" = ["a", "", "b"] := by decide

/-! ## Violations -/

namespace Violation

/-- No line feed stands in the name of the rule, the source or the target. -/
structure NamesOneLine (v : Violation) : Prop where
  rule : OneLine v.rule
  source : OneLine v.source
  target : ∀ t, v.target? = some t → OneLine t

theorem oneLine_line_iff (v : Violation) : OneLine v.line ↔ v.NamesOneLine ∧ OneLine v.message := by
  have harrow : OneLine v.arrow ↔ ∀ t, v.target? = some t → OneLine t := by
    unfold arrow
    cases v.target? with
    | none => exact iff_of_true (by decide) nofun
    | some t =>
      have hlead : OneLine " -> " := by decide
      simp [hlead]
  have hseverity : OneLine v.severity.name := by cases v.severity <;> decide
  have hcolon : OneLine ": " := by decide
  have hopen : OneLine " [" := by decide
  have hclose : OneLine "] " := by decide
  simp only [line, oneLine_append, harrow, hseverity, hcolon, hopen, hclose, and_true]
  constructor
  · rintro ⟨⟨⟨hs, ht⟩, hr⟩, hm⟩
    exact ⟨⟨hr, hs, ht⟩, hm⟩
  · rintro ⟨h, hm⟩
    exact ⟨⟨⟨h.source, h.target⟩, h.rule⟩, hm⟩

end Violation

/-! ## Reports -/

namespace Report

variable (r : Report)

theorem linesOf_compact : linesOf r.compact = (r.violations.map Violation.line).flatMap partsOf := by
  have hcompact : r.compact = String.join ((r.violations.map Violation.line).map fun text => text ++ "\n") := by
    rw [compact, List.map_map]
    rfl
  rw [hcompact, linesOf_join]

theorem length_linesOf_compact :
    (linesOf r.compact).length = r.violations.length + (r.violations.flatMap fun v => v.line.toList).count '\n' := by
  rw [linesOf_compact, length_flatMap_partsOf, List.length_map, List.flatMap_map]

theorem length_linesOf_compact_eq_iff :
    (linesOf r.compact).length = r.violations.length ↔ ∀ v ∈ r.violations, OneLine v.line := by
  rw [length_linesOf_compact, Nat.add_eq_left, List.count_eq_zero, List.mem_flatMap]
  simp only [OneLine, not_exists, not_and]

/-- The lines are the violations if and only if there are as many of them. -/
theorem linesOf_compact_eq_iff :
    linesOf r.compact = r.violations.map Violation.line ↔ ∀ v ∈ r.violations, OneLine v.line := by
  constructor
  · intro h
    rw [← r.length_linesOf_compact_eq_iff, h, List.length_map]
  · intro h
    rw [linesOf_compact, List.flatMap_map, List.map_eq_flatMap]
    exact List.flatMap_congr fun v hv => partsOf_of_oneLine (h v hv)

end Report

end ImportLint
