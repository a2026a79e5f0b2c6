import ImportLint.Proofs.Report.Sorted

/-!
# Ties

The order of a report looks at everything but comments, so it ties violations that differ in nothing else. Which of them
comes first is up to the order in which they were found. Hence that order shows in a report as soon as two violations tie
that are not the same, and in their comments only (`Report.ofViolations_eq_iff`).
-/

namespace ImportLint

namespace Violation

/-- A violation without its comment. -/
def uncommented (v : Violation) : Violation := { v with comment? := none }

/-- The order ties violations if and only if they are the same but for their comments. -/
theorem order_eq_iff_uncommented {a b : Violation} : a.order b = .eq ↔ a.uncommented = b.uncommented := by
  simp only [order_eq_iff, uncommented, Violation.mk.injEq, and_true]
  constructor
  · rintro ⟨hseverity, hsource, hrule, htarget, hmessage⟩
    exact ⟨hrule, hseverity, hsource, htarget, hmessage⟩
  · rintro ⟨hrule, hseverity, hsource, htarget, hmessage⟩
    exact ⟨hseverity, hsource, hrule, htarget, hmessage⟩

@[simp] theorem order_uncommented (a b : Violation) : a.uncommented.order b.uncommented = a.order b := rfl

@[simp] theorem line_uncommented (v : Violation) : v.uncommented.line = v.line := rfl

end Violation

namespace Report

/-- A report without comments. -/
def uncommented (r : Report) : Report := { r with violations := r.violations.map Violation.uncommented }

/-- Comments have no part in the order: they may as well be taken away before. -/
theorem uncommented_ofViolations (vs : List Violation) (m e : Nat) :
    (ofViolations vs m e).uncommented = ofViolations (vs.map Violation.uncommented) m e := by
  have hsort : (vs.mergeSort Violation.mayPrecede).map Violation.uncommented =
      (vs.map Violation.uncommented).mergeSort Violation.mayPrecede :=
    List.map_mergeSort fun a _ b _ => by rw [Violation.mayPrecede, Violation.mayPrecede, Violation.order_uncommented]
  exact (Report.mk.injEq ..).mpr ⟨hsort, rfl, rfl⟩

theorem untied_uncommented (vs : List Violation) : Untied (vs.map Violation.uncommented) := by
  intro a ha b hb htie
  obtain ⟨x, -, rfl⟩ := List.mem_map.mp ha
  obtain ⟨y, -, rfl⟩ := List.mem_map.mp hb
  exact Violation.order_eq_iff_uncommented.mp htie

/-- But for comments, a report does not depend on the order in which the violations were found. -/
theorem uncommented_congr {vs ws : List Violation} (h : vs.Perm ws) (m e : Nat) :
    (ofViolations vs m e).uncommented = (ofViolations ws m e).uncommented := by
  rw [uncommented_ofViolations, uncommented_ofViolations]
  exact ofViolations_congr (h.map _) (untied_uncommented vs) m e

/-- The lines of a report show no comments. -/
theorem compact_uncommented (r : Report) : r.uncommented.compact = r.compact := by
  simp only [compact, uncommented, List.map_map, Function.comp_def, Violation.line_uncommented]

/-- Of violations that tie, a report has the one that was found first before the others. -/
theorem eq_of_report_eq {a b : Violation} {vs ws : List Violation} {m e : Nat} (htie : a.order b = .eq)
    (h : ofViolations (a :: vs) m e = ofViolations (b :: ws) m e) : a = b := by
  have hkey : b.sortKey = a.sortKey := (Violation.order_eq_eq_iff.mp htie).symm
  have hfilter := filter_sortKey (a :: vs) m e a.sortKey
  rw [h, filter_sortKey (b :: ws) m e a.sortKey, List.filter_cons_of_pos (by simpa using hkey),
    List.filter_cons_of_pos (by simp)] at hfilter
  exact (List.cons.inj hfilter).1.symm

/-- Whatever the order in which the violations were found, a report is the same but for comments, and its lines are the
same. It is the same with its comments, for every such order, if and only if no two of the violations differ in nothing
but their comments. -/
theorem ofViolations_eq_iff (vs : List Violation) (m e : Nat) :
    (∀ ws, ws.Perm vs → (ofViolations ws m e).uncommented = (ofViolations vs m e).uncommented ∧
      (ofViolations ws m e).compact = (ofViolations vs m e).compact) ∧
    ((∀ ws, ws.Perm vs → ofViolations ws m e = ofViolations vs m e) ↔
      ∀ a ∈ vs, ∀ b ∈ vs, a.uncommented = b.uncommented → a = b) := by
  refine ⟨fun ws hws => ?_, ?_⟩
  · have hreports := uncommented_congr hws m e
    refine ⟨hreports, ?_⟩
    rw [← compact_uncommented, hreports, compact_uncommented]
  · constructor
    · intro hall a ha b hb htie
      -- each of the two can be found first
      have hfirst : ofViolations (a :: vs.erase a) m e = ofViolations (b :: vs.erase b) m e :=
        (hall _ (List.perm_cons_erase ha).symm).trans (hall _ (List.perm_cons_erase hb).symm).symm
      exact eq_of_report_eq (Violation.order_eq_iff_uncommented.mpr htie) hfirst
    · intro hsame ws hws
      have huntied : Untied vs := fun a ha b hb htie =>
        hsame a ha b hb (Violation.order_eq_iff_uncommented.mp htie)
      exact (ofViolations_congr hws.symm huntied m e).symm

/-- Violations that all tie stay as they were found. -/
theorem violations_of_tied {vs : List Violation} (h : vs.Pairwise fun a b => a.order b = .eq) (m e : Nat) :
    (ofViolations vs m e).violations = vs := by
  refine List.mergeSort_of_pairwise (h.imp fun {a b} htie => ?_)
  rw [Violation.mayPrecede, htie]
  rfl

/-- A breach of a rule, with a comment of one's own. -/
def noted (note : String) : Violation :=
  { rule := "no-legacy", severity := .error, source := "a", target? := some "b", message := "m", comment? := some note }

/-- Two violations that differ in their comments make two reports, one for each order in which they may be found, and
the reports are printed differently. -/
theorem noted_either_way :
    [noted "first", noted "second"].Perm [noted "second", noted "first"] ∧
      ofViolations [noted "first", noted "second"] 2 1 ≠ ofViolations [noted "second", noted "first"] 2 1 ∧
      (ofViolations [noted "first", noted "second"] 2 1).violations.map Violation.paragraph ≠
        (ofViolations [noted "second", noted "first"] 2 1).violations.map Violation.paragraph := by
  have htied : ∀ s t : String, (ofViolations [noted s, noted t] 2 1).violations = [noted s, noted t] := by
    intro s t
    have hsame : (noted s).uncommented = (noted t).uncommented := rfl
    exact violations_of_tied (List.pairwise_pair.mpr (Violation.order_eq_iff_uncommented.mpr hsame)) 2 1
  have hprinted : (ofViolations [noted "first", noted "second"] 2 1).violations.map Violation.paragraph ≠
      (ofViolations [noted "second", noted "first"] 2 1).violations.map Violation.paragraph := by
    rw [htied, htied]
    decide
  exact ⟨.swap .., fun h => hprinted (by rw [h]), hprinted⟩

end Report

end ImportLint
