import ImportLint.Report.Basic
import Mathlib.Tactic.Common

/-!
# The order of reports

`Violation.order` is a total preorder (`Violation.order_trans`, `Violation.mayPrecede_total`) that ties two
violations if and only if they agree in everything but the comment (`Violation.order_eq_iff`). Where no two different
violations tie, a report depends only on which violations are found and not on their order
(`Report.ofViolations_congr`), and a report on some of them keeps their order (`Report.sublist_ofViolations`). Messages
and comments show nowhere else in a report (`Report.outlines_congr`).
-/

namespace ImportLint

theorem Severity.rank_injective {s t : Severity} (h : s.rank = t.rank) : s = t := by
  cases s <;> cases t <;> simp_all [rank]

namespace Violation

/-- The order as a chain of comparisons, the first one from the graver to the less grave. -/
theorem order_eq_compareLex :
    order =
      compareLex (fun a b => compareOn (fun v => v.severity.rank) b a)
        (compareLex (compareOn source)
          (compareLex (compareOn rule) (compareLex (compareOn target?) (compareOn message)))) := rfl

instance order_trans : Std.TransCmp order := by
  rw [order_eq_compareLex]
  have hopp : Std.TransCmp fun a b : Violation => compareOn (fun v => v.severity.rank) b a :=
    Std.TransCmp.opposite
  infer_instance

/-- Violations tie if and only if they agree in everything but the comment. -/
theorem order_eq_iff {a b : Violation} :
    a.order b = .eq ↔ a.severity = b.severity ∧ a.source = b.source ∧ a.rule = b.rule ∧ a.target? = b.target? ∧
      a.message = b.message := by
  simp only [order, Ordering.then_eq_eq, Std.LawfulEqCmp.compare_eq_iff_eq]
  exact and_congr_left fun _ => ⟨fun h => (Severity.rank_injective h).symm, fun h => by rw [h]⟩

theorem mayPrecede_trans (a b c : Violation) (hab : a.mayPrecede b = true) (hbc : b.mayPrecede c = true) :
    a.mayPrecede c = true :=
  Std.TransCmp.isLE_trans hab hbc

theorem mayPrecede_total (a b : Violation) : (a.mayPrecede b || b.mayPrecede a) = true := by
  rw [Bool.or_eq_true, mayPrecede, mayPrecede]
  cases h : a.order b with
  | lt => exact Or.inl rfl
  | eq => exact Or.inl rfl
  | gt =>
    have hba : b.order a = .lt := Std.OrientedCmp.lt_of_gt h
    exact Or.inr (by rw [hba]; rfl)

/-- A violation without its message and its comment. -/
def outline (v : Violation) : Violation := { v with message := "", comment? := none }

/-- The message comes last in the order. -/
theorem mayPrecede_outline {a b : Violation} (h : a.mayPrecede b = true) : a.outline.mayPrecede b.outline = true := by
  have hmessage : compare a.outline.message b.outline.message = .eq := Std.ReflCmp.compare_self
  unfold mayPrecede order at h ⊢
  rw [hmessage, Ordering.then_eq]
  simp only [← Ordering.then_assoc] at h ⊢
  exact Ordering.isLE_left_of_isLE_then h

end Violation

namespace Report

/-- No two different violations of the list tie. -/
def Untied (vs : List Violation) : Prop := ∀ a ∈ vs, ∀ b ∈ vs, a.order b = .eq → a = b

theorem perm_ofViolations (vs : List Violation) (m e : Nat) : (ofViolations vs m e).violations.Perm vs :=
  List.mergeSort_perm vs _

theorem sorted_ofViolations (vs : List Violation) (m e : Nat) :
    (ofViolations vs m e).violations.Pairwise (·.mayPrecede ·) :=
  List.pairwise_mergeSort Violation.mayPrecede_trans Violation.mayPrecede_total vs

/-- The order in which the violations are found does not show in the report. -/
theorem ofViolations_congr {vs ws : List Violation} (h : vs.Perm ws) (hu : Untied vs) (m e : Nat) :
    ofViolations vs m e = ofViolations ws m e := by
  have hvs := perm_ofViolations vs m e
  have hws := perm_ofViolations ws m e
  have heq : (ofViolations vs m e).violations = (ofViolations ws m e).violations := by
    refine (hvs.trans (h.trans hws.symm)).eq_of_pairwise (fun a b ha hb hab hba => ?_)
      (sorted_ofViolations vs m e) (sorted_ofViolations ws m e)
    have ha' : a ∈ vs := hvs.mem_iff.mp ha
    have hb' : b ∈ vs := h.mem_iff.mpr (hws.mem_iff.mp hb)
    exact hu a ha' b hb' (Std.OrientedCmp.isLE_antisymm hab hba)
  exact (Report.mk.injEq ..).mpr ⟨heq, rfl, rfl⟩

/-- Without some of the violations, the others stay in their order. -/
theorem sublist_ofViolations {vs found others : List Violation} (h : vs.Perm (found ++ others)) (hu : Untied vs)
    (m e : Nat) : (ofViolations others m e).violations.Sublist (ofViolations vs m e).violations := by
  have hothers := perm_ofViolations others m e
  have hvs : vs.Perm (found ++ (ofViolations others m e).violations) := h.trans (hothers.symm.append_left found)
  -- what is sorted already keeps its order when it is sorted with the rest
  rw [ofViolations_congr hvs hu]
  exact List.sublist_mergeSort Violation.mayPrecede_trans Violation.mayPrecede_total
    (sorted_ofViolations others m e) (List.sublist_append_right found _)

/-- What a report says but for messages and comments does not depend on them. -/
theorem outlines_congr {vs ws : List Violation} (h : (vs.map Violation.outline).Perm (ws.map Violation.outline))
    (m e : Nat) :
    (ofViolations vs m e).violations.map Violation.outline = (ofViolations ws m e).violations.map Violation.outline := by
  have hsorted : ∀ l : List Violation,
      ((ofViolations l m e).violations.map Violation.outline).Pairwise (·.mayPrecede ·) := by
    intro l
    rw [List.pairwise_map]
    exact (sorted_ofViolations l m e).imp Violation.mayPrecede_outline
  have hperm : ((ofViolations vs m e).violations.map Violation.outline).Perm
      ((ofViolations ws m e).violations.map Violation.outline) :=
    ((perm_ofViolations vs m e).map _).trans (h.trans ((perm_ofViolations ws m e).map _).symm)
  refine hperm.eq_of_pairwise (fun a b ha hb hab hba => ?_) (hsorted vs) (hsorted ws)
  obtain ⟨x, -, rfl⟩ := List.mem_map.mp ha
  obtain ⟨y, -, rfl⟩ := List.mem_map.mp hb
  obtain ⟨hseverity, hsource, hrule, htarget, hmessage⟩ :=
    Violation.order_eq_iff.mp (Std.OrientedCmp.isLE_antisymm hab hba)
  exact (Violation.mk.injEq ..).mpr ⟨hrule, hseverity, hsource, htarget, hmessage, rfl⟩

/-- A report has errors if and only if one of its violations is an error. -/
theorem hasErrors_iff_exists {r : Report} : r.hasErrors = true ↔ ∃ v ∈ r.violations, v.severity = .error := by
  have hrank : ∀ t : Severity, t.atLeast .error = true ↔ t = .error := by
    intro t
    cases t <;> decide
  simp only [hasErrors, hasAtLeast, List.any_eq_true, hrank]

end Report

end ImportLint
