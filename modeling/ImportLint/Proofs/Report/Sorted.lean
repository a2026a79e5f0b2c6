import ImportLint.Proofs.Report.Order

/-!
# Sorted reports

What it means that the violations of a report stand in order. Severities come from the graver to the less grave, texts by
their code points and a missing target before any other (`Violation.Before`); violations that agree in all of this
(`Violation.sortKey`) stay in the order in which they were found. So a report starts with its errors, its warnings follow
and its infos come last, and its first violation tells how grave the gravest is. The main statement is
`Report.ofViolations_sorted`.
-/

namespace ImportLint

/-! ## Texts -/

/-- The code points of a text. -/
def codePoints (s : String) : List Nat := s.toList.map Char.toNat

/-- A text comes before another one: at the first place where their code points differ it has the lower one, or it ends
there. -/
def TextBefore (s t : String) : Prop := List.Lex (· < ·) (codePoints s) (codePoints t)

theorem lex_map_toNat_iff (cs ds : List Char) :
    List.Lex (· < ·) (cs.map Char.toNat) (ds.map Char.toNat) ↔ List.Lex (· < ·) cs ds := by
  induction cs generalizing ds with
  | nil => cases ds <;> simp
  | cons c cs ih =>
    cases ds with
    | nil => simp
    | cons d ds =>
      have hlt : c.toNat < d.toNat ↔ c < d := Iff.rfl
      have heq : c.toNat = d.toNat ↔ c = d := Char.toNat_inj
      rw [List.map_cons, List.map_cons, List.cons_lex_cons_iff, List.cons_lex_cons_iff, ih, hlt, heq]

/-- Texts are compared by their code points. -/
theorem compare_eq_lt_iff (s t : String) : compare s t = .lt ↔ TextBefore s t := by
  have hcompare : compare s t = compareOfLessAndEq s t := rfl
  rw [hcompare, compareOfLessAndEq_eq_lt, TextBefore, codePoints, codePoints, lex_map_toNat_iff, String.lt_iff]
  exact List.lex_lt.symm

/-- No target comes before any target. -/
inductive TargetBefore : Option String → Option String → Prop
  | none (t : String) : TargetBefore none (some t)
  | some {s t : String} (h : TextBefore s t) : TargetBefore (some s) (some t)

theorem compare_target_eq_lt_iff (s? t? : Option String) : compare s? t? = .lt ↔ TargetBefore s? t? := by
  cases s? with
  | none =>
    cases t? with
    | none => exact iff_of_false (by decide) nofun
    | some t => exact iff_of_true rfl (.none t)
  | some s =>
    cases t? with
    | none => exact iff_of_false (fun h => nomatch (h : Ordering.gt = .lt)) nofun
    | some t =>
      have hcompare : compare (some s) (some t) = compare s t := rfl
      rw [hcompare, compare_eq_lt_iff]
      exact ⟨.some, fun h => by cases h with | some h => exact h⟩

namespace Violation

/-! ## The order in words -/

/-- What the order looks at. -/
def sortKey (v : Violation) : Severity × String × String × Option String × String :=
  (v.severity, v.source, v.rule, v.target?, v.message)

/-- A violation comes before another one: it is graver, or they are equally grave and its source comes first, or they
share the source as well and its rule comes first, and so on with the target and the message. -/
inductive Before (a b : Violation) : Prop
  | severity (h : b.severity.rank < a.severity.rank)
  | source (hseverity : a.severity = b.severity) (h : TextBefore a.source b.source)
  | rule (hseverity : a.severity = b.severity) (hsource : a.source = b.source) (h : TextBefore a.rule b.rule)
  | target (hseverity : a.severity = b.severity) (hsource : a.source = b.source) (hrule : a.rule = b.rule)
    (h : TargetBefore a.target? b.target?)
  | message (hseverity : a.severity = b.severity) (hsource : a.source = b.source) (hrule : a.rule = b.rule)
    (htarget : a.target? = b.target?) (h : TextBefore a.message b.message)

variable {a b : Violation}

theorem order_eq_lt_iff : a.order b = .lt ↔ a.Before b := by
  have hseverity : compare b.severity.rank a.severity.rank = .eq ↔ a.severity = b.severity := by
    rw [Nat.compare_eq_eq]
    exact ⟨fun h => (Severity.rank_injective h).symm, fun h => by rw [h]⟩
  simp only [order, Ordering.then_eq_lt, Nat.compare_eq_lt, hseverity, compare_eq_lt_iff, compare_target_eq_lt_iff,
    Std.LawfulEqCmp.compare_eq_iff_eq]
  constructor
  · rintro (h | ⟨hs, h | ⟨hso, h | ⟨hr, h | ⟨ht, h⟩⟩⟩⟩)
    · exact .severity h
    · exact .source hs h
    · exact .rule hs hso h
    · exact .target hs hso hr h
    · exact .message hs hso hr ht h
  · rintro (h | ⟨hs, h⟩ | ⟨hs, hso, h⟩ | ⟨hs, hso, hr, h⟩ | ⟨hs, hso, hr, ht, h⟩)
    · exact Or.inl h
    · exact Or.inr ⟨hs, Or.inl h⟩
    · exact Or.inr ⟨hs, Or.inr ⟨hso, Or.inl h⟩⟩
    · exact Or.inr ⟨hs, Or.inr ⟨hso, Or.inr ⟨hr, Or.inl h⟩⟩⟩
    · exact Or.inr ⟨hs, Or.inr ⟨hso, Or.inr ⟨hr, Or.inr ⟨ht, h⟩⟩⟩⟩

theorem order_eq_eq_iff : a.order b = .eq ↔ a.sortKey = b.sortKey := by
  simp only [order_eq_iff, sortKey, Prod.mk.injEq]

/-- What may stand first comes before the other, or agrees with it. -/
theorem mayPrecede_iff : a.mayPrecede b = true ↔ a.Before b ∨ a.sortKey = b.sortKey := by
  rw [← order_eq_lt_iff, ← order_eq_eq_iff, mayPrecede]
  cases a.order b <;> simp

theorem rank_le_of_mayPrecede (h : a.mayPrecede b = true) : b.severity.rank ≤ a.severity.rank := by
  rcases mayPrecede_iff.mp h with hb | hk
  · cases hb with
    | severity h => exact Nat.le_of_lt h
    | source hs | rule hs | target hs | message hs => exact Nat.le_of_eq (by rw [hs])
  · exact Nat.le_of_eq (by rw [(Prod.mk.inj hk).1])

end Violation

/-! ## Blocks -/

/-- The violations of a severity, in order. -/
def ofSeverity (s : Severity) (vs : List Violation) : List Violation := vs.filter fun v => v.severity = s

theorem ofSeverity_cons (s : Severity) (v : Violation) (vs : List Violation) :
    ofSeverity s (v :: vs) = if v.severity = s then v :: ofSeverity s vs else ofSeverity s vs := by
  simp [ofSeverity, List.filter_cons]

theorem ofSeverity_eq_nil {s : Severity} {vs : List Violation} (h : ∀ v ∈ vs, v.severity.rank < s.rank) :
    ofSeverity s vs = [] := by
  refine List.filter_eq_nil_iff.mpr fun v hv hs => ?_
  have hlt := h v hv
  rw [of_decide_eq_true hs] at hlt
  exact Nat.lt_irrefl _ hlt

/-- Where severities only fall, the errors come first, the warnings next and the infos last. -/
theorem eq_blocks {vs : List Violation} (h : vs.Pairwise fun a b => b.severity.rank ≤ a.severity.rank) :
    vs = ofSeverity .error vs ++ ofSeverity .warning vs ++ ofSeverity .info vs := by
  induction h with
  | nil => rfl
  | @cons v vs hv _ ih =>
    cases hs : v.severity with
    | error => simpa [ofSeverity_cons, hs] using ih
    | warning =>
      have herror : ofSeverity .error vs = [] :=
        ofSeverity_eq_nil fun w hw => Nat.lt_of_le_of_lt (hv w hw) (by rw [hs]; decide)
      rw [herror] at ih
      simpa [ofSeverity_cons, hs, herror] using ih
    | info =>
      have hgraver : ∀ s, Severity.info.rank < s.rank → ofSeverity s vs = [] := fun s hlt =>
        ofSeverity_eq_nil fun w hw => Nat.lt_of_le_of_lt (hv w hw) (by rw [hs]; exact hlt)
      rw [hgraver .error (by decide), hgraver .warning (by decide)] at ih
      simpa [ofSeverity_cons, hs, hgraver .error (by decide), hgraver .warning (by decide)] using ih

namespace Report

variable (vs : List Violation) (m e : Nat)

/-- Violations that agree in what the order looks at stay in the order in which they were found. -/
theorem filter_sortKey (k : Severity × String × String × Option String × String) :
    (ofViolations vs m e).violations.filter (fun v => v.sortKey = k) = vs.filter fun v => v.sortKey = k := by
  have htied : (vs.filter fun v => v.sortKey = k).Pairwise (·.mayPrecede ·) := by
    refine List.pairwise_of_forall_mem_list fun a ha b hb => ?_
    have hka : a.sortKey = k := of_decide_eq_true (List.mem_filter.mp ha).2
    have hkb : b.sortKey = k := of_decide_eq_true (List.mem_filter.mp hb).2
    exact Violation.mayPrecede_iff.mpr (Or.inr (hka.trans hkb.symm))
  have hsub := (List.sublist_mergeSort Violation.mayPrecede_trans Violation.mayPrecede_total htied
    List.filter_sublist).filter fun v => v.sortKey = k
  rw [List.filter_filter] at hsub
  simp only [Bool.and_self] at hsub
  exact (hsub.eq_of_length ((perm_ofViolations vs m e).filter _).length_eq.symm).symm

theorem count_eq_length (r : Report) (s : Severity) : r.count s = (ofSeverity s r.violations).length := by
  rw [count, ofSeverity, List.countP_eq_length_filter]
  rfl

/-- The first violation of a sorted report is as grave as any. -/
theorem hasAtLeast_iff_head {r : Report} (h : r.violations.Pairwise fun a b => b.severity.rank ≤ a.severity.rank)
    (s : Severity) : r.hasAtLeast s = true ↔ ∃ v ∈ r.violations.head?, s.rank ≤ v.severity.rank := by
  have hany : r.hasAtLeast s = true ↔ ∃ v ∈ r.violations, s.rank ≤ v.severity.rank := by
    simp only [hasAtLeast, List.any_eq_true, Severity.atLeast, decide_eq_true_eq]
  rw [hany]
  cases hvs : r.violations with
  | nil => simp
  | cons v vs =>
    rw [hvs, List.pairwise_cons] at h
    constructor
    · rintro ⟨w, hw, hle⟩
      rcases List.mem_cons.mp hw with rfl | hw
      · exact ⟨w, rfl, hle⟩
      · exact ⟨v, rfl, Nat.le_trans hle (h.1 w hw)⟩
    · rintro ⟨w, hw, hle⟩
      cases hw
      exact ⟨v, List.mem_cons_self, hle⟩

/-- A report has the violations that were found, sorted by severity, source, rule, target and message; those that agree
in all five are in the order in which they were found. So its errors come first, its warnings next and its infos last, as
many of each as it counts, and whether some violation is as grave as asked shows at the first one. -/
theorem ofViolations_sorted :
    (ofViolations vs m e).violations.Perm vs ∧
    (ofViolations vs m e).violations.Pairwise (fun a b => a.Before b ∨ a.sortKey = b.sortKey) ∧
    (∀ k, (ofViolations vs m e).violations.filter (fun v => v.sortKey = k) = vs.filter fun v => v.sortKey = k) ∧
    (∃ errors warnings infos, (ofViolations vs m e).violations = errors ++ warnings ++ infos ∧
      (∀ v ∈ errors, v.severity = .error) ∧ (∀ v ∈ warnings, v.severity = .warning) ∧
      (∀ v ∈ infos, v.severity = .info) ∧
      errors.length = (ofViolations vs m e).count .error ∧
      warnings.length = (ofViolations vs m e).count .warning ∧
      infos.length = (ofViolations vs m e).count .info) ∧
    ∀ s : Severity, (ofViolations vs m e).hasAtLeast s = true ↔
      ∃ v ∈ (ofViolations vs m e).violations.head?, s.rank ≤ v.severity.rank := by
  have hsorted := sorted_ofViolations vs m e
  have hranks := hsorted.imp Violation.rank_le_of_mayPrecede
  have hseverity : ∀ s, ∀ v ∈ ofSeverity s (ofViolations vs m e).violations, v.severity = s :=
    fun s v hv => of_decide_eq_true (List.mem_filter.mp hv).2
  refine ⟨perm_ofViolations vs m e, hsorted.imp Violation.mayPrecede_iff.mp, filter_sortKey vs m e, ?_,
    hasAtLeast_iff_head hranks⟩
  exact ⟨_, _, _, eq_blocks hranks, hseverity _, hseverity _, hseverity _, (count_eq_length _ _).symm,
    (count_eq_length _ _).symm, (count_eq_length _ _).symm⟩

end Report

end ImportLint
