import ImportLint.Proofs.Check.Content
import ImportLint.Proofs.Check.ElementOrder

/-!
# Tightened policies

A policy is tightened when a relation disallows more, when one that allows is gone, when nothing is allowed by default any
more, or when dependencies on unclassified or on ignored modules are reported as well (`Policy.Tightens`). However often
this is done, the policy becomes only stricter (`Policy.AtLeastAsStrict`), and a stricter policy still says what the
former one said of an edge (`Policy.AtLeastAsStrict.judgement`). So no violation is lost, and those of the former report
stand in the new one in the same order (`RuleSet.check_tightened`).
-/

namespace ImportLint

/-- What finds at every item what was found before finds all of it in a list, in the same order. -/
theorem filterMap_sublist_filterMap {α β : Type} {f f' : α → Option β} (h : ∀ x y, f x = some y → f' x = some y)
    (l : List α) : (l.filterMap f).Sublist (l.filterMap f') := by
  have hfound : l.filterMap f = (l.filter fun x => (f x).isSome).filterMap f' := by
    rw [List.filterMap_filter]
    refine List.filterMap_congr fun x _ => ?_
    cases hx : f x with
    | none => simp
    | some y => simp [h x y hx]
  rw [hfound]
  exact List.filter_sublist.filterMap f'

section

variable [PatternLanguage]

namespace Policy

/-! ## Changes -/

/-- One change that tightens a policy over the elements with these patterns. -/
inductive Tightens (elements : List ElementPattern) : Policy → Policy → Prop
  /-- A relation between declared elements that disallows is added anywhere. -/
  | disallow (p : Policy) (before behind : List Relation) (r : Relation) (hp : p.disallow = before ++ behind)
    (hr : ∀ n ∈ r.names, ∃ e ∈ elements, e.element = n) :
    Tightens elements p { p with disallow := before ++ r :: behind }
  /-- A relation that allows is removed. -/
  | withdraw (p : Policy) (before behind : List Relation) (r : Relation) (hp : p.allow = before ++ r :: behind) :
    Tightens elements p { p with allow := before ++ behind }
  /-- What no relation covers is not allowed any more. -/
  | byDefault (p : Policy) : Tightens elements p { p with allowByDefault := false }
  | noUnknown (p : Policy) : Tightens elements p { p with noUnknown := true }
  | noIgnored (p : Policy) : Tightens elements p { p with noIgnored := true }

/-- The policy `p'` forbids and reports all that the policy `p` does, of the same modules and with the same severity. -/
structure AtLeastAsStrict (p p' : Policy) : Prop where
  ignore : p'.ignore = p.ignore
  severity : p'.severity = p.severity
  noUnknown : p.noUnknown = true → p'.noUnknown = true
  noIgnored : p.noIgnored = true → p'.noIgnored = true
  forbids : ∀ x y, p.Forbids x y → p'.Forbids x y

namespace AtLeastAsStrict

theorem refl (p : Policy) : p.AtLeastAsStrict p := ⟨rfl, rfl, id, id, fun _ _ => id⟩

theorem trans {p q r : Policy} (h : p.AtLeastAsStrict q) (h' : q.AtLeastAsStrict r) : p.AtLeastAsStrict r where
  ignore := h'.ignore.trans h.ignore
  severity := h'.severity.trans h.severity
  noUnknown := h'.noUnknown ∘ h.noUnknown
  noIgnored := h'.noIgnored ∘ h.noIgnored
  forbids x y := h'.forbids x y ∘ h.forbids x y

end AtLeastAsStrict

variable {elements : List ElementPattern} {p p' : Policy}

theorem Tightens.atLeastAsStrict (h : Tightens elements p p') : p.AtLeastAsStrict p' := by
  cases h with
  | noUnknown => exact { AtLeastAsStrict.refl p with noUnknown := fun _ => rfl }
  | noIgnored => exact { AtLeastAsStrict.refl p with noIgnored := fun _ => rfl }
  | byDefault =>
    refine { AtLeastAsStrict.refl p with forbids := fun x y hf => ?_ }
    exact hf.imp id fun ⟨hd, ha, _⟩ => ⟨hd, ha, rfl⟩
  | withdraw before behind r hp =>
    refine { AtLeastAsStrict.refl p with forbids := fun x y hf => ?_ }
    refine hf.imp id fun ⟨hd, ha, hdefault⟩ => ⟨hd, fun q hq => ha q ?_, hdefault⟩
    rw [hp]
    exact List.perm_middle.mem_iff.mpr (List.mem_cons_of_mem r hq)
  | disallow before behind r hp hr =>
    refine { AtLeastAsStrict.refl p with forbids := fun x y hf => ?_ }
    rcases hf with ⟨q, hq, hc⟩ | ⟨hd, ha, hdefault⟩
    · rw [hp] at hq
      exact Or.inl ⟨q, List.perm_middle.mem_iff.mpr (List.mem_cons_of_mem r hq), hc⟩
    · -- either the new relation covers the elements, or none does
      by_cases hc : r.Covers x y
      · exact Or.inl ⟨r, List.mem_append_right _ List.mem_cons_self, hc⟩
      · refine Or.inr ⟨fun q hq => ?_, ha, hdefault⟩
        rcases List.mem_cons.mp (List.perm_middle.mem_iff.mp hq) with rfl | hq
        · exact hc
        · exact hd q (hp ▸ hq)

/-- A relation of a tightened policy was there before or is between declared elements. -/
theorem Tightens.of_mem_relations (h : Tightens elements p p') {r : Relation} (hr : r ∈ p'.relations) :
    r ∈ p.relations ∨ ∀ n ∈ r.names, ∃ e ∈ elements, e.element = n := by
  cases h with
  | noUnknown | noIgnored | byDefault => exact Or.inl hr
  | withdraw before behind q hp =>
    refine Or.inl ?_
    rw [relations, hp]
    exact (List.perm_middle.append_right _).mem_iff.mpr (List.mem_cons_of_mem q hr)
  | disallow before behind q hp hq =>
    rcases List.mem_append.mp hr with hr | hr
    · exact Or.inl (List.mem_append_left _ hr)
    · rcases List.mem_cons.mp (List.perm_middle.mem_iff.mp hr) with rfl | hr
      · exact Or.inr hq
      · exact Or.inl (List.mem_append_right _ (hp ▸ hr))

theorem Tightens.declared (h : Tightens elements p p') (hd : RuleSet.Declared elements (some p)) :
    RuleSet.Declared elements (some p') := by
  intro q hq r hr
  cases hq
  exact (h.of_mem_relations hr).elim (hd p rfl r) id

/-- A policy that is tightened any number of times names declared elements only and is at least as strict as before. -/
theorem declared_and_atLeastAsStrict (h : Relation.ReflTransGen (Tightens elements) p p')
    (hd : RuleSet.Declared elements (some p)) : RuleSet.Declared elements (some p') ∧ p.AtLeastAsStrict p' := by
  induction h with
  | refl => exact ⟨hd, .refl p⟩
  | tail _ hstep ih => exact ⟨hstep.declared ih.1, ih.2.trans hstep.atLeastAsStrict⟩

/-! ## What stricter policies find -/

namespace AtLeastAsStrict

variable (h : p.AtLeastAsStrict p')

include h

theorem ignores_iff (id : String) : p'.Ignores id ↔ p.Ignores id := by
  rw [Ignores, Ignores, h.ignore]

/-- What a policy reports of a dependency a stricter one reports as well. -/
theorem judgement {a b : String} {v : Violation} (hv : p.Judgement elements a b (some v)) :
    p'.Judgement elements a b (some v) := by
  have hignores := h.ignores_iff
  cases hv with
  | noIgnored ha hb hn =>
    rw [← h.severity]
    exact .noIgnored (mt (hignores a).mp ha) ((hignores b).mpr hb) (h.noIgnored hn)
  | noUnknown ha hb hu hn =>
    rw [← h.severity]
    exact .noUnknown (mt (hignores a).mp ha) (mt (hignores b).mp hb) hu (h.noUnknown hn)
  | elementTypes ha hb hy hx hne hf =>
    rw [← h.severity]
    exact .elementTypes (mt (hignores a).mp ha) (mt (hignores b).mp hb) hy hx hne (h.forbids _ _ hf)

theorem verdict (e : Edge) (v : Violation) (hv : p.verdict elements e = some v) : p'.verdict elements e = some v := by
  obtain ⟨b, ht, hj⟩ := judgement_of_verdict hv
  have hi : e.isInternal = true := by
    by_contra hn
    rw [verdict_of_not_internal (Bool.eq_false_iff.mpr hn)] at hv
    cases hv
  exact (verdict_eq_iff hi ht).mpr (h.judgement hj)

/-- What a policy finds in a graph a stricter one finds as well, in the same order. -/
theorem check_sublist (elements : List ElementPattern) (g : Graph) :
    (p.check elements g).Sublist (p'.check elements g) := by
  rw [p.check_eq, p'.check_eq]
  exact filterMap_sublist_filterMap h.verdict _

end AtLeastAsStrict

end Policy

namespace RuleSet

variable {s s' : RuleSet} {g : Graph}

/-- What is found in a graph as before stands in the report as before. -/
theorem report_sublist (h : (s.violations g (Facts.ofGraph g)).Sublist (s'.violations g (Facts.ofGraph g))) :
    (s.check g).violations.Sublist (s'.check g).violations := by
  obtain ⟨more, hmore⟩ := h.exists_perm_append
  exact Report.sublist_ofViolations (hmore.trans List.perm_append_comm) (s'.violations_untied g _) _ _

/-- Tightening a policy hides no violation. However often the policy of a rule set is tightened, it makes a rule set with
the same elements and rules, and on every graph the violations of the former report are in the new one, each as often as
before and in the same order. -/
theorem check_tightened (s : RuleSet) {p p' : Policy} (hp : s.policy? = some p)
    (h : Relation.ReflTransGen (Policy.Tightens s.elements) p p') :
    ∃ s', ofParts s.elements s.rules (some p') s.parallel = .ok s' ∧
      ∀ g : Graph, (s.check g).violations.Sublist (s'.check g).violations := by
  obtain ⟨hdeclared, hstrict⟩ := Policy.declared_and_atLeastAsStrict h (hp ▸ s.declared)
  have hsound : problems s.elements s.rules (some p') = [] := problems_eq_nil_iff.mpr ⟨s.names_nodup, hdeclared⟩
  obtain ⟨s', hs', helements, hrules, hpolicy⟩ := exists_ofParts hsound s.parallel
  refine ⟨s', hs', fun g => report_sublist ?_⟩
  rw [violations, violations, hrules, hpolicy, helements, hp, Option.toList_some, Option.toList_some,
    List.flatMap_singleton, List.flatMap_singleton]
  exact (hstrict.check_sublist s.elements g).append_left _

end RuleSet

end

namespace RuleSet

theorem check_pagesAboveCommon_tightened :
    ∃ p r, pagesAboveCommon.policy? = some p ∧ p.allow = [r] ∧
      Relation.ReflTransGen (Policy.Tightens pagesAboveCommon.elements) p
        { p with allow := [], disallow := [r], noIgnored := true } ∧
      ∃ s', ofParts pagesAboveCommon.elements pagesAboveCommon.rules
          (some { p with allow := [], disallow := [r], noIgnored := true }) pagesAboveCommon.parallel = .ok s' ∧
        ∀ g : Graph, (pagesAboveCommon.check g).violations.Sublist (s'.check g).violations := by
  -- the only relation is withdrawn and then disallowed
  have hsteps : ∀ (p : Policy) (r : Relation), p.allow = [r] → p.disallow = [] →
      (∀ n ∈ r.names, ∃ e ∈ pagesAboveCommon.elements, e.element = n) →
      Relation.ReflTransGen (Policy.Tightens pagesAboveCommon.elements) p
        { p with allow := [], disallow := [r], noIgnored := true } := by
    intro p r ha hd hr
    have hwithdrawn : Policy.Tightens pagesAboveCommon.elements p { p with allow := [] } := .withdraw p [] [] r ha
    have hdisallowed : Policy.Tightens pagesAboveCommon.elements { p with allow := [] }
        { p with allow := [], disallow := [r] } := .disallow { p with allow := [] } [] [] r hd hr
    exact ((Relation.ReflTransGen.single hwithdrawn).tail hdisallowed).tail (.noIgnored _)
  refine ⟨_, _, rfl, rfl, ?steps, pagesAboveCommon.check_tightened rfl ?steps⟩
  exact hsteps _ _ rfl rfl (by decide)

end RuleSet

end ImportLint
