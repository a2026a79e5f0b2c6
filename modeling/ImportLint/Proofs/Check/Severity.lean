import ImportLint.Proofs.Check.Content

/-!
# Severities in reports

The severity of a rule shows in every violation that the rule finds, and nowhere else (`Rule.check_regraded`); so does the
severity of a policy (`Policy.check_regraded`). A rule set without one of its rules, or without its policy, reports the
same but for what that rule or policy finds (`Report.Without`). With another severity it reports the same violations, with
the new severity where that rule or policy finds them, in the order this asks for (`Report.Regraded`).
-/

namespace ImportLint

/-! ## Other severities -/

def Violation.regraded (t : Severity) (v : Violation) : Violation := { v with severity := t }

variable [PatternLanguage]

def Rule.regraded (t : Severity) (r : Rule) : Rule := { r with severity := t }

def Policy.regraded (t : Severity) (p : Policy) : Policy := { p with severity := t }

variable {g : Graph} {t : Severity}

theorem Rule.check_regraded (t : Severity) (r : Rule) (g : Graph) (facts : Facts) :
    (r.regraded t).check g facts = (r.check g facts).map (Violation.regraded t) := by
  have hmodule : ∀ orphan id, (r.regraded t).checkModule orphan facts.ends id =
      (r.checkModule orphan facts.ends id).map (Violation.regraded t) := by
    intro orphan id
    simp only [checkModule, regraded]
    split_ifs <;> rfl
  have hedge : ∀ target e, (r.regraded t).checkEdge target e =
      (r.checkEdge target e).map (Violation.regraded t) := by
    intro target e
    have hbreaches : (r.regraded t).breaches target e.1 e.2 = r.breaches target e.1 e.2 := rfl
    simp only [checkEdge, hbreaches]
    split_ifs <;> rfl
  have hscope : (r.regraded t).scope = r.scope := rfl
  rw [check, check, hscope]
  cases r.scope with
  | modules orphan => simp only [hmodule, List.map_filterMap]
  | edges target => simp only [hedge, List.map_filterMap]

namespace Policy

variable {p : Policy} {elements : List ElementPattern} {a b : String} {v? : Option Violation}

/-- No clause asks for the severity of the policy. -/
theorem Judgement.regraded (h : p.Judgement elements a b v?) (t : Severity) :
    (p.regraded t).Judgement elements a b (v?.map (Violation.regraded t)) := by
  cases h with
  | sourceIgnored ha => exact .sourceIgnored ha
  | targetIgnored ha hb hn => exact .targetIgnored ha hb hn
  | noIgnored ha hb hn => exact .noIgnored ha hb hn
  | targetUnknown ha hb hu hn => exact .targetUnknown ha hb hu hn
  | noUnknown ha hb hu hn => exact .noUnknown ha hb hu hn
  | sourceUnknown ha hb hy hu => exact .sourceUnknown ha hb hy hu
  | sameElement ha hb hy hx => exact .sameElement ha hb hy hx
  | permitted ha hb hy hx hne hf => exact .permitted ha hb hy hx hne hf
  | elementTypes ha hb hy hx hne hf => exact .elementTypes ha hb hy hx hne hf

theorem check_regraded (t : Severity) (p : Policy) (elements : List ElementPattern) (g : Graph) :
    (p.regraded t).check elements g = (p.check elements g).map (Violation.regraded t) := by
  rw [check, check, List.map_flatMap]
  refine List.flatMap_congr fun e _ => ?_
  unfold checkEdge
  split
  · next target _ _ =>
    obtain ⟨v?, hv⟩ := p.exists_judgement elements e.source target
    rw [hv.checkDependency_eq, (hv.regraded t).checkDependency_eq, Option.toList_map]
  · rfl

end Policy

/-! ## Reports -/

namespace Report

/-- The report `r'` is the report `r` without some violations; the others are the same, in the same order. -/
structure Without (found : List Violation) (r r' : Report) : Prop where
  violations : r.violations.Perm (found ++ r'.violations)
  sublist : r'.violations.Sublist r.violations
  modulesChecked : r'.modulesChecked = r.modulesChecked
  edgesChecked : r'.edgesChecked = r.edgesChecked

/-- The report `r'` is the report `r` with another severity of some violations, in the order this asks for. -/
def Regraded (found : List Violation) (t : Severity) (r r' : Report) : Prop :=
  ∃ others, r.violations.Perm (found ++ others) ∧
    r' = ofViolations (found.map (Violation.regraded t) ++ others) r.modulesChecked r.edgesChecked

end Report

/-! ## Rule sets -/

namespace RuleSet

variable {s s' : RuleSet} {found others : List Violation}

theorem without_of_perm
    (h : (s.violations g (Facts.ofGraph g)).Perm (found ++ s'.violations g (Facts.ofGraph g))) :
    Report.Without found (s.check g) (s'.check g) where
  violations :=
    (Report.perm_ofViolations _ _ _).trans (h.trans ((Report.perm_ofViolations _ _ _).symm.append_left found))
  sublist := Report.sublist_ofViolations h (s.violations_untied g _) _ _
  modulesChecked := rfl
  edgesChecked := rfl

theorem regraded_of_perm (h : (s.violations g (Facts.ofGraph g)).Perm (found ++ others))
    (h' : (s'.violations g (Facts.ofGraph g)).Perm (found.map (Violation.regraded t) ++ others)) :
    Report.Regraded found t (s.check g) (s'.check g) :=
  ⟨others, (Report.perm_ofViolations _ _ _).trans h, s'.check_eq_of_perm h'.symm⟩

/-! ### One rule -/

variable {rs₁ rs₂ : List Rule} {r : Rule}

theorem violations_rule (hs : s.rules = rs₁ ++ [r] ++ rs₂) (g : Graph) :
    (s.violations g (Facts.ofGraph g)).Perm
      (r.check g (Facts.ofGraph g) ++
        ((rs₁ ++ rs₂).flatMap (fun r => r.check g (Facts.ofGraph g)) ++
          s.policy?.toList.flatMap fun p => p.check s.elements g)) := by
  rw [violations, hs, List.flatMap_append, List.flatMap_append, List.flatMap_singleton, List.flatMap_append,
    ← List.append_assoc, ← List.append_assoc]
  exact (List.perm_append_comm.append_right _).append_right _

theorem without_rule (he : s'.elements = s.elements) (hp : s'.policy? = s.policy?)
    (hs : s.rules = rs₁ ++ [r] ++ rs₂) (hs' : s'.rules = rs₁ ++ rs₂) (g : Graph) :
    Report.Without (r.check g (Facts.ofGraph g)) (s.check g) (s'.check g) := by
  have hrest : s'.violations g (Facts.ofGraph g) = (rs₁ ++ rs₂).flatMap (fun r => r.check g (Facts.ofGraph g)) ++
      s.policy?.toList.flatMap fun p => p.check s.elements g := by
    rw [violations, hs', hp, he]
  exact without_of_perm (hrest ▸ violations_rule hs g)

theorem regraded_rule (he : s'.elements = s.elements) (hp : s'.policy? = s.policy?)
    (hs : s.rules = rs₁ ++ [r] ++ rs₂) (hs' : s'.rules = rs₁ ++ [r.regraded t] ++ rs₂) (g : Graph) :
    Report.Regraded (r.check g (Facts.ofGraph g)) t (s.check g) (s'.check g) := by
  have h' := violations_rule hs' g
  rw [he, hp, Rule.check_regraded] at h'
  exact regraded_of_perm (violations_rule hs g) h'

/-! ### The policy -/

variable {p : Policy}

theorem violations_policy (hp : s.policy? = some p) (g : Graph) :
    (s.violations g (Facts.ofGraph g)).Perm
      (p.check s.elements g ++ s.rules.flatMap fun r => r.check g (Facts.ofGraph g)) := by
  rw [violations, hp, Option.toList_some, List.flatMap_singleton]
  exact List.perm_append_comm

theorem without_policy (hr : s'.rules = s.rules) (hp : s.policy? = some p) (hp' : s'.policy? = none) (g : Graph) :
    Report.Without (p.check s.elements g) (s.check g) (s'.check g) := by
  have hrest : s'.violations g (Facts.ofGraph g) = s.rules.flatMap fun r => r.check g (Facts.ofGraph g) := by
    rw [violations, hr, hp', Option.toList_none, List.flatMap_nil, List.append_nil]
  exact without_of_perm (hrest ▸ violations_policy hp g)

theorem regraded_policy (he : s'.elements = s.elements) (hr : s'.rules = s.rules) (hp : s.policy? = some p)
    (hp' : s'.policy? = some (p.regraded t)) (g : Graph) :
    Report.Regraded (p.check s.elements g) t (s.check g) (s'.check g) := by
  have h' := violations_policy hp' g
  rw [he, hr, Policy.check_regraded] at h'
  exact regraded_of_perm (violations_policy hp g) h'

end RuleSet

/-! ## Where severities come from -/

theorem Rule.severity_of_mem {r : Rule} {facts : Facts} {v : Violation} (hv : v ∈ r.check g facts) :
    v.severity = r.severity := by
  have hself : (r.check g facts).map (Violation.regraded r.severity) = r.check g facts :=
    (r.check_regraded r.severity g facts).symm
  obtain ⟨w, -, rfl⟩ := List.mem_map.mp (hself.symm ▸ hv)
  rfl

theorem Policy.severity_of_mem {p : Policy} {elements : List ElementPattern} {v : Violation}
    (hv : v ∈ p.check elements g) : v.severity = p.severity := by
  have hself : (p.check elements g).map (Violation.regraded p.severity) = p.check elements g :=
    (p.check_regraded p.severity elements g).symm
  obtain ⟨w, -, rfl⟩ := List.mem_map.mp (hself.symm ▸ hv)
  rfl

/-- Every violation in a report has the severity of a rule or of the policy. -/
theorem RuleSet.severity_of_mem {s : RuleSet} {v : Violation} (hv : v ∈ (s.check g).violations) :
    (∃ r ∈ s.rules, v.severity = r.severity) ∨ ∃ p ∈ s.policy?, v.severity = p.severity := by
  obtain ⟨r, hr, hv⟩ | ⟨p, hp, hv⟩ := s.mem_check.mp hv
  · exact Or.inl ⟨r, hr, Rule.severity_of_mem hv⟩
  · exact Or.inr ⟨p, hp, Policy.severity_of_mem hv⟩

/-- Rules and a policy that are no errors make a report without errors. -/
theorem RuleSet.hasErrors_eq_false {s : RuleSet} (hr : ∀ r ∈ s.rules, r.severity ≠ .error)
    (hp : ∀ p ∈ s.policy?, p.severity ≠ .error) : (s.check g).hasErrors = false := by
  rw [Bool.eq_false_iff, Ne, Report.hasErrors_iff_exists]
  rintro ⟨v, hv, herror⟩
  rcases RuleSet.severity_of_mem hv with ⟨r, hmem, hs⟩ | ⟨p, hmem, hs⟩
  · exact hr r hmem (hs.symm.trans herror)
  · exact hp p hmem (hs.symm.trans herror)

end ImportLint
