import ImportLint.Proofs.Check.Split

/-!
# Renamed elements

The names of elements tell them apart and show in messages, and nothing else depends on them. If all elements of a rule set
are renamed by an injective map, modules have the renamed elements (`classify_renamed`), relations cover the renamed
dependencies (`Policy.permits_renamed`) and the policy finds the same with other messages (`Policy.check_renamed`). So the
parts make a rule set if and only if they did before, and then the reports agree line by line but for messages and comments
(`RuleSet.report_renamed`).
-/

namespace ImportLint

/-! ## Renaming -/

def Relation.renamed (σ : ElementName → ElementName) (r : Relation) : Relation :=
  { source := σ r.source, targets := r.targets.map σ }

theorem Relation.covers_renamed {σ : ElementName → ElementName} (hσ : Function.Injective σ) (r : Relation)
    (a b : ElementName) : (r.renamed σ).covers (σ a) (σ b) = r.covers a b := by
  have hsource : (σ r.source == σ a) = (r.source == a) := by
    rw [Bool.eq_iff_iff, beq_iff_eq, beq_iff_eq, hσ.eq_iff]
  have htargets : (r.targets.map σ).contains (σ b) = r.targets.contains b := by
    rw [Bool.eq_iff_iff, List.contains_iff_mem, List.contains_iff_mem, List.mem_map_of_injective hσ]
  rw [covers, covers, ← hsource, ← htargets]
  rfl

section

variable [PatternLanguage]

section

variable (σ : ElementName → ElementName)

def ElementPattern.renamed (p : ElementPattern) : ElementPattern := { p with element := σ p.element }

def Policy.renamed (p : Policy) : Policy :=
  { p with allow := p.allow.map (Relation.renamed σ), disallow := p.disallow.map (Relation.renamed σ) }

/-- What a policy finds, with a new message if it is about the elements of its ends: that names the renamed elements. -/
def Violation.renamed (elements : List ElementPattern) (v : Violation) : Violation :=
  if v.rule = "boundaries/element-types" then
    match classify elements v.source, v.target?.bind (classify elements) with
    | some a, some b =>
      { v with message := "elements of type '" ++ (σ a).text ++ "' must not depend on '" ++ (σ b).text ++ "'" }
    | _, _ => v
  else v

end

variable {σ : ElementName → ElementName}

theorem classify_renamed (elements : List ElementPattern) (id : String) :
    classify (elements.map (ElementPattern.renamed σ)) id = (classify elements id).map σ := by
  rw [classify, List.find?_map, classify, Option.map_map, Option.map_map]
  rfl

namespace Policy

variable (p : Policy)

theorem permits_renamed (hσ : Function.Injective σ) (a b : ElementName) :
    (p.renamed σ).permits (σ a) (σ b) = p.permits a b := by
  have hany : ∀ rs : List Relation,
      (rs.map (Relation.renamed σ)).any (·.covers (σ a) (σ b)) = rs.any (·.covers a b) := by
    intro rs
    rw [List.any_map]
    congr 1
    funext r
    exact r.covers_renamed hσ a b
  simp only [permits, hσ.eq_iff]
  show (if a = b then true
    else if (p.disallow.map (Relation.renamed σ)).any (·.covers (σ a) (σ b)) then false
    else if (p.allow.map (Relation.renamed σ)).any (·.covers (σ a) (σ b)) then true
    else p.allowByDefault) = _
  rw [hany, hany]

variable {elements : List ElementPattern} {source target : String}

theorem checkUnknown_renamed (b? : Option ElementName) :
    (p.renamed σ).checkUnknown source target (b?.map σ) =
      (p.checkUnknown source target b?).map (Violation.renamed σ elements) := by
  cases b? with
  | some b => simp [checkUnknown]
  | none =>
    by_cases hn : p.noUnknown = true
    · simp [checkUnknown, renamed, hn, violation, Violation.renamed]
    · simp [checkUnknown, renamed, hn]

theorem checkElements_renamed (hσ : Function.Injective σ) :
    (p.renamed σ).checkElements source target ((classify elements source).map σ) ((classify elements target).map σ) =
      (p.checkElements source target (classify elements source) (classify elements target)).map
        (Violation.renamed σ elements) := by
  cases ha : classify elements source with
  | none => simp [checkElements]
  | some a =>
    cases hb : classify elements target with
    | none => simp [checkElements]
    | some b =>
      simp only [checkElements, Option.map_some, p.permits_renamed hσ]
      split_ifs
      · rfl
      · simp [violation, renamed, Violation.renamed, ha, hb]

/-- The policy with renamed elements says the same about a dependency, in other words. -/
theorem checkDependency_renamed (hσ : Function.Injective σ) :
    (p.renamed σ).checkDependency (elements.map (ElementPattern.renamed σ)) source target =
      (p.checkDependency elements source target).map (Violation.renamed σ elements) := by
  have hignored : (p.renamed σ).isIgnored = p.isIgnored := rfl
  have hnoIgnored : (p.renamed σ).noIgnored = p.noIgnored := rfl
  simp only [checkDependency, hignored, hnoIgnored, classify_renamed]
  split_ifs
  · rfl
  · simp [violation, renamed, Violation.renamed]
  · rfl
  · rw [List.map_append, ← p.checkUnknown_renamed, ← p.checkElements_renamed hσ]

theorem check_renamed (hσ : Function.Injective σ) (g : Graph) :
    (p.renamed σ).check (elements.map (ElementPattern.renamed σ)) g =
      (p.check elements g).map (Violation.renamed σ elements) := by
  rw [check, check, List.map_flatMap]
  refine List.flatMap_congr fun e _ => ?_
  unfold checkEdge
  split
  · exact p.checkDependency_renamed hσ
  · rfl

end Policy

/-- New names show in nothing but messages. -/
theorem Violation.outline_renamed (elements : List ElementPattern) (v : Violation) :
    (v.renamed σ elements).outline = v.outline := by
  unfold Violation.renamed
  split_ifs
  · split <;> rfl
  · rfl

/-! ## Rule sets -/

namespace RuleSet

/-- The renamed parts make a rule set if and only if the parts do. -/
theorem problems_renamed (hσ : Function.Injective σ) (elements : List ElementPattern) (rules : List Rule)
    (policy? : Option Policy) :
    problems (elements.map (ElementPattern.renamed σ)) rules (policy?.map (Policy.renamed σ)) = [] ↔
      problems elements rules policy? = [] := by
  have hname : ∀ n : ElementName, (∃ e ∈ elements.map (ElementPattern.renamed σ), e.element = σ n) ↔
      ∃ e ∈ elements, e.element = n := by
    intro n
    simp only [List.mem_map, exists_exists_and_eq_and, ElementPattern.renamed, hσ.eq_iff]
  have hrelation : ∀ r : Relation,
      (∀ n ∈ (r.renamed σ).names, ∃ e ∈ elements.map (ElementPattern.renamed σ), e.element = n) ↔
        ∀ n ∈ r.names, ∃ e ∈ elements, e.element = n := by
    intro r
    have hnames : (r.renamed σ).names = r.names.map σ := rfl
    simp only [hnames, List.forall_mem_map, hname]
  have hdeclared : Declared (elements.map (ElementPattern.renamed σ)) (policy?.map (Policy.renamed σ)) ↔
      Declared elements policy? := by
    cases policy? with
    | none => simp [Declared]
    | some p =>
      have hrelations : (p.renamed σ).relations = p.relations.map (Relation.renamed σ) := by
        simp [Policy.relations, Policy.renamed]
      simp only [Declared, Option.map_some, Option.mem_some_iff, forall_eq', hrelations, List.forall_mem_map, hrelation]
  rw [problems_eq_nil_iff, problems_eq_nil_iff, hdeclared]

section

variable {s t : RuleSet}

/-- With renamed elements the rules find the same, and the policy finds the same in other words. -/
theorem violations_renamed (hσ : Function.Injective σ)
    (helements : t.elements = s.elements.map (ElementPattern.renamed σ)) (hrules : t.rules = s.rules)
    (hpolicy : t.policy? = s.policy?.map (Policy.renamed σ)) (g : Graph) (facts : Facts) :
    t.violations g facts =
      s.rules.flatMap (fun r => r.check g facts) ++
        (s.policy?.toList.flatMap fun p => p.check s.elements g).map (Violation.renamed σ s.elements) := by
  have hchecks : ∀ p : Policy, (p.renamed σ).check (s.elements.map (ElementPattern.renamed σ)) g =
      (p.check s.elements g).map (Violation.renamed σ s.elements) := by
    intro p
    exact p.check_renamed hσ g
  rw [violations, helements, hrules, hpolicy, Option.toList_map, List.flatMap_map, List.map_flatMap, funext hchecks]

theorem outlines_renamed (hσ : Function.Injective σ)
    (helements : t.elements = s.elements.map (ElementPattern.renamed σ)) (hrules : t.rules = s.rules)
    (hpolicy : t.policy? = s.policy?.map (Policy.renamed σ)) (g : Graph) (facts : Facts) :
    (t.violations g facts).map Violation.outline = (s.violations g facts).map Violation.outline := by
  have hcomp : Violation.outline ∘ Violation.renamed σ s.elements = Violation.outline :=
    funext (Violation.outline_renamed s.elements)
  rw [violations_renamed hσ helements hrules hpolicy, List.map_append, List.map_map, hcomp, ← List.map_append]
  rfl

end

/-- If all elements of some parts are renamed by an injective map, the parts make a rule set if and only if they did
before. Then the reports on any graph agree line by line in everything but messages and comments, and have the same
violations: those of the rules as they are, those of the policy with the new names in their messages. -/
theorem report_renamed (hσ : Function.Injective σ) (elements : List ElementPattern) (rules : List Rule)
    (policy? : Option Policy) (parallel : Bool) :
    ((∃ t, ofParts (elements.map (ElementPattern.renamed σ)) rules (policy?.map (Policy.renamed σ)) parallel = .ok t) ↔
      ∃ s, ofParts elements rules policy? parallel = .ok s) ∧
    ∀ s t, ofParts elements rules policy? parallel = .ok s →
      ofParts (elements.map (ElementPattern.renamed σ)) rules (policy?.map (Policy.renamed σ)) parallel = .ok t →
      ∀ g : Graph,
        let ofRules := rules.flatMap fun r => r.check g (Facts.ofGraph g)
        let ofPolicy := policy?.toList.flatMap fun p => p.check elements g
        (t.check g).violations.map (fun v => (v.rule, v.severity, v.source, v.target?)) =
          (s.check g).violations.map (fun v => (v.rule, v.severity, v.source, v.target?)) ∧
        (t.check g).modulesChecked = (s.check g).modulesChecked ∧
        (t.check g).edgesChecked = (s.check g).edgesChecked ∧
        (s.check g).violations.Perm (ofRules ++ ofPolicy) ∧
        (t.check g).violations.Perm (ofRules ++ ofPolicy.map (Violation.renamed σ elements)) := by
  refine ⟨?_, fun s t hs ht g => ?_⟩
  · rw [exists_ofParts_iff, exists_ofParts_iff]
    exact problems_renamed hσ elements rules policy?
  obtain ⟨rfl, rfl, rfl, -⟩ := ofParts_eq_ok_iff.mp hs
  obtain ⟨helements, hrules, hpolicy, -⟩ := ofParts_eq_ok_iff.mp ht
  have houtlines : (t.check g).violations.map Violation.outline = (s.check g).violations.map Violation.outline :=
    Report.outlines_congr (.of_eq (outlines_renamed hσ helements hrules hpolicy g _)) _ _
  refine ⟨?_, rfl, rfl, Report.perm_ofViolations _ _ _, ?_⟩
  · -- the parts in question are those that the outline keeps
    have hparts := congrArg (List.map fun v => (v.rule, v.severity, v.source, v.target?)) houtlines
    rw [List.map_map, List.map_map] at hparts
    exact hparts
  · rw [← violations_renamed hσ helements hrules hpolicy]
    exact Report.perm_ofViolations _ _ _

end RuleSet

end

/-! ### Legacy elements -/

theorem isElementName_append {a b : String} (ha : isElementName a = true) (hb : isElementName b = true) :
    isElementName (a ++ b) = true := by
  simp only [isElementName, Bool.and_eq_true, bne_iff_ne, ne_eq] at ha hb ⊢
  constructor
  · intro h
    exact ha.1 (String.append_eq_empty_iff.mp h).1
  · rw [String.toList_append, List.all_append, ha.2, hb.2]
    rfl

/-- The name of an element that is about to go. -/
def ElementName.legacy (n : ElementName) : ElementName :=
  { text := "legacy-" ++ n.text, valid := isElementName_append (by decide) n.valid }

theorem ElementName.legacy_injective : Function.Injective legacy := by
  rintro ⟨a, _⟩ ⟨b, _⟩ h
  have htext : "legacy-" ++ a = "legacy-" ++ b := congrArg ElementName.text h
  cases (String.append_right_inj "legacy-").mp htext
  rfl

namespace RuleSet

theorem namesakes_report_renamed :
    Function.Injective ElementName.legacy ∧
      ofParts namesakes.elements namesakes.rules namesakes.policy? namesakes.parallel = .ok namesakes ∧
      ∃ t, ofParts (namesakes.elements.map (ElementPattern.renamed .legacy)) namesakes.rules
          (namesakes.policy?.map (Policy.renamed .legacy)) namesakes.parallel = .ok t ∧
        ∀ g : Graph,
          let ofRules := namesakes.rules.flatMap fun r => r.check g (Facts.ofGraph g)
          let ofPolicy := namesakes.policy?.toList.flatMap fun p => p.check namesakes.elements g
          (t.check g).violations.map (fun v => (v.rule, v.severity, v.source, v.target?)) =
            (namesakes.check g).violations.map (fun v => (v.rule, v.severity, v.source, v.target?)) ∧
          (t.check g).modulesChecked = (namesakes.check g).modulesChecked ∧
          (t.check g).edgesChecked = (namesakes.check g).edgesChecked ∧
          (namesakes.check g).violations.Perm (ofRules ++ ofPolicy) ∧
          (t.check g).violations.Perm (ofRules ++ ofPolicy.map (Violation.renamed .legacy namesakes.elements)) := by
  have hs : ofParts namesakes.elements namesakes.rules namesakes.policy? namesakes.parallel = .ok namesakes :=
    ofParts_eq_ok_iff.mpr ⟨rfl, rfl, rfl, rfl⟩
  obtain ⟨hiff, hreports⟩ :=
    report_renamed ElementName.legacy_injective namesakes.elements namesakes.rules namesakes.policy? namesakes.parallel
  obtain ⟨t, ht⟩ := hiff.mpr ⟨namesakes, hs⟩
  exact ⟨ElementName.legacy_injective, hs, t, ht, hreports namesakes t hs ht⟩

end RuleSet

end ImportLint
