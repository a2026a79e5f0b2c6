import ImportLint.Proofs.Check.Content

/-!
# Rules are independent

Each rule finds its violations by itself, and so does the policy (`RuleSet.findings`). However the rules are split in
two, both parts are rule sets and their reports on a graph make up the report of the whole, and the order in which the
checks finish does not show (`RuleSet.check_split`).
-/

namespace ImportLint

section

variable [PatternLanguage]

namespace RuleSet

/-- What the checks of a rule set find in a graph, check by check. -/
def findings (s : RuleSet) (g : Graph) : List (List Violation) :=
  s.rules.map (fun r => r.check g (Facts.ofGraph g)) ++ s.policy?.toList.map fun p => p.check s.elements g

theorem flatten_findings (s : RuleSet) (g : Graph) : (s.findings g).flatten = s.violations g (Facts.ofGraph g) := by
  rw [findings, List.flatten_append, ← List.flatMap_def, ← List.flatMap_def, violations]

/-- The violations of a rule set are those of two rule sets that share its rules, one of them with its policy. -/
theorem violations_split {s s₁ s₂ : RuleSet} (hr : (s₁.rules ++ s₂.rules).Perm s.rules)
    (he : s₁.elements = s.elements) (hp₁ : s₁.policy? = s.policy?) (hp₂ : s₂.policy? = none) (g : Graph) :
    ((s₁.check g).violations ++ (s₂.check g).violations).Perm (s.violations g (Facts.ofGraph g)) := by
  have hrules := hr.flatMap_right fun r => r.check g (Facts.ofGraph g)
  rw [List.flatMap_append] at hrules
  have hparts : (s₁.violations g (Facts.ofGraph g) ++ s₂.violations g (Facts.ofGraph g)).Perm
      (s.violations g (Facts.ofGraph g)) := by
    rw [violations, violations, hp₁, hp₂, he, Option.toList_none, List.flatMap_nil, List.append_nil, List.append_assoc]
    refine (List.perm_append_comm.append_left _).trans ?_
    rw [← List.append_assoc]
    exact hrules.append_right _
  exact ((Report.perm_ofViolations _ _ _).append (Report.perm_ofViolations _ _ _)).trans hparts

/-- Rules are independent. If the rules are split in two in any way, one part with the policy and the other without one
are rule sets as well, and on every graph the report has the violations of both reports, put together in either order,
with the same counts. So the order in which the checks finish does not show in the report, whether they run side by side
or not. -/
theorem check_split (s : RuleSet) {F₁ F₂ : List Rule} (h : (F₁ ++ F₂).Perm s.rules) (b₁ b₂ : Bool) :
    ∃ s₁ s₂, ofParts s.elements F₁ s.policy? b₁ = .ok s₁ ∧ ofParts s.elements F₂ none b₂ = .ok s₂ ∧
      ∀ g : Graph,
        s.check g =
          Report.ofViolations ((s₁.check g).violations ++ (s₂.check g).violations) g.modules.size g.edges.size ∧
        s.check g =
          Report.ofViolations ((s₂.check g).violations ++ (s₁.check g).violations) g.modules.size g.edges.size ∧
        ∀ found : List (List Violation), found.Perm (s.findings g) →
          s.check g = Report.ofViolations found.flatten g.modules.size g.edges.size := by
  have hnames : ((F₁ ++ F₂).map Rule.name).Nodup := (h.map _).nodup_iff.mpr s.names_nodup
  rw [List.map_append] at hnames
  have h₁ : problems s.elements F₁ s.policy? = [] := problems_eq_nil_iff.mpr ⟨hnames.of_append_left, s.declared⟩
  have h₂ : problems s.elements F₂ none = [] := problems_eq_nil_iff.mpr ⟨hnames.of_append_right, nofun⟩
  obtain ⟨s₁, hs₁, helements, rfl, hpolicy⟩ := exists_ofParts h₁ b₁
  obtain ⟨s₂, hs₂, -, rfl, hnone⟩ := exists_ofParts h₂ b₂
  refine ⟨s₁, s₂, hs₁, hs₂, fun g => ?_⟩
  have hparts := violations_split h helements hpolicy hnone g
  refine ⟨s.check_eq_of_perm hparts, s.check_eq_of_perm (List.perm_append_comm.trans hparts), fun found hfound => ?_⟩
  refine s.check_eq_of_perm ?_
  rw [← s.flatten_findings g]
  exact hfound.flatten

end RuleSet

end

namespace RuleSet

/-- A policy and three rules, one of which has the name of a violation of the policy. -/
def namesakes : RuleSet :=
  { sharedBelowFeatures with
    rules :=
      [{ name := "boundaries/element-types", severity := .error, comment? := some "Use the bus", source := .none,
         scope := .edges { TargetFilter.none with kinds := [.internal] }, named := by decide },
       { name := "no-strays", severity := .info, comment? := none, source := .none, scope := .modules true,
         named := by decide },
       { name := "no-rings", severity := .error, comment? := none, source := .none,
         scope := .edges { TargetFilter.none with circular? := some true }, named := by decide }]
    sound := by decide }

theorem check_split_namesakes :
    (namesakes.rules.drop 1 ++ namesakes.rules.take 1).Perm namesakes.rules ∧
      ∃ s₁ s₂, ofParts namesakes.elements (namesakes.rules.drop 1) namesakes.policy? true = .ok s₁ ∧
        ofParts namesakes.elements (namesakes.rules.take 1) none false = .ok s₂ ∧
        ∀ g : Graph,
          namesakes.check g =
            Report.ofViolations ((s₁.check g).violations ++ (s₂.check g).violations) g.modules.size g.edges.size ∧
          namesakes.check g =
            Report.ofViolations ((s₂.check g).violations ++ (s₁.check g).violations) g.modules.size g.edges.size ∧
          ∀ found : List (List Violation), found.Perm (namesakes.findings g) →
            namesakes.check g = Report.ofViolations found.flatten g.modules.size g.edges.size := by
  have h : (namesakes.rules.drop 1 ++ namesakes.rules.take 1).Perm namesakes.rules := List.perm_append_comm
  exact ⟨h, namesakes.check_split h true false⟩

end RuleSet

end ImportLint
