import ImportLint.Proofs.Check.Content
import ImportLint.Proofs.Graph.Union

/-!
# Reports on inventories without common modules

What a rule set finds in a union of two graphs is what it finds in each of them (`RuleSet.violations_union`). So the report
on two inventories that name no common module, one behind the other, is made of their two reports
(`RuleSet.check_append`).
-/

namespace ImportLint

variable {g g₁ g₂ : Graph}

section

variable [PatternLanguage]

namespace Rule

/-- What a rule finds at an edge of a part is what it finds there in the part. -/
theorem finding_union (h : g.IsUnion g₁ g₂) (r : Rule) {e : Edge} (he : e ∈ g₁.edges) :
    r.finding g e = r.finding g₁ e := by
  have hiff : r.Forbids g e ↔ r.Forbids g₁ e := r.forbids_congr rfl rfl (h.onCycle_iff he)
  unfold finding
  split_ifs with h₀ h₁ h₁
  · rfl
  · exact absurd (hiff.mp h₀) h₁
  · exact absurd (hiff.mpr h₁) h₀
  · rfl

/-- What a rule says about a module of a part is what it says about it in the part. -/
theorem checkModule_union (h : g.IsUnion g₁ g₂) (r : Rule) (orphan : Bool) {id : String} (hid : id ∈ g₁.modules) :
    r.checkModule orphan (Ends.ofGraph g) id = r.checkModule orphan (Ends.ofGraph g₁) id := by
  rw [checkModule, checkModule, h.standing_eq hid]

/-- A rule finds in a union what it finds in the parts. -/
theorem check_union (h : g.IsUnion g₁ g₂) (r : Rule) :
    (r.check g (Facts.ofGraph g)).Perm (r.check g₁ (Facts.ofGraph g₁) ++ r.check g₂ (Facts.ofGraph g₂)) := by
  cases hs : r.scope with
  | modules orphan =>
    rw [check, check, check, hs]
    show (g.modules.toList.filterMap (r.checkModule orphan (Ends.ofGraph g))).Perm
      (g₁.modules.toList.filterMap (r.checkModule orphan (Ends.ofGraph g₁)) ++
        g₂.modules.toList.filterMap (r.checkModule orphan (Ends.ofGraph g₂)))
    have hparts := h.modules.filterMap (r.checkModule orphan (Ends.ofGraph g))
    rw [List.filterMap_append,
      List.filterMap_congr fun id hid => r.checkModule_union h orphan (Array.mem_toList_iff.mp hid),
      List.filterMap_congr fun id hid => r.checkModule_union h.symm orphan (Array.mem_toList_iff.mp hid)] at hparts
    exact hparts
  | edges t =>
    rw [r.check_edges h.coherent hs, r.check_edges h.left hs, r.check_edges h.right hs]
    exact h.filterMap_perm (r.finding_plain (.refl h.coherent)) (fun e => r.finding_union h)
      fun e => r.finding_union h.symm

end Rule

/-- A policy finds in a union what it finds in the parts. -/
theorem Policy.check_union (h : g.IsUnion g₁ g₂) (p : Policy) (elements : List ElementPattern) :
    (p.check elements g).Perm (p.check elements g₁ ++ p.check elements g₂) := by
  rw [p.check_eq, p.check_eq, p.check_eq]
  exact h.filterMap_perm (fun _ => rfl) (fun _ _ => rfl) fun _ _ => rfl

namespace RuleSet

/-- A rule set finds in a union what it finds in the parts. -/
theorem violations_union (h : g.IsUnion g₁ g₂) (s : RuleSet) :
    (s.violations g (Facts.ofGraph g)).Perm
      (s.violations g₁ (Facts.ofGraph g₁) ++ s.violations g₂ (Facts.ofGraph g₂)) := by
  have hrules : (s.rules.flatMap fun r => r.check g (Facts.ofGraph g)).Perm
      ((s.rules.flatMap fun r => r.check g₁ (Facts.ofGraph g₁)) ++
        s.rules.flatMap fun r => r.check g₂ (Facts.ofGraph g₂)) :=
    (List.Perm.flatMap_left _ fun r _ => r.check_union h).trans (List.flatMap_append_perm _ _ _).symm
  have hpolicy : (s.policy?.toList.flatMap fun p => p.check s.elements g).Perm
      ((s.policy?.toList.flatMap fun p => p.check s.elements g₁) ++
        s.policy?.toList.flatMap fun p => p.check s.elements g₂) :=
    (List.Perm.flatMap_left _ fun p _ => p.check_union h s.elements).trans (List.flatMap_append_perm _ _ _).symm
  refine (hrules.append hpolicy).trans ?_
  rw [violations, violations, List.append_assoc, List.append_assoc]
  exact (List.perm_append_comm_assoc _ _ _).append_left _

/-- The report on two inventories that name no common module, one behind the other, has the violations of both reports
put in order and the sums of their counts. Specifiers of unresolved records may be shared. -/
theorem check_append (s : RuleSet) {i j : Inventory} (h : ∀ id ∈ i.ids, id ∉ j.ids) :
    s.check (i.append j).graph =
      Report.ofViolations ((s.check i.graph).violations ++ (s.check j.graph).violations)
        ((s.check i.graph).modulesChecked + (s.check j.graph).modulesChecked)
        ((s.check i.graph).edgesChecked + (s.check j.graph).edgesChecked) := by
  have hu := Inventory.graph_append h
  have hmodules : (i.append j).graph.modules.size = i.graph.modules.size + j.graph.modules.size := by
    simpa using hu.modules.length_eq
  have hedges : (i.append j).graph.edges.size = i.graph.edges.size + j.graph.edges.size := by
    simpa using hu.edges.length_eq
  have hfound : ((s.check i.graph).violations ++ (s.check j.graph).violations).Perm
      (s.violations (i.append j).graph (Facts.ofGraph (i.append j).graph)) :=
    ((Report.perm_ofViolations _ _ _).append (Report.perm_ofViolations _ _ _)).trans (s.violations_union hu).symm
  rw [s.check_eq_of_perm hfound, hmodules, hedges]
  rfl

end RuleSet

end

namespace RuleSet

/-- A module that imports itself, another one that imports it, and the unresolved specifier of `listedImports`. -/
def selfImports : Inventory :=
  { listings := [{ source := "d", dependencies := [] }]
    records := [.resolvedTo "c" "c" .internal, .resolvedTo "d" "c" .npmDev, .unresolved "d" "./gone"] }

theorem check_listedImports_selfImports :
    (∀ id ∈ listedImports.ids, id ∉ selfImports.ids) ∧
      noCyclesNoDev.check (listedImports.append selfImports).graph =
        Report.ofViolations
          ((noCyclesNoDev.check listedImports.graph).violations ++ (noCyclesNoDev.check selfImports.graph).violations)
          ((noCyclesNoDev.check listedImports.graph).modulesChecked +
            (noCyclesNoDev.check selfImports.graph).modulesChecked)
          ((noCyclesNoDev.check listedImports.graph).edgesChecked +
            (noCyclesNoDev.check selfImports.graph).edgesChecked) := by
  have h : ∀ id ∈ listedImports.ids, id ∉ selfImports.ids := by decide
  exact ⟨h, noCyclesNoDev.check_append h⟩

end RuleSet

end ImportLint
