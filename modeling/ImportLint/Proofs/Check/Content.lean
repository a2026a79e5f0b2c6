import ImportLint.Proofs.Check.Boundaries
import ImportLint.Proofs.Check.Edges
import ImportLint.Proofs.Graph.Content

/-!
# Reports depend on what graphs say

Rules and policies find the same violations in graphs that say the same (`RuleSet.violations_perm`), and no two
different violations of one rule set tie in the order of reports (`RuleSet.violations_untied`). So the report on an
inventory depends only on its listed modules and on the normal forms of its records (`RuleSet.check_congr`).
-/

namespace ImportLint

variable {g g' : Graph}

/-! ## Initials -/

/-- The letters with which messages of rules begin. No message of a policy begins with one of them. -/
def ruleInitials : List Char := ['c', 'd', 'f', 'i', 'm', 'n', 'o', 'u']

theorem Kind.name_initial (k : Kind) (text : String) : ∃ c ∈ ruleInitials, (k.name ++ text).toList.head? = some c := by
  cases k with
  | internal => exact ⟨'i', by decide, by simp [name]⟩
  | npm => exact ⟨'n', by decide, by simp [name]⟩
  | npmDev => exact ⟨'n', by decide, by simp [name]⟩
  | deprecated => exact ⟨'d', by decide, by simp [name]⟩
  | core => exact ⟨'c', by decide, by simp [name]⟩
  | unresolvable => exact ⟨'u', by decide, by simp [name]⟩

section

variable [PatternLanguage]

/-! ## Alike graphs -/

namespace TargetFilter

/-- A filter asks only for the target, the kind and the cycles of an edge. -/
theorem Admits.congr {t : TargetFilter} {e e' : Edge} (h : t.Admits g e) (ht : e.target = e'.target)
    (hk : e.kind = e'.kind) (hc : g.OnCycle e ↔ g'.OnCycle e') : t.Admits g' e' where
  paths := ht ▸ h.paths
  kind := hk ▸ h.kind
  circular b hb := (h.circular b hb).trans hc
  unresolvable b hb := ht ▸ h.unresolvable b hb

end TargetFilter

namespace Rule

/-- A rule asks only for the ends, the kind and the cycles of an edge. -/
theorem forbids_congr (r : Rule) {e e' : Edge} (hkey : e.key = e'.key) (hk : e.kind = e'.kind)
    (hc : g.OnCycle e ↔ g'.OnCycle e') : r.Forbids g e ↔ r.Forbids g' e' := by
  obtain ⟨hs, ht⟩ := Prod.mk.inj hkey
  constructor
  · rintro ⟨t, hscope, hsource, hadmits⟩
    exact ⟨t, hscope, hs ▸ hsource, hadmits.congr ht hk hc⟩
  · rintro ⟨t, hscope, hsource, hadmits⟩
    exact ⟨t, hscope, hs ▸ hsource, hadmits.congr ht.symm hk.symm hc.symm⟩

/-- What a rule finds at an edge does not depend on the specifier. -/
theorem finding_plain (h : g.Alike g') (r : Rule) (e : Edge) : r.finding g e = r.finding g' e.plain := by
  have hiff : r.Forbids g e ↔ r.Forbids g' e.plain := r.forbids_congr rfl rfl (h.onCycle_iff e)
  unfold finding
  by_cases hf : r.Forbids g e
  · rw [if_pos hf, if_pos (hiff.mp hf)]
    rfl
  · rw [if_neg hf, if_neg (mt hiff.mpr hf)]

theorem checkModule_congr (h : g.Alike g') (r : Rule) (orphan : Bool) :
    r.checkModule orphan (Ends.ofGraph g) = r.checkModule orphan (Ends.ofGraph g') := by
  funext id
  rw [checkModule, checkModule, h.standing_eq]

/-- A rule finds the same in graphs that say the same. -/
theorem check_perm (h : g.Alike g') (r : Rule) :
    (r.check g (Facts.ofGraph g)).Perm (r.check g' (Facts.ofGraph g')) := by
  cases hs : r.scope with
  | modules orphan =>
    rw [check, check, hs]
    show (g.modules.toList.filterMap (r.checkModule orphan (Ends.ofGraph g))).Perm
      (g'.modules.toList.filterMap (r.checkModule orphan (Ends.ofGraph g')))
    rw [r.checkModule_congr h]
    exact h.modules.filterMap _
  | edges t =>
    rw [r.check_edges h.coherent hs, r.check_edges h.coherent' hs]
    exact h.filterMap_perm (r.finding_plain h) (r.finding_plain (.refl h.coherent'))

end Rule

/-- A policy finds the same in graphs that say the same. -/
theorem Policy.check_perm (h : g.Alike g') (p : Policy) (elements : List ElementPattern) :
    (p.check elements g).Perm (p.check elements g') := by
  rw [p.check_eq, p.check_eq]
  exact h.filterMap_perm (fun _ => rfl) fun _ => rfl

/-- A rule set finds the same in graphs that say the same. -/
theorem RuleSet.violations_perm (h : g.Alike g') (s : RuleSet) :
    (s.violations g (Facts.ofGraph g)).Perm (s.violations g' (Facts.ofGraph g')) :=
  (List.Perm.flatMap_left _ fun r _ => r.check_perm h).append
    (List.Perm.flatMap_left _ fun p _ => p.check_perm h s.elements)

/-! ## Ties -/

namespace Rule

theorem edgeMessage_initial (t : TargetFilter) (e : Edge) (cyclic : Bool) :
    ∃ c ∈ ruleInitials, (edgeMessage t e cyclic).toList.head? = some c := by
  unfold edgeMessage
  split_ifs
  · exact ⟨'c', by decide, by simp⟩
  · exact ⟨'c', by decide, by simp⟩
  · rw [String.append_assoc, String.append_assoc]
    exact e.kind.name_initial _
  · exact ⟨'f', by decide, by simp⟩

/-- What a rule finds has its name and its comment, and the message of a rule. -/
theorem check_parts {r : Rule} {facts : Facts} {v : Violation} (hv : v ∈ r.check g facts) :
    v.rule = r.name ∧ v.comment? = r.comment? ∧ ∃ c ∈ ruleInitials, v.message.toList.head? = some c := by
  cases hs : r.scope with
  | modules orphan =>
    rw [check, hs] at hv
    obtain ⟨id, -, hid⟩ := List.mem_filterMap.mp hv
    rw [checkModule] at hid
    split_ifs at hid
    · cases hid
      exact ⟨rfl, rfl, 'o', by decide, by simp [violation]⟩
    · cases hid
      exact ⟨rfl, rfl, 'm', by decide, by simp [violation]⟩
  | edges t =>
    rw [check, hs] at hv
    obtain ⟨⟨e, cyclic⟩, -, he⟩ := List.mem_filterMap.mp hv
    rw [checkEdge] at he
    split_ifs at he
    cases he
    exact ⟨rfl, rfl, edgeMessage_initial t e cyclic⟩

end Rule

/-- What a policy finds has no comment, and not the message of a rule. -/
theorem Policy.check_parts {p : Policy} {elements : List ElementPattern} {v : Violation}
    (hv : v ∈ p.check elements g) : v.comment? = none ∧ ∀ c ∈ ruleInitials, v.message.toList.head? ≠ some c := by
  obtain ⟨e, -, b, -, hj⟩ := judgement_of_mem_check hv
  refine ⟨hj.parts.2.2.2, ?_⟩
  cases hj <;> simp [ruleInitials]

namespace RuleSet

/-- No two different violations of one rule set tie: those of one rule share the comment, and messages tell rules from
policies. -/
theorem violations_untied (s : RuleSet) (g : Graph) (facts : Facts) : Report.Untied (s.violations g facts) := by
  have hcomment : ∀ a ∈ s.violations g facts, ∀ b ∈ s.violations g facts,
      a.rule = b.rule → a.message = b.message → a.comment? = b.comment? := by
    intro a ha b hb hrule hmessage
    rcases List.mem_append.mp ha with ha | ha <;> rcases List.mem_append.mp hb with hb | hb
    · obtain ⟨q, hq, ha⟩ := List.mem_flatMap.mp ha
      obtain ⟨r, hr, hb⟩ := List.mem_flatMap.mp hb
      obtain ⟨hqname, hqcomment, -⟩ := Rule.check_parts ha
      obtain ⟨hrname, hrcomment, -⟩ := Rule.check_parts hb
      have hqr : q = r := s.eq_of_name_eq hq hr (hqname.symm.trans (hrule.trans hrname))
      rw [hqcomment, hrcomment, hqr]
    · obtain ⟨q, -, ha⟩ := List.mem_flatMap.mp ha
      obtain ⟨p, -, hb⟩ := List.mem_flatMap.mp hb
      obtain ⟨-, -, c, hc, hhead⟩ := Rule.check_parts ha
      exact absurd (hmessage ▸ hhead) ((Policy.check_parts hb).2 c hc)
    · obtain ⟨p, -, ha⟩ := List.mem_flatMap.mp ha
      obtain ⟨q, -, hb⟩ := List.mem_flatMap.mp hb
      obtain ⟨-, -, c, hc, hhead⟩ := Rule.check_parts hb
      exact absurd (hmessage ▸ hhead) ((Policy.check_parts ha).2 c hc)
    · obtain ⟨p, -, ha⟩ := List.mem_flatMap.mp ha
      obtain ⟨q, -, hb⟩ := List.mem_flatMap.mp hb
      rw [(Policy.check_parts ha).1, (Policy.check_parts hb).1]
  intro a ha b hb htie
  obtain ⟨hseverity, hsource, hrule, htarget, hmessage⟩ := Violation.order_eq_iff.mp htie
  have hnote := hcomment a ha b hb hrule hmessage
  cases a
  cases b
  exact (Violation.mk.injEq ..).mpr ⟨hrule, hseverity, hsource, htarget, hmessage, hnote⟩

/-- The order in which the violations of a rule set are found does not show in the report. -/
theorem check_eq_of_perm (s : RuleSet) {vs : List Violation} (h : vs.Perm (s.violations g (Facts.ofGraph g))) :
    s.check g = Report.ofViolations vs g.modules.size g.edges.size :=
  Report.ofViolations_congr h.symm (s.violations_untied g _) _ _

/-- Graphs that say the same have the same report. -/
theorem check_eq_of_alike (h : g.Alike g') (s : RuleSet) : s.check g = s.check g' := by
  have hmodules : g.modules.size = g'.modules.size := h.modules.length_eq
  have hedges : g.edges.size = g'.edges.size := by simpa using h.edges.length_eq
  rw [s.check_eq_of_perm (s.violations_perm h).symm, hmodules, hedges]
  rfl

/-- Two inventories that list the same modules and whose records have the same normal forms have the same report. The
order of listings and records, repetitions, whether a record stands in a listing or by itself, the specifiers of
resolved records and the kinds of unresolved ones do not show. -/
theorem check_congr (s : RuleSet) {i j : Inventory}
    (hm : ∀ id, id ∈ i.listings.map Listing.source ↔ id ∈ j.listings.map Listing.source)
    (hr : ∀ n, n ∈ i.allRecords.map Record.normalForm ↔ n ∈ j.allRecords.map Record.normalForm) :
    s.check i.graph = s.check j.graph :=
  s.check_eq_of_alike (Inventory.graph_alike hm hr)

end RuleSet

end

namespace RuleSet

/-- Three imports, two of them in the listing of a module. -/
def listedImports : Inventory :=
  { listings :=
      [{ source := "a"
         dependencies :=
          [{ specifier := "./b", resolved? := some "b", kind? := some .internal, couldNotResolve := false },
           { specifier := "./gone", resolved? := none, kind? := none, couldNotResolve := true }] }]
    records := [.resolvedTo "b" "a" .internal] }

/-- The same three imports as records, in another order and one of them twice. -/
def flatImports : Inventory :=
  { listings := [{ source := "a", dependencies := [] }]
    records :=
      [{ source := "b", to? := some "a", specifier? := some "../a", kind? := none, resolved := true },
       { source := "a", to? := none, specifier? := some "./gone", kind? := some .npm, resolved := false },
       .resolvedTo "a" "b" .internal, .resolvedTo "a" "b" .internal] }

theorem check_listedImports : noCyclesNoDev.check listedImports.graph = noCyclesNoDev.check flatImports.graph := by
  refine check_congr noCyclesNoDev (fun id => Iff.rfl) fun n => ?_
  have hlisted : ∀ n ∈ listedImports.allRecords.map Record.normalForm,
      n ∈ flatImports.allRecords.map Record.normalForm := by decide
  have hflat : ∀ n ∈ flatImports.allRecords.map Record.normalForm,
      n ∈ listedImports.allRecords.map Record.normalForm := by decide
  exact ⟨hlisted n, hflat n⟩

end RuleSet

end ImportLint
