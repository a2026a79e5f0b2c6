import ImportLint.Proofs.Check.Edges
import ImportLint.Proofs.Config.Recommended
import ImportLint.Proofs.Graph.Standing
import Mathlib.Data.List.Perm.Basic

/-!
# What the recommended rules report

On the graph of any inventory the recommended rules report at most one violation of each edge, which its kind decides
(`Graph.recommendedVerdict`), and at most one of each module (`RuleSet.recommended_report`).
-/

namespace ImportLint

/-- An error about an edge. -/
def Edge.error (e : Edge) (rule message comment : String) : Violation :=
  { rule := rule, severity := .error, source := e.source, target? := some e.target.label, message := message,
    comment? := some comment }

/-- An error about an orphan. -/
def orphanError (id : String) : Violation :=
  { rule := "no-orphans", severity := .error, source := id, target? := none,
    message := "orphan module: no internal imports and no internal dependents",
    comment? := some "Modules under src must import or be imported by another module" }

open Classical in
/-- What the recommended rules report of an edge. -/
noncomputable def Graph.recommendedVerdict (g : Graph) (e : Edge) : Option Violation :=
  match e.kind with
  | .unresolvable =>
    some (e.error "not-to-unresolvable" ("cannot resolve '" ++ e.target.label ++ "'")
      "Imports must resolve to an existing module")
  | .internal =>
    if g.OnCycle e then
      some (e.error "no-circular" ("circular dependency: " ++ e.source ++ " -> " ++ e.target.label)
        "Modules must not depend on each other in a cycle")
    else none
  | .npmDev =>
    if Preset.devModules.isMatch e.source = true then none
    else
      some (e.error "not-to-dev-dep" ("npm-dev dependency on '" ++ e.target.label ++ "'")
        "Production code must not depend on devDependencies")
  | .deprecated =>
    some (e.error "no-deprecated" ("deprecated dependency on '" ++ e.target.label ++ "'")
      "Deprecated packages must be replaced")
  | .npm => none
  | .core => none

/-! ## The rules about edges -/

namespace Rule

variable {g : Graph} {e : Edge}

theorem notToUnresolvable_forbids (h : g.Coherent) (he : e ∈ g.edges) :
    notToUnresolvable.Forbids g e ↔ e.kind = .unresolvable := by
  rw [forbids_iff rfl, h.kind_iff e he]
  constructor
  · rintro ⟨-, ht⟩
    exact (ht.unresolvable true rfl).mp rfl
  · intro hn
    refine ⟨PathFilter.admits_none _, PathFilter.admits_none _, Or.inl rfl, nofun, fun b hb => ?_⟩
    cases hb
    exact iff_of_true rfl hn

theorem noCircular_forbids : noCircular.Forbids g e ↔ g.OnCycle e := by
  rw [forbids_iff rfl]
  constructor
  · rintro ⟨-, ht⟩
    exact (ht.circular true rfl).mp rfl
  · intro hc
    refine ⟨PathFilter.admits_none _, PathFilter.admits_none _, Or.inl rfl, fun b hb => ?_, nofun⟩
    cases hb
    exact iff_of_true rfl hc

theorem notToDevDependency_forbids :
    notToDevDependency.Forbids g e ↔ e.kind = .npmDev ∧ Preset.devModules.isMatch e.source = false := by
  rw [forbids_iff rfl]
  constructor
  · rintro ⟨hs, ht⟩
    exact ⟨List.mem_singleton.mp (ht.kind.resolve_left (by simp)), hs.pathNot _ rfl⟩
  · rintro ⟨hk, hm⟩
    refine ⟨⟨nofun, fun q hq => ?_⟩, PathFilter.admits_none _, Or.inr (List.mem_singleton.mpr hk), nofun, nofun⟩
    cases hq
    exact hm

theorem noDeprecated_forbids : noDeprecated.Forbids g e ↔ e.kind = .deprecated := by
  rw [forbids_iff rfl]
  constructor
  · rintro ⟨-, ht⟩
    exact List.mem_singleton.mp (ht.kind.resolve_left (by simp))
  · intro hk
    exact ⟨PathFilter.admits_none _, PathFilter.admits_none _, Or.inr (List.mem_singleton.mpr hk), nofun, nofun⟩

theorem kind_of_onCycle (h : g.OnCycle e) : e.kind = .internal := by
  have hi := h.1
  rw [Edge.isInternal, Bool.and_eq_true] at hi
  exact beq_iff_eq.mp hi.1

/-- An error that a rule reports for an edge because of its kind. -/
theorem breach_of_kinds {q : Rule} {k : Kind} {comment : String}
    (hs : q.scope = .edges { TargetFilter.none with kinds := [k] }) (hq : q.severity = .error)
    (hc : q.comment? = some comment) (hk : e.kind = k) :
    q.breach e = e.error q.name (k.name ++ " dependency on '" ++ e.target.label ++ "'") comment := by
  subst hk
  rw [breach, hs, hq, hc]
  rfl

open Classical in
/-- Of the recommended rules about edges, at most one finds something at an edge. -/
theorem findings_eq_verdict (h : g.Coherent) (he : e ∈ g.edges) :
    [notToUnresolvable, noCircular, notToDevDependency, noDeprecated].filterMap (finding · g e) =
      (g.recommendedVerdict e).toList := by
  have hcycle : e.kind ≠ .internal → ¬g.OnCycle e := mt kind_of_onCycle
  simp only [List.filterMap_eq_flatMap_toList, List.flatMap_cons, List.flatMap_nil, finding,
    notToUnresolvable_forbids h he, noCircular_forbids, notToDevDependency_forbids, noDeprecated_forbids,
    Graph.recommendedVerdict]
  cases hk : e.kind with
  | internal =>
    by_cases hc : g.OnCycle e
    · simp [hc]
      rfl
    · simp [hc]
  | npmDev =>
    by_cases hm : Preset.devModules.isMatch e.source = true
    · simp [hcycle, hk, hm]
    · simp [hcycle, hk, hm, breach_of_kinds (q := notToDevDependency) rfl rfl rfl hk]
      rfl
  | deprecated =>
    simp [hcycle, hk, breach_of_kinds (q := noDeprecated) rfl rfl rfl hk]
    rfl
  | unresolvable =>
    simp [hcycle, hk]
    rfl
  | npm => simp [hcycle, hk]
  | core => simp [hcycle, hk]

end Rule

/-- Going through the rules first or through the edges first finds the same. -/
theorem flatMap_filterMap_perm {α β γ : Type} (f : α → β → Option γ) (rs : List α) (es : List β) :
    (rs.flatMap fun r => es.filterMap (f r)).Perm (es.flatMap fun e => rs.filterMap (f · e)) := by
  induction rs with
  | nil => simp
  | cons r rs ih =>
    have hsplit : (fun e => (r :: rs).filterMap (f · e)) = fun e => (f r e).toList ++ rs.filterMap (f · e) := by
      funext e
      rw [List.filterMap_cons]
      cases f r e <;> rfl
    rw [List.flatMap_cons, hsplit, List.filterMap_eq_flatMap_toList]
    exact (ih.append_left _).trans (List.flatMap_append_perm es _ _)

/-! ## The report -/

/-- Where all violations are errors, a report has errors if and only if it is not empty. -/
theorem Report.hasErrors_iff {r : Report} (h : ∀ v ∈ r.violations, v.severity = .error) :
    r.hasErrors = true ↔ r.violations ≠ [] := by
  rw [hasErrors_iff_exists]
  constructor
  · rintro ⟨v, hv, -⟩
    exact List.ne_nil_of_mem hv
  · intro hne
    obtain ⟨v, hv⟩ := List.exists_mem_of_ne_nil _ hne
    exact ⟨v, hv, h v hv⟩

namespace RuleSet

variable {g : Graph}

/-- The rules about edges find, edge by edge, what the verdicts say. -/
theorem edge_findings_perm (h : g.Coherent) :
    ([Rule.notToUnresolvable, Rule.noCircular, Rule.notToDevDependency, Rule.noDeprecated].flatMap
      fun r => r.check g (Facts.ofGraph g)).Perm (g.edges.toList.filterMap g.recommendedVerdict) := by
  have hcheck : ∀ r ∈ [Rule.notToUnresolvable, Rule.noCircular, Rule.notToDevDependency, Rule.noDeprecated],
      r.check g (Facts.ofGraph g) = g.edges.toList.filterMap (r.finding g) := by
    intro r hr
    have hs : ∃ t, r.scope = .edges t := by
      simp only [List.mem_cons, List.not_mem_nil, or_false] at hr
      rcases hr with rfl | rfl | rfl | rfl <;> exact ⟨_, rfl⟩
    obtain ⟨t, ht⟩ := hs
    exact r.check_edges h ht
  rw [List.flatMap_congr hcheck]
  refine (flatMap_filterMap_perm (Rule.finding · g) _ _).trans (List.Perm.of_eq ?_)
  rw [List.filterMap_eq_flatMap_toList]
  exact List.flatMap_congr fun e he => Rule.findings_eq_verdict h (Array.mem_toList_iff.mp he)

/-- The rule about modules finds some of the orphans, each once. -/
theorem orphan_findings (h : g.Coherent) :
    ∃ orphans : List String, orphans.Nodup ∧ (∀ id ∈ orphans, id ∈ g.modules ∧ g.standing id = .orphan) ∧
      Rule.noOrphans.check g (Facts.ofGraph g) = orphans.map orphanError := by
  refine ⟨g.modules.toList.filter fun id =>
    (Ends.ofGraph g).standing id = .orphan ∧ Rule.noOrphans.source.passes id = true,
    h.modules_nodup.filter _, fun id hid => ?_, ?_⟩
  · obtain ⟨hm, hs⟩ := List.mem_filter.mp hid
    exact ⟨Array.mem_toList_iff.mp hm, (g.standing_eq id).trans (of_decide_eq_true hs).1⟩
  · rw [← List.filterMap_eq_map, List.filterMap_filter]
    refine List.filterMap_congr fun id _ => ?_
    show Rule.noOrphans.checkModule true (Ends.ofGraph g) id = _
    rw [Rule.checkModule]
    simp only [if_true, decide_eq_true_eq]
    rfl

theorem violations_recommended_perm (h : g.Coherent) :
    (recommended.violations g (Facts.ofGraph g)).Perm
      (g.edges.toList.filterMap g.recommendedVerdict ++ Rule.noOrphans.check g (Facts.ofGraph g)) := by
  have hrules : recommended.rules.Perm
      ([.notToUnresolvable, .noCircular, .notToDevDependency, .noDeprecated] ++ [.noOrphans]) := by
    have hlast : ([.noOrphans] ++ [.notToDevDependency, .noDeprecated] : List Rule).Perm
        ([.notToDevDependency, .noDeprecated] ++ [.noOrphans]) := List.perm_append_comm
    exact (hlast.cons _).cons _
  have hflat := hrules.flatMap_right fun r => r.check g (Facts.ofGraph g)
  rw [List.flatMap_append, List.flatMap_singleton] at hflat
  rw [violations, show recommended.policy? = none from rfl, Option.toList_none, List.flatMap_nil, List.append_nil]
  exact hflat.trans ((edge_findings_perm h).append_right _)

/-- The verdict on an edge is an error about its ends, and about an unresolvable import only if that is its kind. -/
theorem verdict_parts {e : Edge} {v : Violation} (hv : g.recommendedVerdict e = some v) :
    v.severity = .error ∧ v.source = e.source ∧ v.target? = some e.target.label ∧
      (v.rule = "not-to-unresolvable" → e.kind = .unresolvable) := by
  unfold Graph.recommendedVerdict at hv
  cases hk : e.kind <;> simp only [hk] at hv
  case unresolvable => exact Option.some.inj hv ▸ ⟨rfl, rfl, rfl, fun _ => rfl⟩
  case internal =>
    split_ifs at hv
    exact Option.some.inj hv ▸ ⟨rfl, rfl, rfl, by simp [Edge.error]⟩
  case npmDev =>
    split_ifs at hv
    exact Option.some.inj hv ▸ ⟨rfl, rfl, rfl, by simp [Edge.error]⟩
  case deprecated => exact Option.some.inj hv ▸ ⟨rfl, rfl, rfl, by simp [Edge.error]⟩
  all_goals cases hv

/-- The edges with an error about an unresolvable import are those with an unresolved target. -/
theorem reportsUnresolvable_iff (h : g.Coherent) {e : Edge} (he : e ∈ g.edges) (m spec : String) :
    (∃ v, g.recommendedVerdict e = some v ∧ v.rule = "not-to-unresolvable" ∧ v.source = m ∧ v.target? = some spec) ↔
      e.key = (m, .unresolved spec) := by
  constructor
  · rintro ⟨v, hv, hr, rfl, ht⟩
    obtain ⟨-, hs, hl, hk⟩ := verdict_parts hv
    have hn : e.target.module? = none := (h.kind_iff e he).mp (hk hr)
    cases htar : e.target with
    | module b =>
      rw [htar] at hn
      cases hn
    | unresolved s =>
      rw [hl, htar] at ht
      exact Prod.ext hs.symm (htar.trans (congrArg Target.unresolved (Option.some.inj ht)))
  · intro hkey
    obtain ⟨rfl, ht⟩ := Prod.mk.inj hkey
    have hk : e.kind = .unresolvable := (h.kind_iff e he).mpr (by rw [ht]; rfl)
    refine ⟨_, by rw [Graph.recommendedVerdict, hk], rfl, rfl, ?_⟩
    show some e.target.label = _
    rw [ht]
    rfl

/-- There is one error about an unresolvable import for each source and specifier of an unresolved record, and there
are no others. -/
theorem count_unresolvable (i : Inventory) (m spec : String) :
    (i.graph.edges.toList.filterMap i.graph.recommendedVerdict).countP
        (fun v => v.rule = "not-to-unresolvable" ∧ v.source = m ∧ v.target? = some spec) =
      if ∃ r ∈ i.allRecords, r.source = m ∧ r.target = .unresolved spec then 1 else 0 := by
  have h := i.graph_reflects.coherent
  have hcount : (i.graph.edges.toList.filterMap i.graph.recommendedVerdict).countP
      (fun v => v.rule = "not-to-unresolvable" ∧ v.source = m ∧ v.target? = some spec) =
      (i.graph.edges.toList.map Edge.key).count (m, .unresolved spec) := by
    rw [List.count, List.countP_map, List.countP_filterMap]
    refine List.countP_congr fun e he => ?_
    rw [Function.comp_apply, beq_iff_eq, ← reportsUnresolvable_iff h (Array.mem_toList_iff.mp he)]
    cases i.graph.recommendedVerdict e <;> simp
  have hmem : (m, Target.unresolved spec) ∈ i.graph.edges.toList.map Edge.key ↔
      ∃ r ∈ i.allRecords, r.source = m ∧ r.target = .unresolved spec := by
    rw [i.graph_reflects.mem_keys]
    simp only [i.record_mem_mentions, Edge.key, Record.edge_source, Record.edge_target, Prod.mk.injEq]
  rw [hcount, h.keys_nodup.count]
  exact if_congr hmem rfl rfl

/-- With an empty configuration the report has, for each edge of the graph, the violation that its kind decides, if
any, and for each of some orphans one more violation. An unresolved import is reported once for its module and
specifier. All violations are errors, so a report has errors if and only if it is not empty. -/
theorem recommended_report :
    ∃ s, parse "" = .ok s ∧ PathPattern.ofText Preset.devDependencyPattern = .ok Preset.devModules ∧
      ∀ i : Inventory, ∃ orphans : List String,
        orphans.Nodup ∧ (∀ id ∈ orphans, id ∈ i.graph.modules ∧ i.graph.standing id = .orphan) ∧
        (s.check i.graph).violations.Perm
          (i.graph.edges.toList.filterMap i.graph.recommendedVerdict ++ orphans.map orphanError) ∧
        (∀ m spec, (s.check i.graph).violations.countP
            (fun v => v.rule = "not-to-unresolvable" ∧ v.source = m ∧ v.target? = some spec) =
          if ∃ r ∈ i.allRecords, r.source = m ∧ r.target = .unresolved spec then 1 else 0) ∧
        (∀ v ∈ (s.check i.graph).violations, v.severity = .error) ∧
        ((s.check i.graph).hasErrors = true ↔ (s.check i.graph).violations ≠ []) := by
  refine ⟨recommended, parse_empty, Preset.devModules.ofText_text, fun i => ?_⟩
  have h := i.graph_reflects.coherent
  obtain ⟨orphans, hnodup, horphans, hfound⟩ := orphan_findings h
  have hperm : (recommended.check i.graph).violations.Perm
      (i.graph.edges.toList.filterMap i.graph.recommendedVerdict ++ orphans.map orphanError) := by
    rw [← hfound]
    exact (Report.perm_ofViolations _ _ _).trans (violations_recommended_perm h)
  have herror : ∀ v ∈ (recommended.check i.graph).violations, v.severity = .error := by
    intro v hv
    rcases List.mem_append.mp (hperm.mem_iff.mp hv) with hv | hv
    · obtain ⟨e, -, he⟩ := List.mem_filterMap.mp hv
      exact (verdict_parts he).1
    · obtain ⟨id, -, rfl⟩ := List.mem_map.mp hv
      rfl
  refine ⟨orphans, hnodup, horphans, hperm, fun m spec => ?_, herror, Report.hasErrors_iff herror⟩
  have hzero : (orphans.map orphanError).countP
      (fun v => v.rule = "not-to-unresolvable" ∧ v.source = m ∧ v.target? = some spec) = 0 := by
    rw [List.countP_eq_zero]
    intro v hv
    obtain ⟨id, -, rfl⟩ := List.mem_map.mp hv
    simp [orphanError]
  rw [hperm.countP_eq, List.countP_append, hzero, count_unresolvable]
  rfl

end RuleSet

end ImportLint
