import ImportLint.Proofs.Check.Edges
import ImportLint.Proofs.Check.Severity
import ImportLint.Proofs.Config.Faults
import ImportLint.Proofs.Config.Rearranged

/-!
# Severities of entries

What becomes of a configuration that loads if one of its entries, a rule or the boundaries, has another severity. A rule
keeps its place among the merged rules, also where it takes the place of a rule of the preset, so the rule set stays the
same but for what the entry is read as (`Config.Reads.replace_rule`, `Config.Reads.replace_boundaries`). So the
configuration still loads, and the reports change for the entry alone (`Config.load_regraded`).
-/

namespace ImportLint

/-- The texts that ask for a severity. -/
def severityTexts : List (String × Severity) :=
  [("error", .error), ("warn", .warning), ("warning", .warning), ("info", .info)]

theorem severityOf_of_mem {place : ConfigPlace} {text : String} {t : Severity} (h : (text, t) ∈ severityTexts) :
    severityOf place text = .ok (some t) := by
  simp only [severityTexts, List.mem_cons, Prod.mk.injEq, List.not_mem_nil, or_false] at h
  rcases h with ⟨rfl, rfl⟩ | ⟨rfl, rfl⟩ | ⟨rfl, rfl⟩ | ⟨rfl, rfl⟩ <;> rfl

theorem severityOf_of_leavesOut {place : ConfigPlace} {text : String} (h : leavesOut text = true) :
    severityOf place text = .ok none := by
  rw [leavesOut, Bool.or_eq_true, decide_eq_true_eq, decide_eq_true_eq] at h
  rcases h with rfl | rfl <;> rfl

section

variable [PatternLanguage]

/-! ## Entries -/

namespace RuleEntry

variable {e : RuleEntry} {r : Rule} {text : String} {t : Severity}

theorem check_off (h : leavesOut text = true) : RuleEntry.check { e with severity := text } = .ok none :=
  check_eq_ok_none_iff.mpr (severityOf_of_leavesOut h)

theorem Reads.regraded (h : e.Reads r) (ht : (text, t) ∈ severityTexts) :
    Reads { e with severity := text } (r.regraded t) :=
  { h with severity := severityOf_of_mem ht }

/-- An entry that is not left out is read as a rule. -/
theorem reads_of_check {r? : Option Rule} (h : e.check = .ok r?) (hkept : leavesOut e.severity = false) :
    ∃ r, r? = some r ∧ e.Reads r := by
  cases r? with
  | none =>
    have hout := (severityOf_eq_ok (check_eq_ok_none_iff.mp h)).mpr rfl
    rw [hkept] at hout
    cases hout
  | some r => exact ⟨r, rfl, check_eq_ok_some_iff.mp h⟩

end RuleEntry

namespace BoundariesEntry

variable {b : BoundariesEntry} {p : Policy} {text : String} {t : Severity}

theorem Reads.off (h : b.Reads p) (ht : leavesOut text = true) :
    BoundariesEntry.check { b with severity := text } = .ok none :=
  check_eq_ok_none_iff.mpr ⟨⟨_, h.default⟩, severityOf_of_leavesOut ht⟩

theorem Reads.regraded (h : b.Reads p) (ht : (text, t) ∈ severityTexts) :
    Reads { b with severity := text } (p.regraded t) :=
  { h with severity := severityOf_of_mem ht }

theorem reads_of_check {p? : Option Policy} (h : b.check = .ok p?) (hkept : leavesOut b.severity = false) :
    ∃ p, p? = some p ∧ b.Reads p := by
  cases p? with
  | none =>
    have hout := (severityOf_eq_ok (check_eq_ok_none_iff.mp h).2).mpr rfl
    rw [hkept] at hout
    cases hout
  | some p => exact ⟨p, rfl, check_eq_ok_some_iff.mp h⟩

end BoundariesEntry

/-! ## Configurations -/

namespace Config

variable {c : Config} {s : RuleSet}

/-- With an entry of the same name in the place of one of its rules, a configuration is read as the same rule set, but for
what that entry is read as. -/
theorem Reads.replace_rule (h : c.Reads s) {before behind : List RuleEntry} {e : RuleEntry}
    (hsplit : c.rules = before ++ e :: behind) :
    ∃ rs₁ r? rs₂, e.check = .ok r? ∧ s.rules = rs₁ ++ r?.toList ++ rs₂ ∧
      ∀ e' r?', e'.name = e.name → e'.check = .ok r?' →
        ∃ s', Config.load { c with rules := before ++ e' :: behind } = .ok s' ∧ s'.elements = s.elements ∧
          s'.rules = rs₁ ++ r?'.toList ++ rs₂ ∧ s'.policy? = s.policy? := by
  obtain ⟨p, hp, rules?, hrules, hs⟩ := h.rules
  have hnames := h.names
  rw [hsplit] at hnames hrules
  obtain ⟨xs, ys, hmerged, hreplaced⟩ := mergeEntries_replace p.names_nodup hnames
  rw [hmerged] at hrules
  obtain ⟨rs₁?, r?, rs₂?, rfl, hxs, hcheck, hys⟩ := forall₂_split hrules
  have hkept : ∀ q? : Option Rule,
      (rs₁? ++ q? :: rs₂?).filterMap id = rs₁?.filterMap id ++ q?.toList ++ rs₂?.filterMap id := by
    intro q?
    cases q? <;> simp
  refine ⟨rs₁?.filterMap id, r?, rs₂?.filterMap id, hcheck, hs.trans (hkept r?), fun e' r?' hname hcheck' => ?_⟩
  have hnames' : ((before ++ e' :: behind).map RuleEntry.name).Nodup := by
    rw [List.map_append, List.map_cons, hname, ← List.map_cons, ← List.map_append]
    exact hnames
  have hrules' : List.Forall₂ (fun e r? => RuleEntry.check e = .ok r?) (mergeEntries p.rules (before ++ e' :: behind))
      (rs₁? ++ r?' :: rs₂?) := by
    rw [hreplaced e' hname]
    exact List.rel_append hxs (.cons hcheck' hys)
  have hnodup : (((rs₁? ++ r?' :: rs₂?).filterMap id).map Rule.name).Nodup :=
    (mergeEntries_names_nodup p.names_nodup hnames').sublist (RuleEntry.names_sublist hrules')
  have hsound : RuleSet.problems s.elements ((rs₁? ++ r?' :: rs₂?).filterMap id) s.policy? = [] :=
    RuleSet.problems_eq_nil_iff.mpr ⟨hnodup, s.declared⟩
  refine ⟨⟨s.elements, _, s.policy?, s.parallel, hsound⟩, load_eq_ok_iff.mpr ?_, rfl, hkept r?', rfl⟩
  exact
    { elements := h.elements
      names := hnames'
      rules := ⟨p, hp, _, hrules', rfl⟩
      policy := h.policy
      parallel := h.parallel }

/-- With other boundaries a configuration is read as the same rule set, but for what they are read as. -/
theorem Reads.replace_boundaries (h : c.Reads s) {b : BoundariesEntry} {p? : Option Policy} (hb : b.check = .ok p?)
    (hp : RuleSet.Declared s.elements p?) :
    ∃ s', Config.load { c with boundaries? := some b } = .ok s' ∧ s'.elements = s.elements ∧ s'.rules = s.rules ∧
      s'.policy? = p? := by
  have hsound : RuleSet.problems s.elements s.rules p? = [] :=
    RuleSet.problems_eq_nil_iff.mpr ⟨s.names_nodup, hp⟩
  refine ⟨⟨s.elements, s.rules, p?, s.parallel, hsound⟩, load_eq_ok_iff.mpr ?_, rfl, rfl, rfl⟩
  exact
    { elements := h.elements
      names := h.names
      rules := h.rules
      policy := hb
      parallel := h.parallel }

/-- What the severity of an entry decides. The configurations `graded` are the one that is loaded as `s`, with each text
as the severity of one entry, and `found` is what that entry finds. -/
structure GradedBy (s : RuleSet) (graded : String → Config) (found : Graph → List Violation) : Prop where
  /-- Left out, the entry takes its violations out of every report and leaves the others as they are. -/
  off : ∀ text, leavesOut text = true → ∃ s', (graded text).load = .ok s' ∧
    ∀ g, Report.Without (found g) (s.check g) (s'.check g)
  /-- With another severity, its violations have that severity in every report, and the others are as they are. -/
  regraded : ∀ text t, (text, t) ∈ severityTexts → ∃ s', (graded text).load = .ok s' ∧
    ∀ g, Report.Regraded (found g) t (s.check g) (s'.check g)

/-- If a configuration loads, it loads with any severity of any entry that is not left out, be it a rule or the
boundaries. The reports then lack the violations of that entry, or have them with the other severity, and have all others
as they are. -/
theorem load_regraded (h : c.load = .ok s) :
    (∀ before e behind, c.rules = before ++ e :: behind → leavesOut e.severity = false →
      ∃ r ∈ s.rules, e.Reads r ∧
        GradedBy s (fun text => { c with rules := before ++ { e with severity := text } :: behind })
          fun g => r.check g (Facts.ofGraph g)) ∧
    ∀ b, c.boundaries? = some b → leavesOut b.severity = false →
      ∃ p, s.policy? = some p ∧ b.Reads p ∧
        GradedBy s (fun text => { c with boundaries? := some { b with severity := text } })
          fun g => p.check s.elements g := by
  have hreads := load_eq_ok_iff.mp h
  constructor
  · intro before e behind hsplit henabled
    obtain ⟨rs₁, r?, rs₂, hcheck, hs, hreplace⟩ := hreads.replace_rule hsplit
    obtain ⟨r, rfl, hr⟩ := RuleEntry.reads_of_check hcheck henabled
    refine ⟨r, by rw [hs]; simp, hr, ?_, ?_⟩
    · intro text htext
      obtain ⟨s', hload, helements, hrules, hpolicy⟩ := hreplace { e with severity := text } none rfl
        (RuleEntry.check_off htext)
      rw [Option.toList_none, List.append_nil] at hrules
      exact ⟨s', hload, RuleSet.without_rule helements hpolicy hs hrules⟩
    · intro text t htext
      obtain ⟨s', hload, helements, hrules, hpolicy⟩ := hreplace { e with severity := text } (some (r.regraded t)) rfl
        (RuleEntry.check_eq_ok_some_iff.mpr (hr.regraded htext))
      exact ⟨s', hload, RuleSet.regraded_rule helements hpolicy hs hrules⟩
  · intro b hb henabled
    have hcheck : b.check = .ok s.policy? := by
      have hpolicy := hreads.policy
      rw [policy, hb] at hpolicy
      exact hpolicy
    obtain ⟨p, hp, hread⟩ := BoundariesEntry.reads_of_check hcheck henabled
    refine ⟨p, hp, hread, ?_, ?_⟩
    · intro text htext
      obtain ⟨s', hload, -, hrules, hpolicy⟩ := hreads.replace_boundaries (hread.off htext) nofun
      exact ⟨s', hload, RuleSet.without_policy hrules hp hpolicy⟩
    · intro text t htext
      have hdeclared : RuleSet.Declared s.elements (some (p.regraded t)) := by
        have hdeclared := s.declared
        rw [hp] at hdeclared
        rintro _ ⟨⟩
        exact hdeclared p rfl
      obtain ⟨s', hload, helements, hrules, hpolicy⟩ := hreads.replace_boundaries
        (BoundariesEntry.check_eq_ok_some_iff.mpr (hread.regraded htext)) hdeclared
      exact ⟨s', hload, RuleSet.regraded_policy helements hrules hp hpolicy⟩

end Config

end

namespace Config

/-- The rule that the entry against cycles is read as. -/
def cyclesInfo : Rule :=
  { name := cyclesRule.name, severity := .info, comment? := none, source := .none,
    scope := .edges { TargetFilter.none with circular? := some true }, named := by decide }

/-- What it finds where two modules import each other. -/
def cyclesFound : List Violation :=
  [{ rule := "no-circular", severity := .info, source := "a", target? := some "b",
     message := "circular dependency: a -> b", comment? := none },
   { rule := "no-circular", severity := .info, source := "b", target? := some "a",
     message := "circular dependency: b -> a", comment? := none }]

theorem check_cyclesInfo :
    cyclesInfo.check (Graph.ofMentions RuleSet.mutualImports) (Facts.ofGraph (Graph.ofMentions RuleSet.mutualImports)) =
      cyclesFound := by
  have hfinding : ∀ e ∈ (Graph.ofMentions RuleSet.mutualImports).edges.toList,
      cyclesInfo.finding (Graph.ofMentions RuleSet.mutualImports) e =
        if e.kind = .internal then some (cyclesInfo.breach e) else none := by
    intro e he
    have hiff : cyclesInfo.Forbids (Graph.ofMentions RuleSet.mutualImports) e ↔ e.kind = .internal :=
      (Rule.forbids_iff_onCycle rfl rfl).trans (RuleSet.onCycle_mutualImports he)
    by_cases hk : e.kind = .internal <;> simp [Rule.finding, hiff, hk]
  rw [Rule.check_edges (Graph.ofMentions_reflects _).coherent rfl, List.filterMap_congr hfinding,
    RuleSet.edges_mutualImports]
  rfl

/-- What the boundaries find there, with no layer for either module. -/
def unknownFound : List Violation :=
  [{ rule := "boundaries/no-unknown", severity := .error, source := "a", target? := some "b",
     message := "'b' does not belong to any element", comment? := none },
   { rule := "boundaries/no-unknown", severity := .error, source := "b", target? := some "a",
     message := "'a' does not belong to any element", comment? := none }]

theorem check_layered_policy {s : RuleSet} {p : Policy} (hs : layered.load = .ok s) (hp : s.policy? = some p) :
    p.check s.elements (Graph.ofMentions RuleSet.mutualImports) = unknownFound := by
  have hfound : (layered.load.toOption.bind fun s => s.policy?.map fun p =>
      [(⟨"a", .module "b", .internal, "b"⟩ : Edge), ⟨"b", .module "a", .internal, "a"⟩,
       ⟨"a", .module "chai", .npmDev, "chai"⟩].flatMap (p.checkEdge s.elements)) = some unknownFound := by
    decide +kernel
  rw [hs, Except.toOption, Option.bind_some, hp, Option.map_some] at hfound
  rw [Policy.check, RuleSet.edges_mutualImports]
  exact Option.some.inj hfound

/-- Without the rule that takes the place of one of the preset, and with boundaries of another severity: on every graph,
and where two modules import each other. -/
theorem load_layered_regraded :
    ∃ s r p, layered.load = .ok s ∧ r ∈ s.rules ∧ cyclesRule.Reads r ∧ s.policy? = some p ∧
      (∃ s', Config.load
          { layered with rules := [packagesRule ["npm", "deprecated"], { cyclesRule with severity := "off" }] } =
            .ok s' ∧
        (∀ g, Report.Without (r.check g (Facts.ofGraph g)) (s.check g) (s'.check g)) ∧
        Report.Without cyclesFound (s.check (Graph.ofMentions RuleSet.mutualImports))
          (s'.check (Graph.ofMentions RuleSet.mutualImports))) ∧
      ∃ s', Config.load
          { layered with boundaries? := layered.boundaries?.map fun b => { b with severity := "info" } } = .ok s' ∧
        (∀ g, Report.Regraded (p.check s.elements g) .info (s.check g) (s'.check g)) ∧
        Report.Regraded unknownFound .info (s.check (Graph.ofMentions RuleSet.mutualImports))
          (s'.check (Graph.ofMentions RuleSet.mutualImports)) := by
  obtain ⟨s, hs⟩ : ∃ s, layered.load = .ok s := errorOf?_eq_none_iff.mp (by decide +kernel)
  obtain ⟨hrules, hboundaries⟩ := load_regraded hs
  obtain ⟨r, hr, hread, hcycles⟩ := hrules [packagesRule ["npm", "deprecated"]] cyclesRule [] rfl (by decide)
  obtain ⟨p, hp, -, hpolicy⟩ := hboundaries _ rfl (by decide)
  obtain ⟨s₁, hs₁, hwithout⟩ := hcycles.off "off" (by decide)
  obtain ⟨s₂, hs₂, hregraded⟩ := hpolicy.regraded "info" .info (by decide)
  have hr' : r = cyclesInfo := by
    have hcheck : cyclesRule.check = .ok (some cyclesInfo) := by decide +kernel
    rw [RuleEntry.check_eq_ok_some_iff.mpr hread] at hcheck
    exact Option.some.inj (Except.ok.inj hcheck)
  have hlost := hwithout (Graph.ofMentions RuleSet.mutualImports)
  rw [hr', check_cyclesInfo] at hlost
  have hchanged := hregraded (Graph.ofMentions RuleSet.mutualImports)
  rw [check_layered_policy hs hp] at hchanged
  exact ⟨s, r, p, hs, hr, hread, hp, ⟨s₁, hs₁, hwithout, hlost⟩, s₂, hs₂, hregraded, hchanged⟩

end Config

end ImportLint
