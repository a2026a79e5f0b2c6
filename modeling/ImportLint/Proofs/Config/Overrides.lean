import ImportLint.Proofs.Config.Faults

/-!
# Overridden rules

What is loaded of the rules of a preset and those of a configuration. If the configuration uses names twice, loading fails
with each of them once, whatever the severities of the entries. If it does not, no error is about a repeated name: the one
check for them behind the merge finds none. The rules that are loaded are the merged entries that are not left out, each
read as a rule in its place (`Config.load_rules`).
-/

namespace ImportLint

/-! ## Errors about repeated names -/

/-- What is wrong with the parts of a rule set, as an error reports it. -/
def ConfigError.defects : ConfigError → List RuleError
  | .invalid _ e => [e]
  | .inconsistent es => es
  | _ => []

/-- None of the errors reports a name that is used twice. -/
def NoRepetition (es : List ConfigError) : Prop := ∀ e ∈ es, ∀ n, .duplicateRule n ∉ e.defects

namespace NoRepetition

variable {α : Type} {es fs : List ConfigError}

theorem nil : NoRepetition [] := by
  intro e he
  cases he

theorem append (h : NoRepetition es) (h' : NoRepetition fs) : NoRepetition (es ++ fs) := by
  intro e he
  rcases List.mem_append.mp he with he | he
  · exact h e he
  · exact h' e he

theorem flatMap {xs : List α} {faults : α → List ConfigError} (h : ∀ x ∈ xs, NoRepetition (faults x)) :
    NoRepetition (xs.flatMap faults) := by
  intro e he
  obtain ⟨x, hx, he⟩ := List.mem_flatMap.mp he
  exact h x hx e he

theorem faultsEach {faults : Nat → α → List ConfigError} (h : ∀ i x, NoRepetition (faults i x)) (xs : List α) :
    NoRepetition (faultsEach faults xs) := by
  apply flatMap
  intro p _
  exact h p.2 p.1

theorem faultAt {place : ConfigPlace} {fault? : Option RuleError} (h : ∀ n, fault? ≠ some (.duplicateRule n)) :
    NoRepetition (faultAt place fault?) := by
  intro e he n hn
  cases fault? with
  | none => cases he
  | some r =>
    have he : e = .invalid place r := List.mem_singleton.mp he
    rw [he] at hn
    exact h n (congrArg some (List.mem_singleton.mp hn).symm)

/-- An error that is not about the parts of a rule set. -/
theorem of_defects {e : ConfigError} (h : e.defects = []) : NoRepetition [e] := by
  intro x hx n
  rw [List.mem_singleton.mp hx, h]
  exact List.not_mem_nil

/-! ### Texts and relations -/

theorem elementName (place : ConfigPlace) (text : String) :
    NoRepetition (ImportLint.faultAt place (ElementName.fault? text)) := by
  apply faultAt
  intro n
  unfold ElementName.fault?
  split_ifs <;> simp

theorem severity (place : ConfigPlace) (text : String) : NoRepetition (severityFaults place text) := by
  unfold severityFaults
  split_ifs
  · exact nil
  · exact of_defects rfl

theorem kind (rule : String) (i : Nat) (text : String) : NoRepetition (RuleEntry.kindFaults rule i text) := by
  unfold RuleEntry.kindFaults
  split_ifs
  · exact nil
  · exact of_defects rfl

theorem relation (allows : Bool) (i : Nat) (e : RelationEntry) : NoRepetition (e.faults allows i) :=
  (elementName _ _).append (faultsEach (fun _ text => elementName _ text) _)

theorem undeclared (declared : List String) (es : List RelationEntry) :
    NoRepetition (faultsTogether (es.flatMap (RelationEntry.undeclared declared))) := by
  unfold faultsTogether
  split_ifs
  · exact nil
  · intro e he n hn
    rw [List.mem_singleton.mp he] at hn
    obtain ⟨r, -, hr⟩ := List.mem_flatMap.mp hn
    obtain ⟨_, -, hname⟩ := List.mem_map.mp hr
    cases hname

/-! ### Patterns -/

variable [PatternLanguage]

theorem pathPattern (place : ConfigPlace) (text : String) :
    NoRepetition (ImportLint.faultAt place (PathPattern.fault? text)) := by
  apply faultAt
  intro n
  unfold PathPattern.fault?
  split_ifs <;> simp

theorem globPattern (place : ConfigPlace) (text : String) :
    NoRepetition (ImportLint.faultAt place (GlobPattern.fault? text)) := by
  apply faultAt
  intro n
  unfold GlobPattern.fault?
  split_ifs
  · simp
  · split <;> simp

theorem pattern (place : ConfigPlace) (text? : Option String) : NoRepetition (patternFaults place text?) := by
  cases text? with
  | none => exact nil
  | some text => exact pathPattern place text

/-! ### Entries -/

theorem element (i : Nat) (e : ElementEntry) : NoRepetition (e.faults i) :=
  (elementName _ _).append (pathPattern _ _)

theorem ruleParts (e : RuleEntry) : NoRepetition e.partFaults := by
  unfold RuleEntry.partFaults
  refine (((((pattern _ _).append (pattern _ _)).append (faultsEach (kind e.name) _)).append (pattern _ _)).append
    (pattern _ _)).append ?_ |>.append ?_
  · split_ifs
    · have hname : ∀ n, some RuleError.emptyRuleName ≠ some (.duplicateRule n) := by simp
      exact faultAt hname
    · exact nil
  · split_ifs
    · have htarget : ∀ n, some (RuleError.orphanRuleWithTarget e.name) ≠ some (.duplicateRule n) := by simp
      exact faultAt htarget
    · exact nil

theorem rule (e : RuleEntry) : NoRepetition e.faults := by
  unfold RuleEntry.faults
  apply (severity _ _).append
  split_ifs
  · exact nil
  · exact ruleParts e

theorem boundaries (b : BoundariesEntry) : NoRepetition b.faults := by
  unfold BoundariesEntry.faults
  refine (append ?_ (severity _ _)).append ?_
  · split_ifs
    · exact nil
    · exact of_defects rfl
  · split_ifs
    · exact nil
    · exact ((faultsEach (fun _ text => globPattern _ text) _).append (faultsEach (relation true) _)).append
        (faultsEach (relation false) _)

/-- If no name is used twice, no fault of a configuration is about a repeated name. -/
theorem config {c : Config} (hn : (c.rules.map RuleEntry.name).Nodup) : NoRepetition c.faults := by
  have hpreset : NoRepetition c.presetFaults := by
    unfold Config.presetFaults
    split
    · exact nil
    · split_ifs
      · exact nil
      · exact of_defects rfl
  have hnames : NoRepetition (faultsTogether ((repeatedNames (c.rules.map RuleEntry.name)).map .duplicateRule)) := by
    rw [(repeatedNames_eq_nil_iff _).mpr hn]
    exact nil
  unfold Config.faults
  apply append _ (undeclared _ _)
  apply append _ (flatMap fun b _ => boundaries b)
  apply append _ (flatMap fun e _ => rule e)
  exact (hpreset.append (faultsEach element _)).append hnames

end NoRepetition

/-! ## The rules that are loaded -/

section

variable [PatternLanguage]

/-- What the checks of entries give: the entries that are not left out, each read as a rule. -/
theorem RuleEntry.reads_kept {es : List RuleEntry} {rs? : List (Option Rule)}
    (h : List.Forall₂ (fun e r? => RuleEntry.check e = .ok r?) es rs?) :
    List.Forall₂ Reads (es.filter fun e => !leavesOut e.severity) (rs?.filterMap id) := by
  induction h with
  | nil => exact .nil
  | @cons e r? es rs? hcheck _ ih =>
    cases r? with
    | none =>
      have hout : leavesOut e.severity = true := (severityOf_eq_ok (check_eq_ok_none_iff.mp hcheck)).mpr rfl
      simpa [hout] using ih
    | some r =>
      have hr : e.Reads r := check_eq_ok_some_iff.mp hcheck
      have hkept : leavesOut e.severity = false := by
        rw [← Bool.not_eq_true, severityOf_eq_ok hr.severity]
        simp
      simpa [hkept] using ⟨hr, ih⟩

namespace Config

/-- With the rules of a preset. If names are used twice, loading fails with one error for each of them, in the order in
which they are used for the second time, as soon as the elements are read. If none is, no error is about a repeated name,
and the rules that are loaded are the merged entries that are not left out: those of the preset in their order, each
replaced by the entry with its name if there is one, then the other entries in their order. So no two rules share a name,
and no entry is lost. -/
theorem load_rules {c : Config} {p : Preset} (hp : c.preset = .ok p) :
    (¬(c.rules.map RuleEntry.name).Nodup → (∀ e ∈ c.elements, ∃ q, ElementEntry.Reads e q) →
      c.load = .error (.inconsistent ((repeatedNames (c.rules.map RuleEntry.name)).map .duplicateRule)) ∧
      (repeatedNames (c.rules.map RuleEntry.name)).Nodup ∧
      ∀ n, n ∈ repeatedNames (c.rules.map RuleEntry.name) ↔ 1 < (c.rules.map RuleEntry.name).count n) ∧
    ((c.rules.map RuleEntry.name).Nodup →
      (∀ e, c.load = .error e → ∀ n, .duplicateRule n ∉ e.defects) ∧
      ∀ s, c.load = .ok s →
        List.Forall₂ RuleEntry.Reads ((mergeEntries p.rules c.rules).filter fun e => !leavesOut e.severity) s.rules ∧
        (s.rules.map Rule.name).Nodup ∧
        ∀ e ∈ c.rules, leavesOut e.severity = false → ∃ r ∈ s.rules, e.Reads r) := by
  constructor
  · intro hrepeated hread
    refine ⟨?_, repeatedNames_nodup _, mem_repeatedNames _⟩
    obtain ⟨elements, helements⟩ := exists_forall₂ hread
    have hchecked := elementsOf_eq_ok_iff.mpr helements
    have hmerged := c.mergedRules_eq p
    cases hnames : repeatedNames (c.rules.map RuleEntry.name) with
    | nil => exact absurd ((repeatedNames_eq_nil_iff _).mp hnames) hrepeated
    | cons n names =>
      rw [hnames] at hmerged
      simp only [load, hp, hchecked, hmerged, bind, Except.bind]
  · intro hn
    constructor
    · intro e he
      have hfirst : c.faults.head? = some e := by
        rw [← errorOf?_load, he]
        rfl
      exact NoRepetition.config hn e (List.mem_of_head? hfirst)
    · intro s hs
      obtain ⟨q, hq, rules?, hrules, hkept⟩ := (load_eq_ok_iff.mp hs).rules
      cases hp.symm.trans hq
      have hreads := RuleEntry.reads_kept hrules
      rw [← hkept] at hreads
      refine ⟨hreads, s.names_nodup, ?_⟩
      intro e he henabled
      have hmem : e ∈ (mergeEntries p.rules c.rules).filter fun e => !leavesOut e.severity := by
        simp [mem_mergeEntries hn he, henabled]
      obtain ⟨before, behind, hsplit⟩ := List.append_of_mem hmem
      rw [hsplit] at hreads
      obtain ⟨_, r, _, hrs, -, hr, -⟩ := forall₂_split hreads
      refine ⟨r, ?_, hr⟩
      rw [hrs]
      exact List.mem_append_right _ List.mem_cons_self

end Config

end

namespace Config

/-- A rule with a severity, for packages by their kinds. -/
def kindsRule (name severity : String) (kinds : List String) : RuleEntry :=
  { name := name, severity := severity, comment? := none, source := .blank,
    target := { TargetEntry.blank with kinds := kinds } }

/-- One rule in the place of a rule of the preset, one that takes out a rule of the preset, and one of its own. -/
def overriding : Config :=
  { Config.blank with
    rules := [kindsRule "no-builtins" "info" ["core"], kindsRule "no-orphans" "off" [],
      kindsRule "no-deprecated" "warn" ["deprecated", "npm-dev"]] }

/-- The same rules and two of them once more, one of which is left out. -/
def overridingTwice : Config :=
  { overriding with
    rules := overriding.rules ++ [kindsRule "no-deprecated" "off" [], kindsRule "no-builtins" "error" [],
      kindsRule "no-deprecated" "warn" []] }

theorem load_rules_overriding :
    (overridingTwice.preset = .ok .recommended ∧
      overridingTwice.load =
        .error (.inconsistent [.duplicateRule "no-deprecated", .duplicateRule "no-builtins"])) ∧
    overriding.preset = .ok .recommended ∧
    ∃ s, overriding.load = .ok s ∧
      s.rules.map Rule.name =
        ["not-to-unresolvable", "no-circular", "not-to-dev-dep", "no-deprecated", "no-builtins"] ∧
      ∃ r ∈ s.rules, r.name = "no-deprecated" ∧ r.severity = .warning := by
  have htwice := (load_rules (c := overridingTwice) (p := .recommended) rfl).1 (by decide) nofun
  obtain ⟨-, honce⟩ := (load_rules (c := overriding) (p := .recommended) rfl).2 (by decide)
  obtain ⟨s, hs⟩ : ∃ s, overriding.load = .ok s := errorOf?_eq_none_iff.mp (by decide +kernel)
  obtain ⟨hreads, -, hkept⟩ := honce s hs
  refine ⟨⟨rfl, htwice.1⟩, rfl, s, hs, ?_, ?_⟩
  · have hnames : s.rules.map Rule.name =
        ((mergeEntries Preset.recommended.rules overriding.rules).filter
          fun e => !leavesOut e.severity).map RuleEntry.name := by
      rw [← List.forall₂_eq_eq_eq, List.forall₂_map_left_iff, List.forall₂_map_right_iff]
      exact hreads.flip.imp fun r e h => h.name
    rw [hnames]
    decide
  · obtain ⟨r, hr, hread⟩ := hkept (kindsRule "no-deprecated" "warn" ["deprecated", "npm-dev"]) (by decide) (by decide)
    have hseverity : (some r.severity) = some .warning := (Except.ok.inj hread.severity).symm
    exact ⟨r, hr, hread.name, Option.some.inj hseverity⟩

end Config

end ImportLint
