import ImportLint.Proofs.Config.Places
import ImportLint.Proofs.Config.Reading

/-!
# Faults of configurations

`Config.faults` lists everything that is wrong with a configuration, in the order in which it is checked, without
stopping at the first fault: the preset, the elements, repeated names, the merged rules, the boundaries, and the elements
that relations name and no pattern declares. An entry that is left out has no faults of its own. Loading succeeds if and
only if there is no fault, and otherwise fails with the first one (`Config.load_eq_error_iff`). This holds for any language
of patterns, so whichever texts are regular expressions and globs.
-/

namespace ImportLint

/-! ## Faults of texts -/

/-- What is wrong with a text as the name of an element. -/
def ElementName.fault? (text : String) : Option RuleError :=
  if text = "" then some .emptyElementName
  else if text.toList.all isElementChar then none
  else some (.invalidElementName text)

/-- A fault that may be there, with its place. -/
def faultAt (place : ConfigPlace) (fault? : Option RuleError) : List ConfigError :=
  (fault?.map (.invalid place)).toList

/-- The faults of a text as a severity. -/
def severityFaults (place : ConfigPlace) (text : String) : List ConfigError :=
  if text ∈ ["error", "warn", "warning", "info", "off", "ignore"] then [] else [.unknownSeverity place text]

/-- Whether a severity leaves its entry out. -/
def leavesOut (severity : String) : Bool := severity = "off" || severity = "ignore"

/-- Errors that are reported together, if there are any. -/
def faultsTogether (errors : List RuleError) : List ConfigError :=
  if errors = [] then [] else [.inconsistent errors]

/-- The faults of a text as a kind. -/
def RuleEntry.kindFaults (rule : String) (i : Nat) (text : String) : List ConfigError :=
  if text ∈ Kind.spellings then [] else [.unknownKind (.ruleField rule (.kind i)) text]

/-! ## Faults of entries without patterns -/

namespace RelationEntry

/-- The faults of a relation: of its source, then of its targets. -/
def faults (allows : Bool) (i : Nat) (e : RelationEntry) : List ConfigError :=
  faultAt (.relationSource allows i) (ElementName.fault? e.source) ++
    faultsEach (fun j text => faultAt (.relationTarget allows i j) (ElementName.fault? text)) e.targets

/-- The elements that a relation names and that are not declared. -/
def undeclared (declared : List String) (e : RelationEntry) : List RuleError :=
  ((e.source :: e.targets).filter (· ∉ declared)).map (.unknownElement e.source)

end RelationEntry

/-- The relations of boundaries, none if they are left out. -/
def BoundariesEntry.relations (b : BoundariesEntry) : List RelationEntry :=
  if leavesOut b.severity then [] else b.allow ++ b.disallow

namespace Config

/-- The faults of the name of the preset, if there is one. -/
def presetFaults (c : Config) : List ConfigError :=
  match c.preset? with
  | none => []
  | some name => if name ∈ ["recommended", "minimal", "none"] then [] else [.unknownPreset name]

/-- The rules of the preset that a configuration names, or of the recommended one. -/
def presetRules (c : Config) : List RuleEntry :=
  match c.preset? with
  | none => Preset.recommended.rules
  | some name => ((Preset.ofName? name).map Preset.rules).getD []

end Config

/-! ## Places at fault -/

/-- The place at fault, if an error has one. -/
def ConfigError.place? : ConfigError → Option ConfigPlace
  | invalid place _ => some place
  | unknownSeverity place _ => some place
  | unknownKind place _ => some place
  | _ => none

/-- A message about a place begins with the text for it. -/
theorem ConfigError.message_begins {e : ConfigError} {place : ConfigPlace} (h : e.place? = some place) {m : String}
    (hm : e.message = some m) : ∃ rest, m = "invalid config: " ++ (place.text ++ ": " ++ rest) := by
  obtain ⟨reason, hreason, rfl⟩ := Option.map_eq_some_iff.mp hm
  refine Exists.imp (fun _ => congrArg ("invalid config: " ++ ·)) ?_
  cases e with
  | invalid _ error =>
    cases h
    obtain ⟨rest, -, rfl⟩ := Option.map_eq_some_iff.mp hreason
    exact ⟨rest, rfl⟩
  | unknownSeverity _ value =>
    cases h
    cases hreason
    have hcolon : ": unknown severity `" = ": " ++ "unknown severity `" := rfl
    refine ⟨"unknown severity `" ++ value ++ "`, expected: error, warn, info, off", ?_⟩
    rw [hcolon]
    simp only [String.append_assoc]
  | unknownKind _ name =>
    cases h
    cases hreason
    exact ⟨_, rfl⟩
  | _ => cases h

/-! ## Checks without patterns -/

theorem ElementName.errorOf?_ofText (text : String) : errorOf? (ofText text) = fault? text := by
  rw [ofText, fault?]
  by_cases h : text = ""
  · rw [if_pos h, if_pos h]
    rfl
  · rw [if_neg h, if_neg h]
    have hvalid : isElementName text = true ↔ text.toList.all isElementChar = true := by
      simp [isElementName, h]
    by_cases hv : text.toList.all isElementChar = true
    · rw [dif_pos (hvalid.mpr hv), if_pos hv]
      rfl
    · rw [dif_neg (mt hvalid.mp hv), if_neg hv]
      rfl

theorem RuleError.errorOf?_at {α : Type} (place : ConfigPlace) {x : Except RuleError α} {fault? : Option RuleError}
    (h : errorOf? x = fault?) : errorOf? (RuleError.at place x) = (faultAt place fault?).head? := by
  subst h
  cases x <;> rfl

theorem errorOf?_severityOf (place : ConfigPlace) (text : String) :
    errorOf? (severityOf place text) = (severityFaults place text).head? := by
  unfold severityOf severityFaults
  split <;> simp_all

/-- A severity leaves its entry out if and only if it stands for none. -/
theorem severityOf_eq_ok {place : ConfigPlace} {text : String} {s? : Option Severity}
    (h : severityOf place text = .ok s?) : leavesOut text = true ↔ s? = none := by
  unfold severityOf at h
  split at h <;> cases h <;> simp [leavesOut]

theorem Kind.isSome_ofName?_iff (text : String) : (ofName? text).isSome = true ↔ text ∈ spellings := by
  unfold ofName?
  split <;> simp_all [spellings]

theorem Preset.isSome_ofName?_iff (text : String) :
    (ofName? text).isSome = true ↔ text ∈ ["recommended", "minimal", "none"] := by
  unfold ofName?
  split <;> simp_all

theorem RuleEntry.errorOf?_kindOf (rule : String) (i : Nat) (text : String) :
    errorOf? (kindOf rule i text) = (kindFaults rule i text).head? := by
  simp only [kindOf, kindFaults, ← Kind.isSome_ofName?_iff]
  cases Kind.ofName? text <;> rfl

theorem RelationEntry.errorOf?_check (allows : Bool) (i : Nat) (e : RelationEntry) :
    errorOf? (e.check allows i) = (e.faults allows i).head? := by
  refine errorOf?_bind (RuleError.errorOf?_at _ (ElementName.errorOf?_ofText _)) fun source _ => ?_
  rw [bind_pure_comp, errorOf?_map]
  exact errorOf?_checkEach (fun j text => RuleError.errorOf?_at _ (ElementName.errorOf?_ofText text)) _

theorem BoundariesEntry.errorOf?_defaultOf (text : String) :
    errorOf? (defaultOf text) =
      (if text ∈ ["allow", "disallow"] then [] else [ConfigError.unknownDefault text]).head? := by
  unfold defaultOf
  split <;> simp_all

namespace Config

variable (c : Config)

theorem errorOf?_preset : errorOf? c.preset = c.presetFaults.head? := by
  unfold preset presetFaults
  cases c.preset? with
  | none => rfl
  | some name =>
    simp only [← Preset.isSome_ofName?_iff]
    cases Preset.ofName? name <;> rfl

theorem presetRules_eq {p : Preset} (h : c.preset = .ok p) : c.presetRules = p.rules := by
  unfold preset at h
  unfold presetRules
  cases hp : c.preset? with
  | none =>
    rw [hp] at h
    cases h
    rfl
  | some name =>
    rw [hp] at h
    cases hn : Preset.ofName? name with
    | none => simp [hn] at h
    | some q =>
      simp only [hn] at h
      cases h
      simp [hn]

theorem errorOf?_mergedRules (p : Preset) :
    errorOf? (c.mergedRules p) =
      (faultsTogether ((repeatedNames (c.rules.map RuleEntry.name)).map .duplicateRule)).head? := by
  rw [mergedRules_eq]
  cases repeatedNames (c.rules.map RuleEntry.name) <;> rfl

end Config

section

variable [PatternLanguage]

/-! ## Faults of patterns -/

/-- What is wrong with a text as a pattern. -/
def PathPattern.fault? (text : String) : Option RuleError :=
  if (PatternLanguage.regex? text).isSome then none else some (.invalidRegex text)

/-- What is wrong with a text as a glob. -/
def GlobPattern.fault? (text : String) : Option RuleError :=
  if text = "" then some .emptyGlob
  else
    match PatternLanguage.glob text with
    | .ok _ => none
    | .error reason => some (.invalidGlob text reason)

/-- The faults of a pattern that may be left out. -/
def patternFaults (place : ConfigPlace) (text? : Option String) : List ConfigError :=
  faultAt place (text?.bind PathPattern.fault?)

/-! ## Faults of entries -/

/-- The faults of an element: of its name, then of its pattern. -/
def ElementEntry.faults (i : Nat) (e : ElementEntry) : List ConfigError :=
  faultAt (.elementName i) (ElementName.fault? e.element) ++ faultAt (.elementPattern i) (PathPattern.fault? e.pattern)

namespace RuleEntry

/-- The faults of a rule that is not left out. -/
def partFaults (e : RuleEntry) : List ConfigError :=
  patternFaults (.ruleField e.name .sourcePath) e.source.path? ++
    patternFaults (.ruleField e.name .sourcePathNot) e.source.pathNot? ++
    faultsEach (kindFaults e.name) e.target.kinds ++
    patternFaults (.ruleField e.name .targetPath) e.target.path? ++
    patternFaults (.ruleField e.name .targetPathNot) e.target.pathNot? ++
    (if e.name = "" then [.invalid (.rule e.name) .emptyRuleName] else []) ++
    (if e.source.orphan?.isSome ∧ e.target ≠ .blank then [.invalid (.rule e.name) (.orphanRuleWithTarget e.name)]
      else [])

/-- The faults of a rule: of its severity, then of its parts, unless the severity leaves it out. -/
def faults (e : RuleEntry) : List ConfigError :=
  severityFaults (.rule e.name) e.severity ++ if leavesOut e.severity then [] else e.partFaults

end RuleEntry

namespace BoundariesEntry

/-- The faults of boundaries that are not left out: of the globs, then of the relations. -/
def partFaults (b : BoundariesEntry) : List ConfigError :=
  faultsEach (fun i text => faultAt (.ignore i) (GlobPattern.fault? text)) b.ignore ++
    faultsEach (RelationEntry.faults true) b.allow ++ faultsEach (RelationEntry.faults false) b.disallow

/-- The faults of boundaries: of the default, then of the severity, then of the parts, unless the severity leaves them
out. -/
def faults (b : BoundariesEntry) : List ConfigError :=
  (if b.default ∈ ["allow", "disallow"] then [] else [.unknownDefault b.default]) ++
    severityFaults .boundaries b.severity ++ if leavesOut b.severity then [] else b.partFaults

end BoundariesEntry

namespace Config

/-- Everything that is wrong with a configuration, in the order of the checks. -/
def faults (c : Config) : List ConfigError :=
  c.presetFaults ++
    faultsEach ElementEntry.faults c.elements ++
    faultsTogether ((repeatedNames (c.rules.map RuleEntry.name)).map .duplicateRule) ++
    (mergeEntries c.presetRules c.rules).flatMap RuleEntry.faults ++
    c.boundaries?.toList.flatMap BoundariesEntry.faults ++
    faultsTogether ((c.boundaries?.toList.flatMap BoundariesEntry.relations).flatMap
      (RelationEntry.undeclared (c.elements.map ElementEntry.element)))

end Config

/-! ## Checks of patterns -/

theorem PathPattern.errorOf?_ofText (text : String) : errorOf? (ofText text) = fault? text := by
  rw [ofText, fault?]
  split
  · next h => simp [h]
  · next h => simp [h]

theorem GlobPattern.errorOf?_ofText (text : String) : errorOf? (ofText text) = fault? text := by
  rw [ofText, fault?]
  by_cases h : text = ""
  · rw [if_pos h, if_pos h]
    rfl
  · rw [if_neg h, if_neg h]
    split
    · next h => simp [h]
    · next h => simp [h]

theorem errorOf?_patternOf (place : ConfigPlace) (text? : Option String) :
    errorOf? (patternOf place text?) = (patternFaults place text?).head? := by
  cases text? with
  | none => rfl
  | some text =>
    rw [patternOf, errorOf?_map]
    exact RuleError.errorOf?_at place (PathPattern.errorOf?_ofText text)

/-! ## Checks of entries -/

theorem ElementEntry.errorOf?_check (i : Nat) (e : ElementEntry) : errorOf? (e.check i) = (e.faults i).head? := by
  refine errorOf?_bind (RuleError.errorOf?_at _ (ElementName.errorOf?_ofText _)) fun name _ => ?_
  rw [bind_pure_comp, errorOf?_map]
  exact RuleError.errorOf?_at _ (PathPattern.errorOf?_ofText _)

theorem Rule.errorOf?_ofParts (name : String) (severity : Severity) (comment? : Option String) (source : PathFilter)
    (orphan? : Option Bool) (target : TargetFilter) :
    errorOf? (ofParts name severity comment? source orphan? target) =
      if name = "" then some .emptyRuleName
      else if orphan?.isSome ∧ target.isEmpty = false then some (.orphanRuleWithTarget name)
      else none := by
  rw [ofParts]
  by_cases h : name = ""
  · rw [dif_pos h, if_pos h]
    rfl
  · rw [dif_neg h, if_neg h]
    cases orphan? with
    | none => simp
    | some b => cases ht : target.isEmpty <;> simp

namespace RuleEntry

theorem errorOf?_checkParts (e : RuleEntry) (severity : Severity) :
    errorOf? (e.checkParts severity) = e.partFaults.head? := by
  unfold checkParts partFaults
  simp only [List.append_assoc]
  refine errorOf?_bind (errorOf?_patternOf _ _) fun sourcePath? _ => ?_
  refine errorOf?_bind (errorOf?_patternOf _ _) fun sourceNot? _ => ?_
  refine errorOf?_bind (errorOf?_checkEach (errorOf?_kindOf _) _) fun kinds hkinds => ?_
  refine errorOf?_bind (errorOf?_patternOf _ _) fun targetPath? hpath => ?_
  refine errorOf?_bind (errorOf?_patternOf _ _) fun targetNot? hnot => ?_
  have htarget : e.target.Reads ⟨⟨targetPath?, targetNot?⟩, e.target.circular?, e.target.unresolvable?, kinds⟩ :=
    ⟨patternOf_eq_ok_iff.mp hpath, patternOf_eq_ok_iff.mp hnot, rfl, rfl, kindsOf_eq_ok_iff.mp hkinds⟩
  rw [RuleError.errorOf?_at _ (Rule.errorOf?_ofParts ..)]
  simp only [← Bool.not_eq_true, TargetFilter.isEmpty_iff, htarget.eq_none_iff]
  split_ifs <;> rfl

theorem errorOf?_check (e : RuleEntry) : errorOf? e.check = e.faults.head? := by
  refine errorOf?_bind (errorOf?_severityOf _ _) fun severity? h => ?_
  have hout := severityOf_eq_ok h
  cases severity? with
  | none =>
    rw [if_pos (hout.mpr rfl)]
    rfl
  | some severity =>
    rw [if_neg fun ho => by simpa using hout.mp ho, errorOf?_map]
    exact e.errorOf?_checkParts severity

end RuleEntry

namespace BoundariesEntry

theorem errorOf?_checkParts (b : BoundariesEntry) (allowByDefault : Bool) (severity : Severity) :
    errorOf? (b.checkParts allowByDefault severity) = b.partFaults.head? := by
  unfold checkParts partFaults
  rw [List.append_assoc]
  refine errorOf?_bind (errorOf?_checkEach (fun i text =>
    RuleError.errorOf?_at _ (GlobPattern.errorOf?_ofText text)) _) fun ignore _ => ?_
  refine errorOf?_bind (errorOf?_checkEach (RelationEntry.errorOf?_check true) _) fun allow _ => ?_
  rw [bind_pure_comp, errorOf?_map]
  exact errorOf?_checkEach (RelationEntry.errorOf?_check false) _

theorem errorOf?_check (b : BoundariesEntry) : errorOf? b.check = b.faults.head? := by
  unfold faults
  rw [List.append_assoc]
  refine errorOf?_bind (errorOf?_defaultOf _) fun allowByDefault _ => ?_
  refine errorOf?_bind (errorOf?_severityOf _ _) fun severity? h => ?_
  have hout := severityOf_eq_ok h
  cases severity? with
  | none =>
    rw [if_pos (hout.mpr rfl)]
    rfl
  | some severity =>
    rw [if_neg fun ho => by simpa using hout.mp ho, errorOf?_map]
    exact b.errorOf?_checkParts allowByDefault severity

end BoundariesEntry

/-! ## Loading -/

/-- The elements that a relation names and that are not declared, by texts and by names. -/
theorem RelationEntry.Reads.undeclared_eq {e : RelationEntry} {r : Relation} (h : e.Reads r)
    (elements : List ElementPattern) :
    RuleSet.undeclared elements r = e.undeclared (elements.map fun p => p.element.text) := by
  have hnames : e.source :: e.targets = r.names.map ElementName.text := by
    rw [← h.1, ← h.2]
    rfl
  have hdeclared : ∀ n : ElementName, n.text ∈ elements.map (fun p => p.element.text) ↔
      (elements.any fun p => p.element == n) = true := fun n => by
    rw [List.mem_map, List.any_eq_true]
    refine exists_congr fun p => and_congr_right fun _ => ?_
    exact ⟨fun ht => beq_iff_eq.mpr (ElementName.eq_of_text_eq ht), fun hb => congrArg _ (beq_iff_eq.mp hb)⟩
  rw [RelationEntry.undeclared, hnames, List.filter_map, List.map_map, RuleSet.undeclared, h.1]
  refine congrArg _ (List.filter_congr fun n _ => ?_)
  rw [Function.comp_apply, decide_not, ← Bool.decide_coe (elements.any _)]
  exact congrArg _ (decide_eq_decide.mpr (hdeclared n).symm)

/-- The names of rules are the names of their entries, less those of entries that are left out. -/
theorem RuleEntry.names_sublist {es : List RuleEntry} {rs? : List (Option Rule)}
    (h : List.Forall₂ (fun e r? => RuleEntry.check e = .ok r?) es rs?) :
    ((rs?.filterMap id).map Rule.name).Sublist (es.map RuleEntry.name) := by
  induction h with
  | nil => exact .slnil
  | @cons e r? es rs? hcheck _ ih =>
    cases r? with
    | none => exact ih.cons _
    | some r =>
      have hname : r.name = e.name := (RuleEntry.check_eq_ok_some_iff.mp hcheck).name
      show (r.name :: (rs?.filterMap id).map Rule.name).Sublist (e.name :: es.map RuleEntry.name)
      rw [hname]
      exact ih.cons_cons _

namespace Config

variable (c : Config)

theorem errorOf?_policy : errorOf? c.policy = (c.boundaries?.toList.flatMap BoundariesEntry.faults).head? := by
  unfold policy
  cases c.boundaries? with
  | none => rfl
  | some b => simpa using b.errorOf?_check

/-- The relations of a policy are those that are written. -/
theorem relations_read {policy? : Option Policy} (h : c.policy = .ok policy?) :
    List.Forall₂ RelationEntry.Reads (c.boundaries?.toList.flatMap BoundariesEntry.relations)
      (policy?.toList.flatMap Policy.relations) := by
  unfold policy at h
  cases hb : c.boundaries? with
  | none =>
    rw [hb] at h
    cases h
    exact .nil
  | some b =>
    rw [hb] at h
    cases policy? with
    | none =>
      have hout := severityOf_eq_ok (BoundariesEntry.check_eq_ok_none_iff.mp h).2
      simp [BoundariesEntry.relations, hout.mpr rfl]
    | some p =>
      have hreads := BoundariesEntry.check_eq_ok_some_iff.mp h
      have hout := severityOf_eq_ok hreads.severity
      have hkept : ¬leavesOut b.severity = true := fun ho => by simpa using hout.mp ho
      simpa [BoundariesEntry.relations, hkept, Policy.relations] using List.rel_append hreads.allow hreads.disallow

/-- What is wrong with parts that are right by themselves: elements that are named and not declared. -/
theorem problems_eq {elements : List ElementPattern} {p : Preset} {rules? : List (Option Rule)}
    {policy? : Option Policy} (helements : List.Forall₂ ElementEntry.Reads c.elements elements)
    (hnames : (c.rules.map RuleEntry.name).Nodup)
    (hrules : List.Forall₂ (fun e r? => RuleEntry.check e = .ok r?) (mergeEntries p.rules c.rules) rules?)
    (hpolicy : c.policy = .ok policy?) :
    RuleSet.problems elements (rules?.filterMap id) policy? =
      (c.boundaries?.toList.flatMap BoundariesEntry.relations).flatMap
        (RelationEntry.undeclared (c.elements.map ElementEntry.element)) := by
  have hnodup := (mergeEntries_names_nodup p.names_nodup hnames).sublist (RuleEntry.names_sublist hrules)
  have hduplicates : RuleSet.duplicates [] (rules?.filterMap id) = [] :=
    (RuleSet.duplicates_eq_nil_iff _ _).mpr ⟨hnodup, fun _ _ => List.not_mem_nil⟩
  have hdeclared : c.elements.map ElementEntry.element = elements.map fun p => p.element.text := by
    rw [← List.forall₂_eq_eq_eq, List.forall₂_map_left_iff, List.forall₂_map_right_iff]
    exact helements.imp fun _ _ h => h.1.symm
  rw [RuleSet.problems, hduplicates, List.nil_append, hdeclared, ← List.forall₂_eq_eq_eq]
  refine List.rel_flatMap (c.relations_read hpolicy).flip fun r e h => ?_
  rw [List.forall₂_eq_eq_eq]
  exact RelationEntry.Reads.undeclared_eq h elements

/-- Loading fails with the first fault. -/
theorem errorOf?_load : errorOf? c.load = c.faults.head? := by
  unfold load faults
  simp only [List.append_assoc]
  refine errorOf?_bind c.errorOf?_preset fun p hp => ?_
  refine errorOf?_bind (errorOf?_checkEach ElementEntry.errorOf?_check _) fun elements helements => ?_
  refine errorOf?_bind (c.errorOf?_mergedRules p) fun entries hentries => ?_
  obtain ⟨hnames, rfl⟩ := mergedRules_eq_ok_iff.mp hentries
  rw [c.presetRules_eq hp]
  refine errorOf?_bind (errorOf?_mapM RuleEntry.errorOf?_check _) fun rules? hrules => ?_
  refine errorOf?_bind c.errorOf?_policy fun policy? hpolicy => ?_
  rw [← c.problems_eq (elementsOf_eq_ok_iff.mp helements) hnames (mapM_eq_ok_iff.mp hrules) hpolicy, faultsTogether,
    RuleSet.ofParts]
  split_ifs <;> rfl

/-- Whatever texts are patterns and globs, loading succeeds if and only if nothing is wrong with the configuration, and
otherwise fails with what is wrong first. If that is at some place, the message begins with the text for the place, which
is the text for no other. -/
theorem load_eq_error_iff :
    ((∃ s, c.load = .ok s) ↔ c.faults = []) ∧ (∀ e, c.load = .error e ↔ c.faults.head? = some e) ∧
      ∀ e place, c.load = .error e → e.place? = some place →
        (∀ m, e.message = some m → ∃ rest, m = "invalid config: " ++ (place.text ++ ": " ++ rest)) ∧
        ∀ other : ConfigPlace, other.text = place.text → other = place := by
  refine ⟨?_, fun e => ?_, fun e place _ hplace => ⟨fun m => ConfigError.message_begins hplace, fun other => ?_⟩⟩
  · rw [← errorOf?_eq_none_iff, errorOf?_load, List.head?_eq_none_iff]
  · rw [← errorOf?_eq_some_iff, errorOf?_load]
  · exact fun h => ConfigPlace.text_injective h

end Config

end

namespace Config

/-- Two rules with a fault each: a kind that there is not, and a severity that there is not. -/
def twoFaults : Config :=
  { Config.blank with
    rules :=
      [{ name := "packages", severity := "warn", comment? := none, source := .blank,
         target := { TargetEntry.blank with kinds := ["npm", "nmp"] } },
       { name := "layers", severity := "fatal", comment? := none, source := .blank, target := .blank }] }

theorem load_twoFaults :
    twoFaults.faults =
        [.unknownKind (.ruleField "packages" (.kind 1)) "nmp", .unknownSeverity (.rule "layers") "fatal"] ∧
      ∃ e, twoFaults.load = .error e ∧ e.place? = some (.ruleField "packages" (.kind 1)) ∧
        e.message = some ("invalid config: forbidden 'packages' to.dependency_types[1]: unknown dependency type `nmp`, " ++
          "expected one of: internal, npm, npm-dev, deprecated, core, unresolvable") ∧
        ∀ other : ConfigPlace, other.text = "forbidden 'packages' to.dependency_types[1]" →
          other = .ruleField "packages" (.kind 1) := by
  have hfaults : twoFaults.faults =
      [.unknownKind (.ruleField "packages" (.kind 1)) "nmp", .unknownSeverity (.rule "layers") "fatal"] := by
    decide +kernel
  obtain ⟨-, herror, hplace⟩ := twoFaults.load_eq_error_iff
  have hload := (herror (.unknownKind (.ruleField "packages" (.kind 1)) "nmp")).mpr (by rw [hfaults]; rfl)
  exact ⟨hfaults, _, hload, rfl, by decide +kernel, (hplace _ _ hload rfl).2⟩

end Config

end ImportLint
