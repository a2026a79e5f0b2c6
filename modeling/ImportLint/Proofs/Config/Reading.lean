import ImportLint.Proofs.Config.Merge
import ImportLint.Proofs.Config.Recommended
import ImportLint.Proofs.Rule.Set
import ImportLint.Proofs.Sequence

/-!
# What entries are read as

What the checks of the entries of a configuration give when they succeed: names and patterns are told by their texts,
lists are read item by item, and places show only in errors. `Config.load_eq_ok_iff` says which rule set a configuration
is loaded as.
-/

namespace ImportLint

/-! ## Lists -/

section

variable {α β : Type} {check : Nat → α → Except ConfigError β}

/-- The faults of the items of a list, each with its index. -/
def faultsEach (faults : Nat → α → List ConfigError) (xs : List α) : List ConfigError :=
  xs.zipIdx.flatMap fun (x, i) => faults i x

theorem errorOf?_checkEach {faults : Nat → α → List ConfigError}
    (h : ∀ i x, errorOf? (check i x) = (faults i x).head?) (xs : List α) :
    errorOf? (checkEach check xs) = (faultsEach faults xs).head? := by
  have hp : ∀ p : α × Nat, errorOf? (check p.2 p.1) = (faults p.2 p.1).head? := fun p => h p.2 p.1
  exact errorOf?_mapM hp xs.zipIdx

/-- Where the index shows only in errors, a list of checks gives what each check gives. -/
theorem checkEach_eq_ok_iff {R : α → β → Prop} (h : ∀ i x y, check i x = .ok y ↔ R x y) {xs : List α} {ys : List β} :
    checkEach check xs = .ok ys ↔ List.Forall₂ R xs ys := by
  rw [checkEach, mapM_eq_ok_iff]
  simp only [h]
  have hfst : xs.zipIdx.map Prod.fst = xs := List.zipIdx_map_fst 0 xs
  rw [← List.forall₂_map_left_iff (f := Prod.fst), hfst]

end

/-! ## Texts -/

theorem RuleError.at_eq_ok_iff {α : Type} {place : ConfigPlace} {x : Except RuleError α} {a : α} :
    RuleError.at place x = .ok a ↔ x = .ok a := by
  cases x <;> simp [RuleError.at]

theorem ElementName.eq_of_text_eq {a b : ElementName} (h : a.text = b.text) : a = b := by
  cases a
  cases h
  rfl

theorem ElementName.ofText_eq_ok_iff {text : String} {n : ElementName} : ofText text = .ok n ↔ n.text = text := by
  constructor
  · intro h
    unfold ofText at h
    split_ifs at h
    exact (Except.ok.inj h) ▸ rfl
  · rintro rfl
    have hne : n.text ≠ "" := fun h => by
      have hv := n.valid
      rw [h] at hv
      exact absurd hv (by decide)
    rw [ofText, if_neg hne, dif_pos n.valid]

/-! ## Kinds, relations and merged rules -/

/-- Texts are read as kinds one by one. -/
theorem RuleEntry.kindsOf_eq_ok_iff {rule : String} {texts : List String} {kinds : List Kind} :
    checkEach (kindOf rule) texts = .ok kinds ↔
      List.Forall₂ (fun text k => Kind.ofName? text = some k) texts kinds := by
  refine checkEach_eq_ok_iff fun i text k => ?_
  rw [kindOf]
  cases Kind.ofName? text <;> simp

/-- The entry is read as a relation between elements. -/
def RelationEntry.Reads (e : RelationEntry) (r : Relation) : Prop :=
  r.source.text = e.source ∧ r.targets.map ElementName.text = e.targets

theorem RelationEntry.check_eq_ok_iff {allows : Bool} {i : Nat} {e : RelationEntry} {r : Relation} :
    e.check allows i = .ok r ↔ e.Reads r := by
  have hnames : ∀ targets, checkEach (fun j t => RuleError.at (.relationTarget allows i j) (ElementName.ofText t))
      e.targets = .ok targets ↔ targets.map ElementName.text = e.targets := by
    intro targets
    rw [← forall₂_iff_map_eq]
    refine checkEach_eq_ok_iff fun j t n => ?_
    rw [RuleError.at_eq_ok_iff, ElementName.ofText_eq_ok_iff]
  simp only [check, bind_eq_ok_iff, RuleError.at_eq_ok_iff, ElementName.ofText_eq_ok_iff, hnames]
  constructor
  · rintro ⟨n, hn, targets, ht, he⟩
    cases he
    exact ⟨hn, ht⟩
  · rintro ⟨hn, ht⟩
    exact ⟨_, hn, _, ht, rfl⟩

theorem BoundariesEntry.relationsOf_eq_ok_iff {allows : Bool} {es : List RelationEntry} {rs : List Relation} :
    checkEach (RelationEntry.check allows) es = .ok rs ↔ List.Forall₂ RelationEntry.Reads es rs := by
  refine checkEach_eq_ok_iff fun i e r => ?_
  exact e.check_eq_ok_iff

theorem Config.mergedRules_eq_ok_iff {c : Config} {p : Preset} {es : List RuleEntry} :
    c.mergedRules p = .ok es ↔ (c.rules.map RuleEntry.name).Nodup ∧ mergeEntries p.rules c.rules = es := by
  rw [mergedRules_eq, ← repeatedNames_eq_nil_iff]
  cases repeatedNames (c.rules.map RuleEntry.name) <;> simp

/-! ## Patterns -/

variable [PatternLanguage]

theorem PathPattern.ofText_eq_ok_iff {text : String} {p : PathPattern} : ofText text = .ok p ↔ p.text = text := by
  constructor
  · intro h
    unfold ofText at h
    split at h
    · exact (Except.ok.inj h) ▸ rfl
    · cases h
  · rintro rfl
    exact p.ofText_text

theorem patternOf_eq_ok_iff {place : ConfigPlace} {text? : Option String} {p? : Option PathPattern} :
    patternOf place text? = .ok p? ↔ p?.map PathPattern.text = text? := by
  cases text? with
  | none =>
    rw [patternOf, Option.map_eq_none_iff]
    exact ⟨fun h => (Except.ok.inj h).symm, fun h => congrArg _ h.symm⟩
  | some text =>
    simp only [patternOf, map_eq_ok_iff, RuleError.at_eq_ok_iff, PathPattern.ofText_eq_ok_iff, Option.map_eq_some_iff]
    exact exists_congr fun p => and_comm.trans (and_congr_left' eq_comm)

/-! ## Rules -/

theorem TargetFilter.isEmpty_iff (t : TargetFilter) : t.isEmpty = true ↔ t = .none := by
  obtain ⟨⟨_, _⟩, _, _, _⟩ := t
  simp [isEmpty, PathFilter.isEmpty, none, PathFilter.none, and_assoc]

theorem Rule.ofParts_eq_ok_iff {name : String} {severity : Severity} {comment? : Option String} {source : PathFilter}
    {orphan? : Option Bool} {target : TargetFilter} {r : Rule} :
    ofParts name severity comment? source orphan? target = .ok r ↔
      r.name = name ∧ r.severity = severity ∧ r.comment? = comment? ∧ r.source = source ∧
        r.scope.orphan? = orphan? ∧ r.scope.target = target := by
  constructor
  · intro h
    have hname : name ≠ "" := fun hn => by
      rw [ofParts, dif_pos hn] at h
      cases h
    rw [ofParts, dif_neg hname] at h
    cases orphan? with
    | none =>
      cases h
      exact ⟨rfl, rfl, rfl, rfl, rfl, rfl⟩
    | some b =>
      dsimp only at h
      split_ifs at h with ht
      cases h
      exact ⟨rfl, rfl, rfl, rfl, rfl, (target.isEmpty_iff.mp ht).symm⟩
  · rintro ⟨rfl, rfl, rfl, rfl, rfl, rfl⟩
    obtain ⟨_, _, _, _, scope, named⟩ := r
    rw [ofParts, dif_neg named]
    cases scope <;> rfl

/-- What is written about the target of a rule is read as a filter. -/
structure TargetEntry.Reads (e : TargetEntry) (t : TargetFilter) : Prop where
  path : t.paths.path?.map PathPattern.text = e.path?
  pathNot : t.paths.pathNot?.map PathPattern.text = e.pathNot?
  circular : t.circular? = e.circular?
  unresolvable : t.unresolvable? = e.unresolvable?
  kinds : List.Forall₂ (fun text k => Kind.ofName? text = some k) e.kinds t.kinds

/-- A filter asks for nothing if and only if nothing is written about it. -/
theorem TargetEntry.Reads.eq_none_iff {e : TargetEntry} {t : TargetFilter} (h : e.Reads t) :
    t = .none ↔ e = .blank := by
  obtain ⟨⟨path?, pathNot?⟩, circular?, unresolvable?, kinds⟩ := t
  obtain ⟨path, pathNot, circular, unresolvable, texts⟩ := e
  obtain ⟨rfl, rfl, rfl, rfl, hkinds⟩ := h
  have hnil : kinds = [] ↔ texts = [] := by
    rw [← List.length_eq_zero_iff, ← List.length_eq_zero_iff, hkinds.length_eq]
  simp [TargetFilter.none, PathFilter.none, blank, hnil, and_assoc]

namespace RuleEntry

/-- The entry is read as a rule. -/
structure Reads (e : RuleEntry) (r : Rule) : Prop where
  name : r.name = e.name
  severity : severityOf (.rule e.name) e.severity = .ok (some r.severity)
  comment : r.comment? = e.comment?
  path : r.source.path?.map PathPattern.text = e.source.path?
  pathNot : r.source.pathNot?.map PathPattern.text = e.source.pathNot?
  orphan : r.scope.orphan? = e.source.orphan?
  target : e.target.Reads r.scope.target

theorem check_eq_ok_some_iff {e : RuleEntry} {r : Rule} : e.check = .ok (some r) ↔ e.Reads r := by
  constructor
  · intro h
    obtain ⟨severity?, hseverity, h⟩ := bind_eq_ok_iff.mp h
    cases severity? with
    | none => cases h
    | some severity =>
      obtain ⟨r', h, hr'⟩ := map_eq_ok_iff.mp h
      cases hr'
      simp only [checkParts, bind_eq_ok_iff, patternOf_eq_ok_iff, kindsOf_eq_ok_iff, RuleError.at_eq_ok_iff,
        Rule.ofParts_eq_ok_iff] at h
      obtain ⟨_, hpath, _, hnot, kinds, hkinds, _, htpath, _, htnot, hname, rfl, hcomment, hsource, horphan, htarget⟩ :=
        h
      exact
        { name := hname
          severity := hseverity
          comment := hcomment
          path := hsource ▸ hpath
          pathNot := hsource ▸ hnot
          orphan := horphan
          target := htarget ▸ ⟨htpath, htnot, rfl, rfl, hkinds⟩ }
  · intro h
    refine bind_eq_ok_iff.mpr ⟨some r.severity, h.severity, map_eq_ok_iff.mpr ⟨r, ?_, rfl⟩⟩
    simp only [checkParts, bind_eq_ok_iff, patternOf_eq_ok_iff, kindsOf_eq_ok_iff, RuleError.at_eq_ok_iff,
      Rule.ofParts_eq_ok_iff]
    exact ⟨_, h.path, _, h.pathNot, _, h.target.kinds, _, h.target.path, _, h.target.pathNot, h.name, trivial,
      h.comment, rfl, h.orphan, by rw [← h.target.circular, ← h.target.unresolvable]⟩

theorem check_eq_ok_none_iff {e : RuleEntry} :
    e.check = .ok none ↔ severityOf (.rule e.name) e.severity = .ok none := by
  constructor
  · intro h
    obtain ⟨severity?, hseverity, h⟩ := bind_eq_ok_iff.mp h
    cases severity? with
    | none => exact hseverity
    | some severity =>
      obtain ⟨r, -, hr⟩ := map_eq_ok_iff.mp h
      cases hr
  · intro h
    exact bind_eq_ok_iff.mpr ⟨none, h, rfl⟩

end RuleEntry

/-! ## Elements and relations -/

/-- The entry is read as a pattern of an element. -/
def ElementEntry.Reads (e : ElementEntry) (p : ElementPattern) : Prop :=
  p.element.text = e.element ∧ p.pattern.text = e.pattern

theorem ElementEntry.check_eq_ok_iff {i : Nat} {e : ElementEntry} {p : ElementPattern} :
    e.check i = .ok p ↔ e.Reads p := by
  simp only [check, bind_eq_ok_iff, RuleError.at_eq_ok_iff, ElementName.ofText_eq_ok_iff,
    PathPattern.ofText_eq_ok_iff]
  constructor
  · rintro ⟨n, hn, q, hq, he⟩
    cases he
    exact ⟨hn, hq⟩
  · rintro ⟨hn, hq⟩
    exact ⟨_, hn, _, hq, rfl⟩

/-! ## Boundaries -/

namespace BoundariesEntry

/-- The entry is read as a policy. -/
structure Reads (b : BoundariesEntry) (p : Policy) : Prop where
  default : defaultOf b.default = .ok p.allowByDefault
  severity : severityOf .boundaries b.severity = .ok (some p.severity)
  ignore : List.Forall₂ (fun text g => GlobPattern.ofText text = .ok g) b.ignore p.ignore
  allow : List.Forall₂ RelationEntry.Reads b.allow p.allow
  disallow : List.Forall₂ RelationEntry.Reads b.disallow p.disallow
  noUnknown : p.noUnknown = b.noUnknown
  noIgnored : p.noIgnored = b.noIgnored

theorem ignoreOf_eq_ok_iff {texts : List String} {globs : List GlobPattern} :
    checkEach (fun i g => RuleError.at (.ignore i) (GlobPattern.ofText g)) texts = .ok globs ↔
      List.Forall₂ (fun text g => GlobPattern.ofText text = .ok g) texts globs :=
  checkEach_eq_ok_iff fun _ _ _ => RuleError.at_eq_ok_iff

theorem check_eq_ok_some_iff {b : BoundariesEntry} {p : Policy} : b.check = .ok (some p) ↔ b.Reads p := by
  constructor
  · intro h
    obtain ⟨allowByDefault, hdefault, h⟩ := bind_eq_ok_iff.mp h
    obtain ⟨severity?, hseverity, h⟩ := bind_eq_ok_iff.mp h
    cases severity? with
    | none => cases h
    | some severity =>
      obtain ⟨p', h, hp'⟩ := map_eq_ok_iff.mp h
      cases hp'
      simp only [checkParts, bind_eq_ok_iff, ignoreOf_eq_ok_iff, relationsOf_eq_ok_iff] at h
      obtain ⟨_, hignore, _, hallow, _, hdisallow, h⟩ := h
      cases h
      exact ⟨hdefault, hseverity, hignore, hallow, hdisallow, rfl, rfl⟩
  · intro h
    refine bind_eq_ok_iff.mpr ⟨_, h.default, bind_eq_ok_iff.mpr ⟨some p.severity, h.severity,
      map_eq_ok_iff.mpr ⟨p, ?_, rfl⟩⟩⟩
    simp only [checkParts, bind_eq_ok_iff, ignoreOf_eq_ok_iff, relationsOf_eq_ok_iff]
    refine ⟨_, h.ignore, _, h.allow, _, h.disallow, ?_⟩
    rw [← h.noUnknown, ← h.noIgnored]
    rfl

theorem check_eq_ok_none_iff {b : BoundariesEntry} :
    b.check = .ok none ↔
      (∃ allows, defaultOf b.default = .ok allows) ∧ severityOf .boundaries b.severity = .ok none := by
  constructor
  · intro h
    obtain ⟨allowByDefault, hdefault, h⟩ := bind_eq_ok_iff.mp h
    obtain ⟨severity?, hseverity, h⟩ := bind_eq_ok_iff.mp h
    cases severity? with
    | none => exact ⟨⟨_, hdefault⟩, hseverity⟩
    | some severity =>
      obtain ⟨p, -, hp⟩ := map_eq_ok_iff.mp h
      cases hp
  · rintro ⟨⟨_, hdefault⟩, hseverity⟩
    exact bind_eq_ok_iff.mpr ⟨_, hdefault, bind_eq_ok_iff.mpr ⟨none, hseverity, rfl⟩⟩

end BoundariesEntry

/-! ## Configurations -/

namespace Config

/-- The configuration is read as a rule set. -/
structure Reads (c : Config) (s : RuleSet) : Prop where
  elements : List.Forall₂ ElementEntry.Reads c.elements s.elements
  names : (c.rules.map RuleEntry.name).Nodup
  rules : ∃ p, c.preset = .ok p ∧ ∃ rules?,
    List.Forall₂ (fun e r? => RuleEntry.check e = .ok r?) (mergeEntries p.rules c.rules) rules? ∧
      s.rules = rules?.filterMap id
  policy : c.policy = .ok s.policy?
  parallel : s.parallel = c.options.parallel

theorem elementsOf_eq_ok_iff {es : List ElementEntry} {ps : List ElementPattern} :
    checkEach ElementEntry.check es = .ok ps ↔ List.Forall₂ ElementEntry.Reads es ps := by
  refine checkEach_eq_ok_iff fun i e p => ?_
  exact e.check_eq_ok_iff

/-- A configuration is loaded as the rule set that it is read as. -/
theorem load_eq_ok_iff {c : Config} {s : RuleSet} : c.load = .ok s ↔ c.Reads s := by
  constructor
  · intro h
    simp only [load, bind_eq_ok_iff, elementsOf_eq_ok_iff, mergedRules_eq_ok_iff, mapM_eq_ok_iff] at h
    obtain ⟨p, hp, elements, helements, entries, ⟨hnames, rfl⟩, rules?, hrules, policy?, hpolicy, h⟩ := h
    split at h
    · next hs =>
      cases h
      obtain ⟨rfl, hr, rfl, hparallel⟩ := RuleSet.ofParts_eq_ok_iff.mp hs
      exact ⟨helements, hnames, ⟨p, hp, rules?, hrules, hr⟩, hpolicy, hparallel⟩
    · cases h
  · rintro ⟨helements, hnames, ⟨p, hp, rules?, hrules, hr⟩, hpolicy, hparallel⟩
    simp only [load, bind_eq_ok_iff, elementsOf_eq_ok_iff, mergedRules_eq_ok_iff, mapM_eq_ok_iff]
    refine ⟨p, hp, _, helements, _, ⟨hnames, rfl⟩, rules?, hrules, _, hpolicy, ?_⟩
    rw [RuleSet.ofParts_eq_ok_iff.mpr ⟨rfl, hr, rfl, hparallel⟩]

end Config

end ImportLint
