import ImportLint.Check
import ImportLint.Proofs.Graph.Coherence
import ImportLint.Proofs.Report.Order

/-!
# Boundary policies

What a boundary policy says about an internal dependency of one module on another, clause by clause
(`Policy.Judgement`). The clauses leave no dependency out and never disagree (`Policy.verdict_eq_iff`), and a rule set
with only a policy reports what they say of each edge (`RuleSet.violations_of_policy`).
-/

namespace ImportLint

/-- The relation is about dependencies of `x` on `y`. -/
def Relation.Covers (r : Relation) (x y : ElementName) : Prop := r.source = x ∧ y ∈ r.targets

theorem Relation.covers_iff {r : Relation} {x y : ElementName} : r.covers x y = true ↔ r.Covers x y := by
  rw [Relation.covers, Bool.and_eq_true, beq_iff_eq, List.contains_iff_mem, Relation.Covers]

theorem Edge.exists_module_of_internal {e : Edge} (hi : e.isInternal = true) : ∃ b, e.target = .module b := by
  cases ht : e.target with
  | module b => exact ⟨b, rfl⟩
  | unresolved s => simp [Edge.isInternal, ht, Target.module?] at hi

section

variable [PatternLanguage]

/-! ## Elements -/

/-- The element of an id is that of the first pattern that matches it. -/
def IsElement (patterns : List ElementPattern) (id : String) (n : ElementName) : Prop :=
  ∃ before q behind, patterns = before ++ q :: behind ∧ (∀ x ∈ before, x.pattern.isMatch id = false) ∧
    q.pattern.isMatch id = true ∧ q.element = n

/-- No pattern matches the id. -/
def Unclassified (patterns : List ElementPattern) (id : String) : Prop :=
  ∀ q ∈ patterns, q.pattern.isMatch id = false

theorem classify_eq_some_iff {patterns : List ElementPattern} {id : String} {n : ElementName} :
    classify patterns id = some n ↔ IsElement patterns id n := by
  simp only [classify, Option.map_eq_some_iff, List.find?_eq_some_iff_append, Bool.not_eq_true', IsElement]
  constructor
  · rintro ⟨q, ⟨hq, before, behind, rfl, hb⟩, hn⟩
    exact ⟨before, q, behind, rfl, hb, hq, hn⟩
  · rintro ⟨before, q, behind, rfl, hb, hq, hn⟩
    exact ⟨q, ⟨hq, before, behind, rfl, hb⟩, hn⟩

theorem classify_eq_none_iff {patterns : List ElementPattern} {id : String} :
    classify patterns id = none ↔ Unclassified patterns id := by
  simp [classify, Unclassified]

namespace Policy

/-! ## What a policy says -/

/-- The policy leaves the module out. -/
def Ignores (p : Policy) (id : String) : Prop := ∃ q ∈ p.ignore, q.isMatch id = true

/-- The policy forbids dependencies of `x` on `y`, two different elements: a relation disallows them, or no relation
covers them and they are not allowed by default. -/
def Forbids (p : Policy) (x y : ElementName) : Prop :=
  (∃ r ∈ p.disallow, r.Covers x y) ∨
    ((∀ r ∈ p.disallow, ¬r.Covers x y) ∧ (∀ r ∈ p.allow, ¬r.Covers x y) ∧ p.allowByDefault = false)

/-- What the policy says about an internal dependency of the module `a` on the module `b`. -/
inductive Judgement (p : Policy) (elements : List ElementPattern) (a b : String) : Option Violation → Prop
  | sourceIgnored (ha : p.Ignores a) : Judgement p elements a b none
  | targetIgnored (ha : ¬p.Ignores a) (hb : p.Ignores b) (hn : p.noIgnored = false) : Judgement p elements a b none
  | noIgnored (ha : ¬p.Ignores a) (hb : p.Ignores b) (hn : p.noIgnored = true) :
    Judgement p elements a b
      (some
        { rule := "boundaries/no-ignored", severity := p.severity, source := a, target? := some b,
          message := "'" ++ b ++ "' is excluded from boundary checks", comment? := none })
  | targetUnknown (ha : ¬p.Ignores a) (hb : ¬p.Ignores b) (hu : Unclassified elements b)
    (hn : p.noUnknown = false) : Judgement p elements a b none
  | noUnknown (ha : ¬p.Ignores a) (hb : ¬p.Ignores b) (hu : Unclassified elements b) (hn : p.noUnknown = true) :
    Judgement p elements a b
      (some
        { rule := "boundaries/no-unknown", severity := p.severity, source := a, target? := some b,
          message := "'" ++ b ++ "' does not belong to any element", comment? := none })
  | sourceUnknown {y : ElementName} (ha : ¬p.Ignores a) (hb : ¬p.Ignores b) (hy : IsElement elements b y)
    (hu : Unclassified elements a) : Judgement p elements a b none
  | sameElement {y : ElementName} (ha : ¬p.Ignores a) (hb : ¬p.Ignores b) (hy : IsElement elements b y)
    (hx : IsElement elements a y) : Judgement p elements a b none
  | permitted {x y : ElementName} (ha : ¬p.Ignores a) (hb : ¬p.Ignores b) (hy : IsElement elements b y)
    (hx : IsElement elements a x) (hne : x ≠ y) (hf : ¬p.Forbids x y) : Judgement p elements a b none
  | elementTypes {x y : ElementName} (ha : ¬p.Ignores a) (hb : ¬p.Ignores b) (hy : IsElement elements b y)
    (hx : IsElement elements a x) (hne : x ≠ y) (hf : p.Forbids x y) :
    Judgement p elements a b
      (some
        { rule := "boundaries/element-types", severity := p.severity, source := a, target? := some b,
          message := "elements of type '" ++ x.text ++ "' must not depend on '" ++ y.text ++ "'",
          comment? := none })

variable {p : Policy} {elements : List ElementPattern} {a b : String} {x y : ElementName} {v? : Option Violation}

theorem isIgnored_iff {id : String} : p.isIgnored id = true ↔ p.Ignores id := List.any_eq_true

theorem permits_self (p : Policy) (x : ElementName) : p.permits x x = true := if_pos rfl

theorem permits_eq_false_iff (hne : x ≠ y) : p.permits x y = false ↔ p.Forbids x y := by
  have hdis : p.disallow.any (·.covers x y) = true ↔ ∃ r ∈ p.disallow, r.Covers x y := by
    simp only [List.any_eq_true, Relation.covers_iff]
  have hall : p.allow.any (·.covers x y) = true ↔ ∃ r ∈ p.allow, r.Covers x y := by
    simp only [List.any_eq_true, Relation.covers_iff]
  rw [permits, if_neg hne, Forbids]
  by_cases hd : ∃ r ∈ p.disallow, r.Covers x y
  · rw [if_pos (hdis.mpr hd)]
    exact iff_of_true rfl (Or.inl hd)
  · rw [if_neg fun h => hd (hdis.mp h)]
    have hd' : ∀ r ∈ p.disallow, ¬r.Covers x y := fun r hr hc => hd ⟨r, hr, hc⟩
    by_cases ha : ∃ r ∈ p.allow, r.Covers x y
    · rw [if_pos (hall.mpr ha)]
      obtain ⟨r, hr, hc⟩ := ha
      exact iff_of_false (by simp) fun h => h.elim hd fun h => h.2.1 r hr hc
    · rw [if_neg fun h => ha (hall.mp h)]
      have ha' : ∀ r ∈ p.allow, ¬r.Covers x y := fun r hr hc => ha ⟨r, hr, hc⟩
      exact ⟨fun h => Or.inr ⟨hd', ha', h⟩, fun h => h.elim (fun h => absurd h hd) fun h => h.2.2⟩

/-- Some clause speaks about every dependency. -/
theorem exists_judgement (p : Policy) (elements : List ElementPattern) (a b : String) :
    ∃ v?, p.Judgement elements a b v? := by
  by_cases ha : p.Ignores a
  · exact ⟨_, .sourceIgnored ha⟩
  by_cases hb : p.Ignores b
  · cases hn : p.noIgnored with
    | false => exact ⟨_, .targetIgnored ha hb hn⟩
    | true => exact ⟨_, .noIgnored ha hb hn⟩
  cases hy : classify elements b with
  | none =>
    cases hn : p.noUnknown with
    | false => exact ⟨_, .targetUnknown ha hb (classify_eq_none_iff.mp hy) hn⟩
    | true => exact ⟨_, .noUnknown ha hb (classify_eq_none_iff.mp hy) hn⟩
  | some y =>
    have hy := classify_eq_some_iff.mp hy
    cases hx : classify elements a with
    | none => exact ⟨_, .sourceUnknown ha hb hy (classify_eq_none_iff.mp hx)⟩
    | some x =>
      have hx := classify_eq_some_iff.mp hx
      by_cases hne : x = y
      · exact ⟨_, .sameElement ha hb hy (hne ▸ hx)⟩
      by_cases hf : p.Forbids x y
      · exact ⟨_, .elementTypes ha hb hy hx hne hf⟩
      · exact ⟨_, .permitted ha hb hy hx hne hf⟩

/-- The check of a dependency finds what a clause says about it. -/
theorem Judgement.checkDependency_eq (h : p.Judgement elements a b v?) :
    p.checkDependency elements a b = v?.toList := by
  unfold checkDependency
  cases h with
  | sourceIgnored ha => rw [if_pos (isIgnored_iff.mpr ha), Option.toList_none]
  | targetIgnored ha hb hn =>
    rw [if_neg (mt isIgnored_iff.mp ha), if_pos (isIgnored_iff.mpr hb), if_neg (by simp [hn]), Option.toList_none]
  | noIgnored ha hb hn =>
    rw [if_neg (mt isIgnored_iff.mp ha), if_pos (isIgnored_iff.mpr hb), if_pos hn]
    rfl
  | targetUnknown ha hb hu hn =>
    rw [if_neg (mt isIgnored_iff.mp ha), if_neg (mt isIgnored_iff.mp hb)]
    simp [checkUnknown, checkElements, hn, classify_eq_none_iff.mpr hu]
  | noUnknown ha hb hu hn =>
    rw [if_neg (mt isIgnored_iff.mp ha), if_neg (mt isIgnored_iff.mp hb)]
    simp [checkUnknown, checkElements, violation, hn, classify_eq_none_iff.mpr hu]
  | sourceUnknown ha hb hy hu =>
    rw [if_neg (mt isIgnored_iff.mp ha), if_neg (mt isIgnored_iff.mp hb)]
    simp [checkUnknown, checkElements, classify_eq_some_iff.mpr hy, classify_eq_none_iff.mpr hu]
  | sameElement ha hb hy hx =>
    rw [if_neg (mt isIgnored_iff.mp ha), if_neg (mt isIgnored_iff.mp hb)]
    simp [checkUnknown, checkElements, classify_eq_some_iff.mpr hy, classify_eq_some_iff.mpr hx, permits_self]
  | permitted ha hb hy hx hne hf =>
    rw [if_neg (mt isIgnored_iff.mp ha), if_neg (mt isIgnored_iff.mp hb)]
    have hp := mt (permits_eq_false_iff hne).mp hf
    simp [checkUnknown, checkElements, classify_eq_some_iff.mpr hy, classify_eq_some_iff.mpr hx, hp]
  | elementTypes ha hb hy hx hne hf =>
    rw [if_neg (mt isIgnored_iff.mp ha), if_neg (mt isIgnored_iff.mp hb)]
    have hp := (permits_eq_false_iff hne).mpr hf
    simp [checkUnknown, checkElements, violation, classify_eq_some_iff.mpr hy, classify_eq_some_iff.mpr hx, hp]

/-- What a clause reports is about the dependency, with the severity of the policy and no comment. -/
theorem Judgement.parts {v : Violation} (h : p.Judgement elements a b (some v)) :
    v.source = a ∧ v.target? = some b ∧ v.severity = p.severity ∧ v.comment? = none := by
  cases h <;> exact ⟨rfl, rfl, rfl, rfl⟩

/-! ## Edges -/

/-- What the policy reports for an edge. -/
def verdict (p : Policy) (elements : List ElementPattern) (e : Edge) : Option Violation :=
  (p.checkEdge elements e).head?

theorem verdict_of_not_internal {e : Edge} (h : e.isInternal = false) : p.verdict elements e = none := by
  rw [verdict, checkEdge, h]
  rfl

theorem checkEdge_of_internal {e : Edge} (hi : e.isInternal = true) (ht : e.target = .module b) :
    p.checkEdge elements e = p.checkDependency elements e.source b := by
  rw [checkEdge, hi, ht]

/-- The verdict on an internal edge is what the clauses say, and they say one thing only. -/
theorem verdict_eq_iff {e : Edge} (hi : e.isInternal = true) (ht : e.target = .module b) :
    p.verdict elements e = v? ↔ p.Judgement elements e.source b v? := by
  have hall : ∀ w?, p.Judgement elements e.source b w? → p.verdict elements e = w? := by
    intro w? hw
    rw [verdict, checkEdge_of_internal hi ht, hw.checkDependency_eq, Option.head?_toList]
  constructor
  · rintro rfl
    obtain ⟨w?, hw⟩ := p.exists_judgement elements e.source b
    exact hall w? hw ▸ hw
  · exact hall v?

/-- The check of an edge finds at most one violation. -/
theorem checkEdge_eq (p : Policy) (elements : List ElementPattern) (e : Edge) :
    p.checkEdge elements e = (p.verdict elements e).toList := by
  cases hi : e.isInternal with
  | false =>
    rw [verdict_of_not_internal hi, checkEdge, hi]
    rfl
  | true =>
    obtain ⟨b, ht⟩ := Edge.exists_module_of_internal hi
    rw [checkEdge_of_internal hi ht]
    exact ((verdict_eq_iff hi ht).mp rfl).checkDependency_eq

/-- A violation that is reported for an edge is what a clause says about a dependency on a module. -/
theorem judgement_of_verdict {e : Edge} {v : Violation} (h : p.verdict elements e = some v) :
    ∃ b, e.target = .module b ∧ p.Judgement elements e.source b (some v) := by
  cases hi : e.isInternal with
  | false =>
    rw [verdict_of_not_internal hi] at h
    cases h
  | true =>
    obtain ⟨b, ht⟩ := Edge.exists_module_of_internal hi
    exact ⟨b, ht, (verdict_eq_iff hi ht).mp h⟩

theorem check_eq (p : Policy) (elements : List ElementPattern) (g : Graph) :
    p.check elements g = g.edges.toList.filterMap (p.verdict elements) := by
  rw [check, funext (p.checkEdge_eq elements), List.filterMap_eq_flatMap_toList]

/-- What the policy finds in a graph is what a clause says about one of its edges. -/
theorem judgement_of_mem_check {g : Graph} {v : Violation} (hv : v ∈ p.check elements g) :
    ∃ e ∈ g.edges, ∃ b, e.target = .module b ∧ p.Judgement elements e.source b (some v) := by
  rw [p.check_eq] at hv
  obtain ⟨e, hmem, he⟩ := List.mem_filterMap.mp hv
  exact ⟨e, Array.mem_toList_iff.mp hmem, judgement_of_verdict he⟩

/-- No two violations that the policy finds in a coherent graph are about the same ends. -/
theorem ends_nodup (p : Policy) (elements : List ElementPattern) {g : Graph} (h : g.Coherent) :
    ((p.check elements g).map fun v => (v.source, v.target?)).Nodup := by
  have heq : (p.check elements g).map (fun v => (v.source, v.target?)) =
      (g.edges.toList.filter fun e => (p.verdict elements e).isSome).map fun e => (e.source, e.target.module?) := by
    rw [p.check_eq, List.map_filterMap, ← List.filterMap_eq_map, List.filterMap_filter]
    refine List.filterMap_congr fun e _ => ?_
    cases hv : p.verdict elements e with
    | none => rfl
    | some v =>
      obtain ⟨b, hb, hj⟩ := judgement_of_verdict hv
      obtain ⟨hs, ht, -, -⟩ := hj.parts
      simp [hs, ht, hb, Target.module?]
  rw [heq]
  refine List.Nodup.map_on (fun e he e' he' hends => ?_) (h.edges_nodup.filter _)
  obtain ⟨he, hv⟩ := List.mem_filter.mp he
  obtain ⟨he', hv'⟩ := List.mem_filter.mp he'
  obtain ⟨v, hv⟩ := Option.isSome_iff_exists.mp hv
  obtain ⟨v', hv'⟩ := Option.isSome_iff_exists.mp hv'
  obtain ⟨b, hb, -⟩ := judgement_of_verdict hv
  obtain ⟨b', hb', -⟩ := judgement_of_verdict hv'
  obtain ⟨hs, hm⟩ := Prod.mk.inj hends
  rw [hb, hb'] at hm
  have ht : e.target = e'.target := by rw [hb, hb', Option.some.inj hm]
  exact h.eq_of_key_eq (Array.mem_toList_iff.mp he) (Array.mem_toList_iff.mp he') (Prod.ext hs ht)

end Policy

namespace RuleSet

/-- A rule set with nothing but a policy reports what the clauses of the policy say of each edge: nothing of edges that
are not internal, and at most one violation of any edge. -/
theorem violations_of_policy (s : RuleSet) {p : Policy} (hr : s.rules = []) (hp : s.policy? = some p) (g : Graph) :
    ∃ verdict : Edge → Option Violation,
      (s.check g).violations.Perm (g.edges.toList.filterMap verdict) ∧
      (∀ e, e.isInternal = false → verdict e = none) ∧
      (∀ e b, e.isInternal = true → e.target = .module b →
        ∀ v?, verdict e = v? ↔ p.Judgement s.elements e.source b v?) ∧
      (∀ v ∈ (s.check g).violations, v.severity = p.severity ∧ v.comment? = none) ∧
      ∀ ms, g = Graph.ofMentions ms → ((s.check g).violations.map fun v => (v.source, v.target?)).Nodup := by
  have hvs : s.violations g (Facts.ofGraph g) = p.check s.elements g := by
    rw [violations, hr, hp, List.flatMap_nil, List.nil_append, Option.toList_some, List.flatMap_singleton]
  have hperm : (s.check g).violations.Perm (p.check s.elements g) := by
    rw [check, hvs]
    exact Report.perm_ofViolations _ _ _
  refine ⟨p.verdict s.elements, p.check_eq s.elements g ▸ hperm, fun e => Policy.verdict_of_not_internal,
    fun e b hi ht v? => Policy.verdict_eq_iff hi ht, fun v hv => ?_, fun ms hg => ?_⟩
  · have hmem : v ∈ g.edges.toList.filterMap (p.verdict s.elements) := p.check_eq s.elements g ▸ hperm.mem_iff.mp hv
    obtain ⟨e, -, he⟩ := List.mem_filterMap.mp hmem
    obtain ⟨b, -, hj⟩ := Policy.judgement_of_verdict he
    exact hj.parts.2.2
  · have hcoherent : g.Coherent := hg ▸ (Graph.ofMentions_reflects ms).coherent
    exact ((hperm.map _).nodup_iff).mpr (p.ends_nodup s.elements hcoherent)

end RuleSet

end

namespace RuleSet

/-- Modules below `src/shared/` must not depend on those below `src/features/`. -/
def sharedBelowFeatures : RuleSet :=
  let shared : ElementName := { text := "shared", valid := by decide }
  let features : ElementName := { text := "features", valid := by decide }
  { elements :=
      [{ element := shared
         pattern := .ofAccepted "^src/shared/" (by decide +kernel) },
       { element := features
         pattern := .ofAccepted "^src/features/" (by decide +kernel) }]
    rules := []
    policy? :=
      some
        { allowByDefault := true, allow := [], disallow := [{ source := shared, targets := [features] }],
          ignore := [], noUnknown := true, noIgnored := false, severity := .error }
    parallel := false
    sound := by decide }

/-- An import from the shared modules into the features. -/
def upwardImport : List Mention := [.record (.resolvedTo "src/shared/log.ts" "src/features/cart.ts" .internal)]

theorem edges_upwardImport :
    (Graph.ofMentions upwardImport).edges.toList =
      [{ source := "src/shared/log.ts", target := .module "src/features/cart.ts", kind := .internal,
         specifier := "src/features/cart.ts" }] := by
  simp [upwardImport, Graph.ofMentions, Graph.grow, Graph.empty, Graph.addRecord, Graph.addModule, Graph.addTarget,
    Graph.addEdge, Graph.pushEdge, Graph.find?, Graph.findEdge?, Edge.key, Record.edge, Record.resolvedTo,
    Record.target, Record.resolvedModule?, Record.kind, Record.specifier, Option.filter]

theorem sharedBelowFeatures_breach :
    ∃ p, sharedBelowFeatures.rules = [] ∧ sharedBelowFeatures.policy? = some p ∧
      (sharedBelowFeatures.check (Graph.ofMentions upwardImport)).violations =
        [{ rule := "boundaries/element-types", severity := .error, source := "src/shared/log.ts",
           target? := some "src/features/cart.ts",
           message := "elements of type 'shared' must not depend on 'features'", comment? := none }] := by
  refine ⟨_, rfl, rfl, ?_⟩
  obtain ⟨verdict, hperm, -, hjudge, -⟩ :=
    sharedBelowFeatures.violations_of_policy rfl rfl (Graph.ofMentions upwardImport)
  have hverdict := (hjudge ⟨"src/shared/log.ts", .module "src/features/cart.ts", .internal, "src/features/cart.ts"⟩ _
    rfl rfl _).mpr (.elementTypes (nofun : ¬∃ q ∈ [], _) (nofun : ¬∃ q ∈ [], _)
      (classify_eq_some_iff.mp (by decide +kernel)) (classify_eq_some_iff.mp (by decide +kernel)) (by decide)
      (Or.inl ⟨_, List.mem_singleton.mpr rfl, rfl, List.mem_singleton.mpr rfl⟩))
  rw [edges_upwardImport, List.filterMap_cons, hverdict, List.filterMap_nil] at hperm
  exact List.perm_singleton.mp hperm

end RuleSet

end ImportLint
