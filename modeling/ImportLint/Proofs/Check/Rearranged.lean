import ImportLint.Proofs.Check.Content
import Mathlib.Data.List.Perm.Basic

/-!
# Rearranged rule sets

Rule sets that list the same in another order: the kinds of a rule, the rules, the targets of a relation, the relations
and the globs of the policy. Each rule and the policy find the same in every graph (`Rule.Rearranged.check_eq`,
`Policy.Rearranged.check_eq`), and the reports are equal (`RuleSet.Rearranged.check_eq`). The elements stay as they are,
because the first pattern that matches decides.
-/

namespace ImportLint

/-! ## Pairing off -/

section

variable {α β γ δ : Type}

/-- The items of two lists can be paired off by a relation. -/
def Paired (R : α → β → Prop) (xs : List α) (ys : List β) : Prop := ∃ zs, xs.Perm zs ∧ List.Forall₂ R zs ys

namespace Paired

variable {R : α → β → Prop} {xs xs' : List α} {ys ys' : List β}

/-- What is the same for both items of every pair is the same in another order. -/
theorem map_perm (h : Paired R xs ys) {f : α → γ} {g : β → γ} (hfg : ∀ x y, R x y → f x = g y) :
    (xs.map f).Perm (ys.map g) := by
  obtain ⟨zs, hperm, hpairs⟩ := h
  have heq : zs.map f = ys.map g := by
    rw [← List.forall₂_eq_eq_eq, List.forall₂_map_left_iff, List.forall₂_map_right_iff]
    exact hpairs.imp hfg
  exact heq ▸ hperm.map f

theorem flatMap_perm (h : Paired R xs ys) {f : α → List γ} {g : β → List γ} (hfg : ∀ x y, R x y → f x = g y) :
    (xs.flatMap f).Perm (ys.flatMap g) :=
  (h.map_perm hfg).flatten

theorem any_eq (h : Paired R xs ys) {p : α → Bool} {q : β → Bool} (hpq : ∀ x y, R x y → p x = q y) :
    xs.any p = ys.any q := by
  have hperm := (h.map_perm hpq).any_eq (f := id)
  rwa [List.any_map, List.any_map] at hperm

theorem exists_left (h : Paired R xs ys) {y : β} (hy : y ∈ ys) : ∃ x ∈ xs, R x y := by
  obtain ⟨zs, hperm, hpairs⟩ := h
  obtain ⟨hlength, hget⟩ := List.forall₂_iff_get.mp hpairs
  obtain ⟨i, rfl⟩ := List.mem_iff_get.mp hy
  have hi : i < zs.length := i.isLt.trans_eq hlength.symm
  exact ⟨zs.get ⟨i, hi⟩, hperm.mem_iff.mpr (List.get_mem zs _), hget i hi i.isLt⟩

theorem append (h : Paired R xs ys) (h' : Paired R xs' ys') : Paired R (xs ++ xs') (ys ++ ys') := by
  obtain ⟨zs, hperm, hpairs⟩ := h
  obtain ⟨zs', hperm', hpairs'⟩ := h'
  exact ⟨zs ++ zs', hperm.append hperm', List.rel_append hpairs hpairs'⟩

theorem filter (h : Paired R xs ys) {p : α → Bool} {q : β → Bool} (hpq : ∀ x y, R x y → (p x = true ↔ q y = true)) :
    Paired R (xs.filter p) (ys.filter q) := by
  obtain ⟨zs, hperm, hpairs⟩ := h
  exact ⟨zs.filter p, hperm.filter p, List.rel_filter (fun x y hxy => hpq x y hxy) hpairs⟩

theorem filterMap_id {xs : List (Option α)} {ys : List (Option β)} (h : Paired (Option.Rel R) xs ys) :
    Paired R (xs.filterMap id) (ys.filterMap id) := by
  obtain ⟨zs, hperm, hpairs⟩ := h
  exact ⟨zs.filterMap id, hperm.filterMap id, List.rel_filterMap (fun _ _ hxy => hxy) hpairs⟩

/-- If what one item of a pair is read as is paired with what the other one is read as, so are the lists of both. -/
theorem read {P : α → γ → Prop} {Q : β → δ → Prop} {S : γ → δ → Prop} (h : Paired R xs ys)
    (hstep : ∀ x y, R x y → ∀ a, P x a → ∃ b, Q y b ∧ S a b) {as : List γ} (hxs : List.Forall₂ P xs as) :
    ∃ bs, List.Forall₂ Q ys bs ∧ Paired S as bs := by
  obtain ⟨zs, hperm, hpairs⟩ := h
  obtain ⟨cs, hcs, hperm'⟩ := List.perm_comp_forall₂ hperm.symm hxs
  obtain ⟨bs, hbs, hpairs'⟩ : ∃ bs, List.Forall₂ Q ys bs ∧ List.Forall₂ S cs bs := by
    clear hperm hperm' hxs
    induction hpairs generalizing cs with
    | nil =>
      cases hcs
      exact ⟨[], .nil, .nil⟩
    | cons hxy _ ih =>
      cases hcs with
      | cons ha hcs =>
        obtain ⟨b, hb, hab⟩ := hstep _ _ hxy _ ha
        obtain ⟨bs, hbs, hpairs'⟩ := ih _ hcs
        exact ⟨b :: bs, .cons hb hbs, .cons hab hpairs'⟩
  exact ⟨bs, hbs, cs, hperm'.symm, hpairs'⟩

end Paired

end

/-! ## Relations -/

/-- Relations that list their targets in another order. -/
def Relation.Rearranged (r r' : Relation) : Prop :=
  ∃ targets, r.targets.Perm targets ∧ r' = { r with targets := targets }

namespace Relation.Rearranged

variable {r r' : Relation} (h : r.Rearranged r')

include h

theorem covers_eq (a b : ElementName) : r.covers a b = r'.covers a b := by
  obtain ⟨targets, hperm, rfl⟩ := h
  rw [covers, covers, hperm.contains_eq]

theorem mem_names_iff {n : ElementName} : n ∈ r.names ↔ n ∈ r'.names := by
  obtain ⟨targets, hperm, rfl⟩ := h
  exact (hperm.cons r.source).mem_iff

end Relation.Rearranged

variable [PatternLanguage]

/-! ## Rules -/

/-- Scopes that list the kinds of edges in another order. -/
inductive Scope.Rearranged : Scope → Scope → Prop
  | modules (orphan : Bool) : Rearranged (.modules orphan) (.modules orphan)
  | edges {t : TargetFilter} {kinds : List Kind} (h : t.kinds.Perm kinds) :
      Rearranged (.edges t) (.edges { t with kinds := kinds })

/-- Rules that list the kinds of edges in another order. -/
def Rule.Rearranged (r r' : Rule) : Prop := ∃ scope, r.scope.Rearranged scope ∧ r' = { r with scope := scope }

namespace Rule

variable {r r' : Rule} {t : TargetFilter} {kinds : List Kind}

theorem breaches_kinds_perm (h : t.kinds.Perm kinds) (e : Edge) (cyclic : Bool) :
    r.breaches { t with kinds := kinds } e cyclic = r.breaches t e cyclic := by
  have hkind : TargetFilter.passesKind { t with kinds := kinds } e.kind = t.passesKind e.kind := by
    rw [TargetFilter.passesKind, TargetFilter.passesKind, h.isEmpty_eq, h.contains_eq]
  rw [breaches, breaches, hkind]

theorem edgeMessage_kinds_perm (h : t.kinds.Perm kinds) (e : Edge) (cyclic : Bool) :
    edgeMessage { t with kinds := kinds } e cyclic = edgeMessage t e cyclic := by
  have hnil : kinds = [] ↔ t.kinds = [] := by
    rw [← List.isEmpty_iff, ← List.isEmpty_iff, h.isEmpty_eq]
  simp only [edgeMessage, ne_eq, hnil]

/-- The order of the kinds does not show in what a rule finds. -/
theorem Rearranged.check_eq (h : r.Rearranged r') (g : Graph) (facts : Facts) : r.check g facts = r'.check g facts := by
  obtain ⟨scope, hscope, rfl⟩ := h
  cases hs : r.scope with
  | modules orphan =>
    rw [hs] at hscope
    cases hscope
    rw [check, check, hs]
    rfl
  | edges t =>
    rw [hs] at hscope
    cases hscope with
    | edges hkinds =>
      rw [check, check, hs]
      refine congrArg (List.filterMap · facts.edges) (funext fun edge => ?_)
      obtain ⟨e, cyclic⟩ := edge
      rw [checkEdge, checkEdge, edgeMessage_kinds_perm hkinds]
      show _ = if r.breaches _ e cyclic then _ else _
      rw [breaches_kinds_perm hkinds]
      rfl

end Rule

/-! ## Policies -/

/-- Policies that list their relations and globs in another order. -/
structure Policy.Rearranged (p p' : Policy) : Prop where
  allowByDefault : p.allowByDefault = p'.allowByDefault
  allow : Paired Relation.Rearranged p.allow p'.allow
  disallow : Paired Relation.Rearranged p.disallow p'.disallow
  ignore : p.ignore.Perm p'.ignore
  noUnknown : p.noUnknown = p'.noUnknown
  noIgnored : p.noIgnored = p'.noIgnored
  severity : p.severity = p'.severity

namespace Policy.Rearranged

variable {p p' : Policy} (h : p.Rearranged p')

include h

theorem isIgnored_eq (id : String) : p.isIgnored id = p'.isIgnored id := h.ignore.any_eq

theorem permits_eq (a b : ElementName) : p.permits a b = p'.permits a b := by
  have hallow := h.allow.any_eq fun _ _ hr => hr.covers_eq a b
  have hdisallow := h.disallow.any_eq fun _ _ hr => hr.covers_eq a b
  rw [permits, permits, hallow, hdisallow, h.allowByDefault]

/-- The order of relations and globs does not show in what a policy finds. -/
theorem check_eq (elements : List ElementPattern) (g : Graph) : p.check elements g = p'.check elements g := by
  have hdependency : p.checkDependency elements = p'.checkDependency elements := by
    funext source target
    simp only [checkDependency, checkUnknown, checkElements, violation, h.isIgnored_eq, h.permits_eq, h.noUnknown,
      h.noIgnored, h.severity]
  unfold check checkEdge
  rw [hdependency]

end Policy.Rearranged

/-! ## Rule sets -/

/-- Rule sets that list the same in another order, the elements apart. -/
structure RuleSet.Rearranged (s s' : RuleSet) : Prop where
  elements : s.elements = s'.elements
  rules : Paired Rule.Rearranged s.rules s'.rules
  policy : Option.Rel Policy.Rearranged s.policy? s'.policy?

namespace RuleSet.Rearranged

variable {s s' : RuleSet}

theorem policy_check_eq (h : s.Rearranged s') (g : Graph) :
    (s.policy?.toList.flatMap fun p => p.check s.elements g) =
      s'.policy?.toList.flatMap fun p => p.check s'.elements g := by
  have hrel := h.policy
  rw [h.elements]
  generalize s.policy? = p?, s'.policy? = p?' at hrel
  cases hrel with
  | none => rfl
  | some hp => simp only [Option.toList_some, List.flatMap_cons, hp.check_eq]

/-- The parts of a rule set are the parts of a rule set in another order as well. -/
theorem problems_eq_nil (s : RuleSet) {rules : List Rule} {policy? : Option Policy}
    (hr : Paired Rule.Rearranged s.rules rules) (hp : Option.Rel Policy.Rearranged s.policy? policy?) :
    problems s.elements rules policy? = [] := by
  refine problems_eq_nil_iff.mpr ⟨?_, ?_⟩
  · have hnames : (s.rules.map Rule.name).Perm (rules.map Rule.name) :=
      hr.map_perm fun _ _ ⟨_, _, he⟩ => he ▸ rfl
    exact hnames.nodup_iff.mp s.names_nodup
  · have hdeclared := s.declared
    generalize s.policy? = p? at hp hdeclared
    cases hp with
    | none => exact nofun
    | @some p p' hp =>
      intro q hq r hr n hn
      cases hq
      obtain ⟨r₀, hr₀, hrr⟩ := (hp.allow.append hp.disallow).exists_left hr
      exact hdeclared p rfl r₀ hr₀ n (hrr.mem_names_iff.mpr hn)

/-- The order in which a rule set lists what it asks for does not show in the report. -/
theorem check_eq (h : s.Rearranged s') (g : Graph) : s.check g = s'.check g := by
  have hrules := h.rules.flatMap_perm fun _ _ hr => hr.check_eq g (Facts.ofGraph g)
  refine s.check_eq_of_perm (?_ : (s'.violations g (Facts.ofGraph g)).Perm _)
  rw [violations, violations, h.policy_check_eq]
  exact hrules.symm.append_right _

end RuleSet.Rearranged

end ImportLint
