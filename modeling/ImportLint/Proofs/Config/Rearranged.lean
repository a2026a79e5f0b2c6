import ImportLint.Proofs.Check.Rearranged
import ImportLint.Proofs.Config.Reading

/-!
# Rearranged configurations

Configurations that list the same in another order, the elements apart: the rules, the kinds of a rule, the relations and
globs of the boundaries and the targets of a relation. What the entries are read as is rearranged as well, also by the
merge with the preset (`mergeEntries_paired`), so the configuration is loaded as a rearranged rule set and the reports
are equal (`Config.load_rearranged`).
-/

namespace ImportLint

/-! ## Entries of rules -/

namespace RuleEntry

/-- Rules that list the kinds in another order. -/
def Rearranged (e e' : RuleEntry) : Prop :=
  ∃ kinds, e.target.kinds.Perm kinds ∧ e' = { e with target := { e.target with kinds := kinds } }

theorem Rearranged.refl (e : RuleEntry) : e.Rearranged e := ⟨_, .refl _, rfl⟩

theorem Rearranged.name_eq {e e' : RuleEntry} (h : e.Rearranged e') : e.name = e'.name := by
  obtain ⟨_, -, rfl⟩ := h
  rfl

/-- A name tells what replaces a rule of the preset, so the order does not matter. -/
theorem replacement_rearranged {rs rs' : List RuleEntry} (h : Paired Rearranged rs rs') (hn : (rs.map name).Nodup)
    (b : RuleEntry) : (b.replacement rs).Rearranged (b.replacement rs') := by
  have hnames : (rs.map name).Perm (rs'.map name) := h.map_perm fun _ _ => Rearranged.name_eq
  by_cases hb : b.name ∈ rs'.map name
  · obtain ⟨r', hr', hname⟩ := List.mem_map.mp hb
    obtain ⟨r, hr, hrr⟩ := h.exists_left hr'
    rw [replacement_of_mem hn hr (hrr.name_eq.trans hname), replacement_of_mem (hnames.nodup_iff.mp hn) hr' hname]
    exact hrr
  · rw [replacement_of_not_mem (mt hnames.mem_iff.mp hb), replacement_of_not_mem hb]
    exact .refl b

end RuleEntry

theorem mergeEntries_paired {base rs rs' : List RuleEntry} (h : Paired RuleEntry.Rearranged rs rs')
    (hn : (rs.map RuleEntry.name).Nodup) :
    Paired RuleEntry.Rearranged (mergeEntries base rs) (mergeEntries base rs') := by
  have hbase : Paired RuleEntry.Rearranged (base.map (RuleEntry.replacement rs))
      (base.map (RuleEntry.replacement rs')) := by
    refine ⟨_, .refl _, ?_⟩
    rw [List.forall₂_map_left_iff, List.forall₂_map_right_iff]
    exact List.forall₂_same.mpr fun b _ => RuleEntry.replacement_rearranged h hn b
  exact hbase.append (h.filter fun _ _ hr => by rw [hr.name_eq])

/-! ## Relations -/

/-- Relations that list their targets in another order. -/
def RelationEntry.Rearranged (e e' : RelationEntry) : Prop :=
  ∃ targets, e.targets.Perm targets ∧ e' = { e with targets := targets }

theorem RelationEntry.Reads.rearranged {e e' : RelationEntry} {r : Relation} (h : e.Reads r) (he : e.Rearranged e') :
    ∃ r', e'.Reads r' ∧ r.Rearranged r' := by
  obtain ⟨texts, hperm, rfl⟩ := he
  obtain ⟨targets, htargets, hperm'⟩ := List.perm_comp_forall₂ hperm.symm (forall₂_iff_map_eq.mpr h.2)
  exact ⟨{ r with targets := targets }, ⟨h.1, forall₂_iff_map_eq.mp htargets⟩, targets, hperm'.symm, rfl⟩

theorem relations_rearranged {es es' : List RelationEntry} {rs : List Relation}
    (h : Paired RelationEntry.Rearranged es es') (hr : List.Forall₂ RelationEntry.Reads es rs) :
    ∃ rs', List.Forall₂ RelationEntry.Reads es' rs' ∧ Paired Relation.Rearranged rs rs' := by
  refine h.read (fun e e' he r hr => ?_) hr
  exact hr.rearranged he

section

variable [PatternLanguage]

/-! ## Scopes and rules -/

/-- A scope with its kinds in another order. A scope of modules lists none. -/
theorem Scope.exists_rearranged (scope : Scope) {kinds : List Kind} (h : scope.target.kinds.Perm kinds) :
    ∃ scope', scope.Rearranged scope' ∧ scope'.orphan? = scope.orphan? ∧
      scope'.target = { scope.target with kinds := kinds } := by
  cases scope with
  | modules orphan =>
    cases h.nil_eq
    exact ⟨_, .modules orphan, rfl, rfl⟩
  | edges t => exact ⟨_, .edges h, rfl, rfl⟩

namespace RuleEntry

variable {e e' : RuleEntry}

theorem Reads.rearranged {r : Rule} (h : e.Reads r) (he : e.Rearranged e') : ∃ r', e'.Reads r' ∧ r.Rearranged r' := by
  obtain ⟨texts, hperm, rfl⟩ := he
  obtain ⟨kinds, hkinds, hperm'⟩ := List.perm_comp_forall₂ hperm.symm h.target.kinds
  obtain ⟨scope, hscope, horphan, htarget⟩ := r.scope.exists_rearranged hperm'.symm
  refine ⟨{ r with scope := scope }, ?_, scope, hscope, rfl⟩
  exact
    { name := h.name
      severity := h.severity
      comment := h.comment
      path := h.path
      pathNot := h.pathNot
      orphan := horphan.trans h.orphan
      target := htarget ▸ ⟨h.target.path, h.target.pathNot, h.target.circular, h.target.unresolvable, hkinds⟩ }

theorem check_rearranged (he : e.Rearranged e') {r? : Option Rule} (h : e.check = .ok r?) :
    ∃ r?', e'.check = .ok r?' ∧ Option.Rel Rule.Rearranged r? r?' := by
  cases r? with
  | none =>
    have hnone := check_eq_ok_none_iff.mp h
    obtain ⟨_, -, rfl⟩ := he
    exact ⟨none, check_eq_ok_none_iff.mpr hnone, .none⟩
  | some r =>
    obtain ⟨r', hr', hrr⟩ := (check_eq_ok_some_iff.mp h).rearranged he
    exact ⟨some r', check_eq_ok_some_iff.mpr hr', .some hrr⟩

theorem entries_rearranged {es es' : List RuleEntry} {rs? : List (Option Rule)} (h : Paired Rearranged es es')
    (hr : List.Forall₂ (fun e r? => check e = .ok r?) es rs?) :
    ∃ rs?', List.Forall₂ (fun e r? => check e = .ok r?) es' rs?' ∧ Paired (Option.Rel Rule.Rearranged) rs? rs?' := by
  refine h.read (fun e e' he r? hr => ?_) hr
  exact check_rearranged he hr

end RuleEntry

/-! ## Boundaries -/

namespace BoundariesEntry

/-- Boundaries that list their relations and globs in another order. -/
structure Rearranged (b b' : BoundariesEntry) : Prop where
  default : b.default = b'.default
  severity : b.severity = b'.severity
  noUnknown : b.noUnknown = b'.noUnknown
  noIgnored : b.noIgnored = b'.noIgnored
  ignore : b.ignore.Perm b'.ignore
  allow : Paired RelationEntry.Rearranged b.allow b'.allow
  disallow : Paired RelationEntry.Rearranged b.disallow b'.disallow

variable {b b' : BoundariesEntry}

theorem Reads.rearranged {p : Policy} (h : b.Reads p) (hb : b.Rearranged b') : ∃ p', b'.Reads p' ∧ p.Rearranged p' := by
  obtain ⟨ignore, hignore, hperm⟩ := List.perm_comp_forall₂ hb.ignore.symm h.ignore
  obtain ⟨allow, hallow, hallowed⟩ := relations_rearranged hb.allow h.allow
  obtain ⟨disallow, hdisallow, hdisallowed⟩ := relations_rearranged hb.disallow h.disallow
  refine ⟨{ p with ignore := ignore, allow := allow, disallow := disallow }, ?_, ?_⟩
  · exact
      { default := hb.default ▸ h.default
        severity := hb.severity ▸ h.severity
        ignore := hignore
        allow := hallow
        disallow := hdisallow
        noUnknown := h.noUnknown.trans hb.noUnknown
        noIgnored := h.noIgnored.trans hb.noIgnored }
  · exact
      { allowByDefault := rfl
        allow := hallowed
        disallow := hdisallowed
        ignore := hperm.symm
        noUnknown := rfl
        noIgnored := rfl
        severity := rfl }

theorem check_rearranged (hb : b.Rearranged b') {p? : Option Policy} (h : b.check = .ok p?) :
    ∃ p?', b'.check = .ok p?' ∧ Option.Rel Policy.Rearranged p? p?' := by
  cases p? with
  | none =>
    have hnone := check_eq_ok_none_iff.mp h
    rw [hb.default, hb.severity] at hnone
    exact ⟨none, check_eq_ok_none_iff.mpr hnone, .none⟩
  | some p =>
    obtain ⟨p', hp', hpp⟩ := (check_eq_ok_some_iff.mp h).rearranged hb
    exact ⟨some p', check_eq_ok_some_iff.mpr hp', .some hpp⟩

end BoundariesEntry

/-! ## Configurations -/

namespace Config

/-- Configurations that list the same in another order, the elements apart. -/
structure Rearranged (c c' : Config) : Prop where
  preset : c.preset? = c'.preset?
  options : c.options = c'.options
  elements : c.elements = c'.elements
  boundaries : Option.Rel BoundariesEntry.Rearranged c.boundaries? c'.boundaries?
  rules : Paired RuleEntry.Rearranged c.rules c'.rules

variable {c c' : Config}

theorem policy_rearranged (h : c.Rearranged c') {p? : Option Policy} (hp : c.policy = .ok p?) :
    ∃ p?', c'.policy = .ok p?' ∧ Option.Rel Policy.Rearranged p? p?' := by
  have hrel := h.boundaries
  unfold policy at hp ⊢
  generalize c.boundaries? = b?, c'.boundaries? = b?' at hrel hp ⊢
  cases hrel with
  | none =>
    cases hp
    exact ⟨none, rfl, .none⟩
  | some hb => exact BoundariesEntry.check_rearranged hb hp

theorem Reads.rearranged {s : RuleSet} (h : c.Reads s) (hc : c.Rearranged c') :
    ∃ s', c'.Reads s' ∧ s.Rearranged s' := by
  obtain ⟨helements, hnames, ⟨p, hp, rules?, hrules, hs⟩, hpolicy, hparallel⟩ := h
  have hpreset : c'.preset = .ok p := by
    rw [preset, ← hc.preset]
    exact hp
  have hnames' : (c.rules.map RuleEntry.name).Perm (c'.rules.map RuleEntry.name) :=
    hc.rules.map_perm fun _ _ => RuleEntry.Rearranged.name_eq
  obtain ⟨rules?', hrules', hpaired⟩ :=
    RuleEntry.entries_rearranged (mergeEntries_paired hc.rules hnames) hrules
  obtain ⟨policy?', hpolicy', hrel⟩ := policy_rearranged hc hpolicy
  have hrearranged : Paired Rule.Rearranged s.rules (rules?'.filterMap id) := hs ▸ hpaired.filterMap_id
  refine ⟨⟨s.elements, rules?'.filterMap id, policy?', s.parallel,
    RuleSet.Rearranged.problems_eq_nil s hrearranged hrel⟩, ?_, rfl, hrearranged, hrel⟩
  exact
    { elements := hc.elements ▸ helements
      names := hnames'.nodup_iff.mp hnames
      rules := ⟨p, hpreset, rules?', hrules', rfl⟩
      policy := hpolicy'
      parallel := hparallel.trans (congrArg _ hc.options) }

/-- If a configuration is loaded, so is any rearrangement of it, and both rule sets have the same report on every
graph. -/
theorem load_rearranged {s : RuleSet} (h : c.Rearranged c') (hs : c.load = .ok s) :
    ∃ s', c'.load = .ok s' ∧ ∀ g : Graph, s.check g = s'.check g := by
  obtain ⟨s', hs', hrearranged⟩ := (load_eq_ok_iff.mp hs).rearranged h
  exact ⟨s', load_eq_ok_iff.mpr hs', hrearranged.check_eq⟩

end Config

end

namespace Config

/-- A rule with a list of kinds. -/
def packagesRule (kinds : List String) : RuleEntry :=
  { name := "packages", severity := "warn", comment? := some "Wrap packages in lib",
    source := { SourceEntry.blank with pathNot? := some "^lib/" }, target := { TargetEntry.blank with kinds := kinds } }

/-- A rule that takes the place of a rule of the preset. -/
def cyclesRule : RuleEntry :=
  { name := "no-circular", severity := "info", comment? := none, source := .blank,
    target := { TargetEntry.blank with circular? := some true } }

/-- Three layers, with a rule of its own and one of the preset. -/
def layered : Config :=
  { Config.blank with
    elements := [⟨"app", "^app/"⟩, ⟨"lib", "^lib/"⟩, ⟨"test", "^test/"⟩]
    boundaries? := some
      { default := "disallow", severity := "error", noUnknown := true, noIgnored := false,
        ignore := ["**/*.gen.ts", "vendor/**"],
        allow := [⟨"test", ["app", "lib"]⟩, ⟨"app", ["lib"]⟩],
        disallow := [⟨"lib", ["app", "test"]⟩, ⟨"app", ["test"]⟩] }
    rules := [packagesRule ["npm", "deprecated"], cyclesRule] }

/-- The same in another order. -/
def layeredOtherwise : Config :=
  { layered with
    boundaries? := some
      { default := "disallow", severity := "error", noUnknown := true, noIgnored := false,
        ignore := ["vendor/**", "**/*.gen.ts"],
        allow := [⟨"app", ["lib"]⟩, ⟨"test", ["lib", "app"]⟩],
        disallow := [⟨"app", ["test"]⟩, ⟨"lib", ["test", "app"]⟩] }
    rules := [cyclesRule, packagesRule ["deprecated", "npm"]] }

theorem layered_rearranged : layered.Rearranged layeredOtherwise where
  preset := rfl
  options := rfl
  elements := rfl
  boundaries := .some
    { default := rfl
      severity := rfl
      noUnknown := rfl
      noIgnored := rfl
      ignore := .swap ..
      allow := ⟨_, .swap .., .cons ⟨_, .refl _, rfl⟩ (.cons ⟨_, .swap .., rfl⟩ .nil)⟩
      disallow := ⟨_, .swap .., .cons ⟨_, .refl _, rfl⟩ (.cons ⟨_, .swap .., rfl⟩ .nil)⟩ }
  rules := ⟨_, .swap .., .cons (.refl _) (.cons ⟨_, .swap .., rfl⟩ .nil)⟩

theorem load_layered :
    layered.Rearranged layeredOtherwise ∧
      ∃ s s', layered.load = .ok s ∧ layeredOtherwise.load = .ok s' ∧ ∀ g : Graph, s.check g = s'.check g := by
  obtain ⟨s, hs⟩ : ∃ s, layered.load = .ok s := errorOf?_eq_none_iff.mp (by decide +kernel)
  obtain ⟨s', hs', hcheck⟩ := load_rearranged layered_rearranged hs
  exact ⟨layered_rearranged, s, s', hs, hs', hcheck⟩

end Config

end ImportLint
