import ImportLint.Check
import ImportLint.Proofs.Cycle.Components
import ImportLint.Proofs.Report.Order
import ImportLint.Proofs.Rule.Set

/-!
# Rules about edges

What a rule about edges forbids, in terms of the graph (`Rule.Forbids`), and the violation that it reports for an edge
(`Rule.breach`). On a coherent graph the rule finds one violation for each edge that it forbids (`Rule.check_edges`),
so a rule set with nothing but such rules reports one violation for each rule and each edge that the rule forbids
(`RuleSet.violations_of_edge_rules`).
-/

namespace ImportLint

/-- An edge without a target module has the label of its target as its specifier. -/
theorem Graph.Coherent.specifier_eq_label {g : Graph} (h : g.Coherent) {e : Edge} (he : e ∈ g.edges)
    (hnone : e.target.module? = none) : e.specifier = e.target.label := by
  cases ht : e.target with
  | module id =>
    rw [ht] at hnone
    cases hnone
  | unresolved s => exact h.specifier e he s ht

section

variable [PatternLanguage]

namespace PathFilter

/-- An id passes the filter: the first pattern matches it if it is given, and the second one does not. -/
structure Admits (f : PathFilter) (id : String) : Prop where
  path : ∀ p, f.path? = some p → p.isMatch id = true
  pathNot : ∀ p, f.pathNot? = some p → p.isMatch id = false

theorem passes_iff (f : PathFilter) (id : String) : f.passes id = true ↔ f.Admits id := by
  rw [passes, Bool.and_eq_true, Option.all_eq_true, Bool.not_eq_true', Option.any_eq_false_iff_get]
  constructor
  · rintro ⟨hp, hn⟩
    exact ⟨hp, fun p h => by simpa [h] using hn⟩
  · intro h
    exact ⟨h.path, fun hs => by simpa using h.pathNot _ (Option.some_get hs).symm⟩

@[simp] theorem admits_none (id : String) : none.Admits id :=
  ⟨nofun, nofun⟩

end PathFilter

namespace TargetFilter

/-- An edge of a graph is what the filter asks for. -/
structure Admits (t : TargetFilter) (g : Graph) (e : Edge) : Prop where
  paths : t.paths.Admits e.target.label
  kind : t.kinds = [] ∨ e.kind ∈ t.kinds
  circular : ∀ b, t.circular? = some b → (b = true ↔ g.OnCycle e)
  unresolvable : ∀ b, t.unresolvable? = some b → (b = true ↔ e.target.module? = .none)

/-- The message for an edge that is what the filter asks for. -/
def message (t : TargetFilter) (e : Edge) : String :=
  if t.unresolvable? = some true then "cannot resolve '" ++ e.target.label ++ "'"
  else if t.circular? = some true then "circular dependency: " ++ e.source ++ " -> " ++ e.target.label
  else if t.kinds ≠ [] then e.kind.name ++ " dependency on '" ++ e.target.label ++ "'"
  else "forbidden dependency on '" ++ e.target.label ++ "'"

/-- The message shows the label of the target. -/
theorem label_in_message (t : TargetFilter) (e : Edge) :
    ∃ before behind, t.message e = before ++ e.target.label ++ behind := by
  unfold message
  split_ifs
  · exact ⟨"cannot resolve '", "'", rfl⟩
  · exact ⟨"circular dependency: " ++ e.source ++ " -> ", "", by rw [String.append_empty]⟩
  · exact ⟨e.kind.name ++ " dependency on '", "'", by rw [String.append_assoc]⟩
  · exact ⟨"forbidden dependency on '", "'", rfl⟩

theorem passesKind_iff (t : TargetFilter) (k : Kind) : t.passesKind k = true ↔ t.kinds = [] ∨ k ∈ t.kinds := by
  rw [passesKind, Bool.or_eq_true, List.isEmpty_iff, List.contains_iff_mem]

end TargetFilter

namespace Rule

variable {g : Graph} {r : Rule} {t : TargetFilter} {e : Edge}

/-- The rule is about edges and forbids this one. -/
def Forbids (r : Rule) (g : Graph) (e : Edge) : Prop :=
  ∃ t, r.scope = .edges t ∧ r.source.Admits e.source ∧ t.Admits g e

theorem forbids_iff (hs : r.scope = .edges t) : r.Forbids g e ↔ r.source.Admits e.source ∧ t.Admits g e := by
  simp [Forbids, hs]

/-- A rule against cycles forbids the edges that are on one. -/
theorem forbids_iff_onCycle (hsource : r.source = .none)
    (hs : r.scope = .edges { TargetFilter.none with circular? := some true }) : r.Forbids g e ↔ g.OnCycle e := by
  rw [forbids_iff hs, hsource]
  constructor
  · rintro ⟨-, ht⟩
    exact (ht.circular true rfl).mp rfl
  · intro h
    refine ⟨PathFilter.admits_none _, PathFilter.admits_none _, Or.inl rfl, fun b hb => ?_, nofun⟩
    cases hb
    exact iff_of_true rfl h

/-- What the rule reports for an edge that it forbids. -/
def breach (r : Rule) (e : Edge) : Violation :=
  { rule := r.name, severity := r.severity, source := e.source, target? := some e.target.label,
    message := r.scope.target.message e, comment? := r.comment? }

/-- The test for an edge asks what its filters ask for. -/
theorem breaches_iff (h : g.Coherent) (he : e ∈ g.edges) :
    r.breaches t e ((Components.ofGraph g).isCyclicEdge g e) = true ↔ r.source.Admits e.source ∧ t.Admits g e := by
  have hcyclic := Components.isCyclicEdge_iff h he
  have hkind := h.kind_iff e he
  have hcirc : t.circular?.all (· == (Components.ofGraph g).isCyclicEdge g e) = true ↔
      ∀ b, t.circular? = some b → (b = true ↔ g.OnCycle e) := by
    rw [Option.all_eq_true]
    refine forall₂_congr fun b _ => ?_
    rw [beq_iff_eq, Bool.eq_iff_iff, hcyclic]
  have hunres : t.unresolvable?.all (· == (e.kind == .unresolvable)) = true ↔
      ∀ b, t.unresolvable? = some b → (b = true ↔ e.target.module? = none) := by
    rw [Option.all_eq_true]
    refine forall₂_congr fun b _ => ?_
    rw [beq_iff_eq, Bool.eq_iff_iff, beq_iff_eq, hkind]
  rw [breaches, Bool.and_eq_true, Bool.and_eq_true, Bool.and_eq_true, Bool.and_eq_true, PathFilter.passes_iff,
    PathFilter.passes_iff, TargetFilter.passesKind_iff, hcirc, hunres]
  constructor
  · rintro ⟨⟨⟨⟨hs, hp⟩, hk⟩, hc⟩, hu⟩
    exact ⟨hs, hp, hk, hc, hu⟩
  · rintro ⟨hs, ht⟩
    exact ⟨⟨⟨⟨hs, ht.paths⟩, ht.kind⟩, ht.circular⟩, ht.unresolvable⟩

/-- Where the message shows the specifier, that is the label of the target. -/
theorem edgeMessage_eq (h : g.Coherent) (he : e ∈ g.edges) (ht : t.Admits g e) :
    edgeMessage t e ((Components.ofGraph g).isCyclicEdge g e) = t.message e := by
  unfold edgeMessage TargetFilter.message
  by_cases hu : t.unresolvable? = some true
  · have hnone : e.target.module? = none := (ht.unresolvable true hu).mp rfl
    rw [if_pos hu, if_pos hu, h.specifier_eq_label he hnone]
  · rw [if_neg hu, if_neg hu]
    by_cases hc : t.circular? = some true
    · have hon : g.OnCycle e := (ht.circular true hc).mp rfl
      rw [if_pos ⟨hc, (Components.isCyclicEdge_iff h he).mpr hon⟩, if_pos hc]
    · rw [if_neg fun hand => hc hand.1, if_neg hc]

open Classical in
/-- What the rule finds at an edge. -/
noncomputable def finding (r : Rule) (g : Graph) (e : Edge) : Option Violation :=
  if r.Forbids g e then some (r.breach e) else none

/-- A rule about edges finds one violation for each edge that it forbids. -/
theorem check_edges (h : g.Coherent) (hs : r.scope = .edges t) :
    r.check g (Facts.ofGraph g) = g.edges.toList.filterMap (r.finding g) := by
  rw [check, hs]
  show (g.edges.toList.map fun e => (e, (Components.ofGraph g).isCyclicEdge g e)).filterMap (r.checkEdge t) = _
  rw [List.filterMap_map]
  refine List.filterMap_congr fun e he => ?_
  have he' : e ∈ g.edges := Array.mem_toList_iff.mp he
  have hiff := breaches_iff (r := r) (t := t) h he'
  have hforbids := forbids_iff (g := g) (e := e) hs
  rw [Function.comp_apply, checkEdge, finding]
  by_cases hb : r.source.Admits e.source ∧ t.Admits g e
  · rw [if_pos (hiff.mpr hb), if_pos (hforbids.mpr hb), edgeMessage_eq h he' hb.2, breach, hs]
    rfl
  · rw [if_neg fun hb' => hb (hiff.mp hb'), if_neg fun hb' => hb (hforbids.mp hb')]

end Rule

namespace RuleSet

/-- A violation that is reported is one that a rule finds, or one that the policy finds. -/
theorem mem_check (s : RuleSet) {g : Graph} {v : Violation} :
    v ∈ (s.check g).violations ↔
      (∃ r ∈ s.rules, v ∈ r.check g (Facts.ofGraph g)) ∨ ∃ p ∈ s.policy?, v ∈ p.check s.elements g := by
  rw [check, (Report.perm_ofViolations _ _ _).mem_iff, violations, List.mem_append, List.mem_flatMap, List.mem_flatMap]
  simp only [Option.mem_toList, Option.mem_def]

/-! ## Rule sets about edges -/

open Classical in
/-- The rules with the edges that each of them forbids. -/
noncomputable def forbiddenPairs (s : RuleSet) (g : Graph) : List (Rule × Edge) :=
  s.rules.flatMap fun r => (g.edges.toList.filter fun e => decide (r.Forbids g e)).map fun e => (r, e)

variable (s : RuleSet) {g : Graph}

theorem mem_forbiddenPairs (r : Rule) (e : Edge) :
    (r, e) ∈ s.forbiddenPairs g ↔ r ∈ s.rules ∧ e ∈ g.edges ∧ r.Forbids g e := by
  simp only [forbiddenPairs, List.mem_flatMap, List.mem_map, List.mem_filter, Array.mem_toList_iff,
    decide_eq_true_eq, Prod.mk.injEq]
  constructor
  · rintro ⟨q, hq, x, ⟨hx, hf⟩, rfl, rfl⟩
    exact ⟨hq, hx, hf⟩
  · rintro ⟨hr, he, hf⟩
    exact ⟨r, hr, e, ⟨he, hf⟩, rfl, rfl⟩

theorem forbiddenPairs_nodup (h : g.Coherent) : (s.forbiddenPairs g).Nodup := by
  rw [forbiddenPairs, List.nodup_flatMap]
  constructor
  · intro r _
    exact (h.edges_nodup.filter _).map fun a b hab => (Prod.mk.inj hab).2
  · refine s.rules_nodup.imp fun {q r} hne => ?_
    show List.Disjoint _ _
    rw [List.disjoint_left]
    intro x hx hx'
    obtain ⟨_, _, hq⟩ := List.mem_map.mp hx
    obtain ⟨_, _, hr⟩ := List.mem_map.mp hx'
    exact hne (Prod.mk.inj (hq.trans hr.symm)).1

/-- Every edge that a rule forbids is reported. -/
theorem breach_mem (h : g.Coherent) {r : Rule} {e : Edge} (hr : r ∈ s.rules) (he : e ∈ g.edges) (hf : r.Forbids g e) :
    r.breach e ∈ (s.check g).violations := by
  obtain ⟨t, hs, -⟩ := id hf
  have hfound : r.breach e ∈ r.check g (Facts.ofGraph g) := by
    rw [r.check_edges h hs]
    exact List.mem_filterMap.mpr ⟨e, Array.mem_toList_iff.mpr he, if_pos hf⟩
  exact s.mem_check.mpr (Or.inl ⟨r, hr, hfound⟩)

/-- With rules about edges only, the violations are those of the rules with the edges that they forbid. -/
theorem violations_eq_map_forbiddenPairs (h : g.Coherent) (hp : s.policy? = none)
    (hr : ∀ r ∈ s.rules, ∃ t, r.scope = .edges t) :
    s.violations g (Facts.ofGraph g) = (s.forbiddenPairs g).map fun p => p.1.breach p.2 := by
  rw [violations, hp, Option.toList_none, List.flatMap_nil, List.append_nil, forbiddenPairs, List.map_flatMap]
  refine List.flatMap_congr fun r hmem => ?_
  obtain ⟨t, ht⟩ := hr r hmem
  rw [r.check_edges h ht, List.map_map, ← List.filterMap_eq_map, List.filterMap_filter]
  refine List.filterMap_congr fun e _ => ?_
  by_cases hf : r.Forbids g e <;> simp [Rule.finding, hf]

/-- A rule set with nothing but rules about edges reports one violation for each rule and each edge that the rule
forbids, and nothing else. The target of a violation is shown by the id of the module or, if there is none, by the
specifier, and every message shows it. -/
theorem violations_of_edge_rules (hp : s.policy? = none) (hr : ∀ r ∈ s.rules, ∃ t, r.scope = .edges t)
    (ms : List Mention) :
    ∃ pairs : List (Rule × Edge), pairs.Nodup ∧
      (∀ r e, (r, e) ∈ pairs ↔
        r ∈ s.rules ∧ e ∈ (Graph.ofMentions ms).edges ∧ r.Forbids (Graph.ofMentions ms) e) ∧
      (s.check (Graph.ofMentions ms)).violations.Perm (pairs.map fun p => p.1.breach p.2) ∧
      (∀ e ∈ (Graph.ofMentions ms).edges, (∀ id, e.target = .module id → e.target.label = id) ∧
        (e.target.module? = none → e.target.label = e.specifier)) ∧
      ∀ v ∈ (s.check (Graph.ofMentions ms)).violations,
        ∃ label before behind, v.target? = some label ∧ v.message = before ++ label ++ behind := by
  have h : (Graph.ofMentions ms).Coherent := (Graph.ofMentions_reflects ms).coherent
  have hperm : (s.check (Graph.ofMentions ms)).violations.Perm
      ((s.forbiddenPairs (Graph.ofMentions ms)).map fun p => p.1.breach p.2) := by
    rw [check, s.violations_eq_map_forbiddenPairs h hp hr]
    exact Report.perm_ofViolations _ _ _
  refine ⟨_, s.forbiddenPairs_nodup h, s.mem_forbiddenPairs, hperm, fun e he => ⟨fun id ht => ?_, fun hnone => ?_⟩,
    fun v hv => ?_⟩
  · rw [ht]
    rfl
  · exact (h.specifier_eq_label he hnone).symm
  · obtain ⟨⟨r, e⟩, -, rfl⟩ := List.mem_map.mp (hperm.mem_iff.mp hv)
    obtain ⟨before, behind, hm⟩ := r.scope.target.label_in_message e
    exact ⟨e.target.label, before, behind, rfl, hm⟩

end RuleSet

end

namespace RuleSet

/-- A rule against cycles. -/
def noCycles : Rule :=
  { name := "no-cycles", severity := .error, comment? := none, source := .none,
    scope := .edges { TargetFilter.none with circular? := some true }, named := by decide }

/-- A rule against packages for development. -/
def noDev : Rule :=
  { name := "no-dev", severity := .warning, comment? := none, source := .none,
    scope := .edges { TargetFilter.none with kinds := [.npmDev] }, named := by decide }

/-- Two rules about edges. -/
def noCyclesNoDev : RuleSet :=
  { elements := [], rules := [noCycles, noDev], policy? := none, parallel := false, sound := by decide }

/-- Two modules that import each other, and a package for development. -/
def mutualImports : List Mention :=
  [.record (.resolvedTo "a" "b" .internal), .record (.resolvedTo "b" "a" .internal),
   .record (.resolvedTo "a" "chai" .npmDev)]

theorem edges_mutualImports :
    (Graph.ofMentions mutualImports).edges.toList =
      [⟨"a", .module "b", .internal, "b"⟩, ⟨"b", .module "a", .internal, "a"⟩,
       ⟨"a", .module "chai", .npmDev, "chai"⟩] := by
  simp [mutualImports, Graph.ofMentions, Graph.grow, Graph.empty, Graph.addRecord, Graph.addModule, Graph.addTarget,
    Graph.addEdge, Graph.pushEdge, Graph.find?, Graph.findEdge?, Edge.key, Record.edge, Record.resolvedTo,
    Record.target, Record.resolvedModule?, Record.kind, Record.specifier, Option.filter]

/-- The two internal edges are on a cycle, and the package is not. -/
theorem onCycle_mutualImports {e : Edge} (he : e ∈ (Graph.ofMentions mutualImports).edges.toList) :
    (Graph.ofMentions mutualImports).OnCycle e ↔ e.kind = .internal := by
  have hedges : ∀ x, x ∈ (Graph.ofMentions mutualImports).edges ↔ _ := fun x => by
    rw [← Array.mem_toList_iff, edges_mutualImports]
  have hab := (hedges ⟨"a", .module "b", .internal, "b"⟩).mpr (by simp)
  have hba := (hedges ⟨"b", .module "a", .internal, "a"⟩).mpr (by simp)
  rw [edges_mutualImports] at he
  simp only [List.mem_cons, List.not_mem_nil, or_false] at he
  rcases he with rfl | rfl | rfl
  · exact iff_of_true ⟨rfl, "b", rfl, .single ⟨_, hba, rfl, rfl, rfl⟩⟩ rfl
  · exact iff_of_true ⟨rfl, "a", rfl, .single ⟨_, hab, rfl, rfl, rfl⟩⟩ rfl
  · exact iff_of_false (fun h => absurd h.1 (by decide)) (by decide)

theorem noDev_forbids_iff {g : Graph} {e : Edge} : noDev.Forbids g e ↔ e.kind = .npmDev := by
  rw [Rule.forbids_iff rfl]
  constructor
  · rintro ⟨-, ht⟩
    simpa [TargetFilter.none] using ht.kind
  · intro h
    exact ⟨PathFilter.admits_none _, PathFilter.admits_none _, Or.inr (List.mem_singleton.mpr h), nofun, nofun⟩

theorem noCyclesNoDev_mutualImports :
    (∀ r ∈ noCyclesNoDev.rules, ∃ t, r.scope = .edges t) ∧
      (noCyclesNoDev.check (Graph.ofMentions mutualImports)).violations.Perm
        [{ rule := "no-cycles", severity := .error, source := "a", target? := some "b",
           message := "circular dependency: a -> b", comment? := none },
         { rule := "no-cycles", severity := .error, source := "b", target? := some "a",
           message := "circular dependency: b -> a", comment? := none },
         { rule := "no-dev", severity := .warning, source := "a", target? := some "chai",
           message := "npm-dev dependency on 'chai'", comment? := none }] := by
  have hscope : ∀ r ∈ noCyclesNoDev.rules, ∃ t, r.scope = .edges t := fun r hr => by
    rcases List.mem_pair.mp hr with rfl | rfl <;> exact ⟨_, rfl⟩
  refine ⟨hscope, ?_⟩
  obtain ⟨pairs, hnodup, hpairs, hperm, -, -⟩ := noCyclesNoDev.violations_of_edge_rules rfl hscope mutualImports
  have hforbidden : pairs.Perm
      [(noCycles, ⟨"a", .module "b", .internal, "b"⟩), (noCycles, ⟨"b", .module "a", .internal, "a"⟩),
       (noDev, ⟨"a", .module "chai", .npmDev, "chai"⟩)] := by
    refine (List.perm_ext_iff_of_nodup hnodup (by decide)).mpr fun ⟨r, e⟩ => ?_
    -- each rule forbids the edges of one kind
    have hforbids : e ∈ (Graph.ofMentions mutualImports).edges.toList →
        (r ∈ noCyclesNoDev.rules ∧ r.Forbids (Graph.ofMentions mutualImports) e ↔
          r = noCycles ∧ e.kind = .internal ∨ r = noDev ∧ e.kind = .npmDev) := fun he => by
      rw [← onCycle_mutualImports he, ← noDev_forbids_iff (g := Graph.ofMentions mutualImports)]
      constructor
      · rintro ⟨hr, hf⟩
        rcases List.mem_pair.mp hr with rfl | rfl
        · exact Or.inl ⟨rfl, (Rule.forbids_iff_onCycle rfl rfl).mp hf⟩
        · exact Or.inr ⟨rfl, hf⟩
      · rintro (⟨rfl, hc⟩ | ⟨rfl, hf⟩)
        · exact ⟨List.mem_pair.mpr (Or.inl rfl), (Rule.forbids_iff_onCycle rfl rfl).mpr hc⟩
        · exact ⟨List.mem_pair.mpr (Or.inr rfl), hf⟩
    rw [hpairs, ← Array.mem_toList_iff, ← and_assoc, and_right_comm, and_comm, and_congr_right hforbids,
      edges_mutualImports]
    simp only [List.mem_cons, List.not_mem_nil, or_false, Prod.mk.injEq]
    constructor
    · rintro ⟨rfl | rfl | rfl, ⟨rfl, hk⟩ | ⟨rfl, hk⟩⟩ <;> simp at hk ⊢
    · rintro (⟨rfl, rfl⟩ | ⟨rfl, rfl⟩ | ⟨rfl, rfl⟩) <;> simp
  exact hperm.trans (hforbidden.map _)

end RuleSet

end ImportLint
