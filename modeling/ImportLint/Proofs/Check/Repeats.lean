import ImportLint.Proofs.Check.Content
import ImportLint.Proofs.Config.Recommended
import Mathlib.Data.List.Count

/-!
# Repeated violations

Violations show the label of a target, and the label does not tell a module from an import that did not resolve. So a
module may have two edges of one label, its twins (`Edge.Twins`), and a rule that names no kinds reports them alike
(`Rule.breach_eq_iff`). Nothing else is reported more than once (`RuleSet.count_violations`).
-/

namespace ImportLint

variable {g : Graph}

/-! ## Twins -/

/-- Two edges of one module with one label: `e` leads to the module `x`, and in `e'` the import `x` is unresolved. -/
def Edge.Twins (e e' : Edge) : Prop :=
  e.source = e'.source ∧ ∃ x, e.target = .module x ∧ e'.target = .unresolved x

namespace Edge.Twins

variable {e e' : Edge}

theorem label_eq (ht : e.Twins e') : e.target.label = e'.target.label := by
  obtain ⟨-, x, hx, hx'⟩ := ht
  rw [hx, hx']
  rfl

theorem kind_ne (ht : e.Twins e') (h : g.Coherent) (he : e ∈ g.edges) (he' : e' ∈ g.edges) : e.kind ≠ e'.kind := by
  obtain ⟨-, x, hx, hx'⟩ := ht
  intro hk
  have hnone : e.target.module? = none := by
    rw [← h.kind_iff e he, hk, h.kind_iff e' he', hx']
    rfl
  rw [hx] at hnone
  cases hnone

end Edge.Twins

/-- What one item of a list alone contributes is counted there. -/
theorem count_flatMap_of_unique {α β : Type} [DecidableEq β] {f : α → List β} {l : List α} {a : α} {b : β}
    (hl : l.Nodup) (ha : a ∈ l) (hb : ∀ x ∈ l, b ∈ f x → x = a) : (l.flatMap f).count b = (f a).count b := by
  obtain ⟨before, behind, rfl⟩ := List.append_of_mem ha
  have hrest : b ∉ (before ++ behind).flatMap f := by
    rw [List.mem_flatMap]
    rintro ⟨x, hx, hbx⟩
    have hsame : x = a := hb x (List.perm_middle.mem_iff.mpr (List.mem_cons_of_mem a hx)) hbx
    exact (List.nodup_middle.mp hl).notMem (hsame ▸ hx)
  have hfirst : (before ++ a :: behind).Perm (a :: (before ++ behind)) := List.perm_middle
  rw [(hfirst.flatMap_right f).count_eq, List.flatMap_cons, List.count_append, List.count_eq_zero_of_not_mem hrest,
    Nat.add_zero]

section

variable [PatternLanguage]

namespace Edge.Twins

variable {e e' : Edge} {t : TargetFilter}

/-- A filter that asks for unresolved edges, or for cycles, does not admit both. -/
theorem filter_of_admits (ht : e.Twins e') (ha : t.Admits g e) (ha' : t.Admits g e') :
    t.unresolvable? ≠ some true ∧ t.circular? ≠ some true := by
  obtain ⟨-, x, hx, hx'⟩ := ht
  constructor
  · intro hu
    have hnone := (ha.unresolvable true hu).mp rfl
    rw [hx] at hnone
    cases hnone
  · intro hc
    obtain ⟨-, b, hb, -⟩ := (ha'.circular true hc).mp rfl
    rw [hx'] at hb
    cases hb

/-- The messages for twins differ in the names of their kinds only. -/
theorem message_eq_iff (ht : e.Twins e') (ha : t.Admits g e) (ha' : t.Admits g e') (hk : e.kind ≠ e'.kind) :
    t.message e = t.message e' ↔ t.kinds = [] := by
  obtain ⟨hunresolvable, hcircular⟩ := ht.filter_of_admits ha ha'
  by_cases hkinds : t.kinds = []
  · refine iff_of_true ?_ hkinds
    simp only [TargetFilter.message, hunresolvable, hcircular, hkinds, ht.label_eq, ne_eq, not_true_eq_false, if_false]
  · refine iff_of_false (fun hm => ?_) hkinds
    simp only [TargetFilter.message, hunresolvable, hcircular, hkinds, ht.label_eq, ne_eq, not_false_eq_true, if_true,
      if_false] at hm
    have hname : e.kind.name = e'.kind.name := by simpa using hm
    exact hk (Option.some.inj (by rw [← Kind.ofName?_name, ← Kind.ofName?_name, hname]))

end Edge.Twins

/-- The keys that an edge may have for which a violation is reported. -/
def Violation.edgeKeys (v : Violation) : List (String × Target) :=
  [(v.source, .module (v.target?.getD "")), (v.source, .unresolved (v.target?.getD ""))]

namespace Rule

variable {r : Rule} {e e' : Edge} {v : Violation}

/-- A rule reports twins that it forbids alike if and only if it names no kinds. -/
theorem breach_eq_iff (h : g.Coherent) (he : e ∈ g.edges) (he' : e' ∈ g.edges) (ht : e.Twins e')
    (hf : r.Forbids g e) (hf' : r.Forbids g e') : r.breach e = r.breach e' ↔ r.scope.target.kinds = [] := by
  obtain ⟨t, hscope, -, ha⟩ := hf
  obtain ⟨t', hscope', -, ha'⟩ := hf'
  cases Scope.edges.inj (hscope.symm.trans hscope')
  have hbreach : r.breach e = r.breach e' ↔ t.message e = t.message e' := by
    simp only [breach, hscope, Scope.target, ht.1, ht.label_eq, Violation.mk.injEq, true_and, and_true]
  rw [hbreach, hscope]
  exact ht.message_eq_iff ha ha' (ht.kind_ne h he he')

/-! ## The edges behind a violation -/

open Classical in
/-- The edges for which a rule reports a violation. -/
noncomputable def edgesBehind (r : Rule) (g : Graph) (v : Violation) : List Edge :=
  g.edges.toList.filter fun e => decide (r.Forbids g e ∧ r.breach e = v)

theorem mem_edgesBehind : e ∈ r.edgesBehind g v ↔ e ∈ g.edges ∧ r.Forbids g e ∧ r.breach e = v := by
  simp only [edgesBehind, List.mem_filter, Array.mem_toList_iff, decide_eq_true_eq]

theorem count_check_edges {t : TargetFilter} (h : g.Coherent) (hs : r.scope = .edges t) (v : Violation) :
    (r.check g (Facts.ofGraph g)).count v = (r.edgesBehind g v).length := by
  rw [r.check_edges h hs, List.count_filterMap, edgesBehind, ← List.countP_eq_length_filter]
  refine List.countP_congr fun e _ => ?_
  by_cases hf : r.Forbids g e <;> simp [finding, hf]

theorem keys_subset (r : Rule) (g : Graph) (v : Violation) : (r.edgesBehind g v).map Edge.key ⊆ v.edgeKeys := by
  intro key hkey
  obtain ⟨e, he, rfl⟩ := List.mem_map.mp hkey
  obtain ⟨-, -, rfl⟩ := mem_edgesBehind.mp he
  cases ht : e.target <;> simp [Edge.key, Violation.edgeKeys, breach, ht, Target.label]

theorem keys_edgesBehind_nodup (h : g.Coherent) : ((r.edgesBehind g v).map Edge.key).Nodup :=
  h.keys_nodup.sublist (List.filter_sublist.map Edge.key)

theorem keys_subperm (h : g.Coherent) : ((r.edgesBehind g v).map Edge.key).Subperm v.edgeKeys :=
  List.subperm_of_subset (keys_edgesBehind_nodup h) (r.keys_subset g v)

theorem length_edgesBehind_le (h : g.Coherent) : (r.edgesBehind g v).length ≤ 2 := by
  have hle : ((r.edgesBehind g v).map Edge.key).length ≤ 2 := (keys_subperm h).length_le
  rwa [List.length_map] at hle

/-- Two edges behind one violation are twins. -/
theorem one_lt_length_edgesBehind (h : g.Coherent) :
    1 < (r.edgesBehind g v).length ↔ ∃ e ∈ r.edgesBehind g v, ∃ e' ∈ r.edgesBehind g v, e.Twins e' := by
  constructor
  · intro hlt
    -- the keys of two edges behind the violation are all that there are to choose from
    have hperm : ((r.edgesBehind g v).map Edge.key).Perm v.edgeKeys :=
      (keys_subperm h).perm_of_length_le (by rw [List.length_map]; exact hlt)
    obtain ⟨e, he, hkey⟩ := List.mem_map.mp (hperm.mem_iff.mpr List.mem_cons_self)
    obtain ⟨e', he', hkey'⟩ := List.mem_map.mp (hperm.mem_iff.mpr (List.mem_cons_of_mem _ List.mem_cons_self))
    obtain ⟨hs, ht⟩ := Prod.mk.inj hkey
    obtain ⟨hs', ht'⟩ := Prod.mk.inj hkey'
    exact ⟨e, he, e', he', hs.trans hs'.symm, _, ht, ht'⟩
  · rintro ⟨e, he, e', he', -, x, hx, hx'⟩
    have hne : e ≠ e' := by
      rintro rfl
      rw [hx] at hx'
      cases hx'
    have hpair : [e, e'].Subperm (r.edgesBehind g v) :=
      List.subperm_of_subset (by simp [hne]) (by simp [he, he'])
    exact hpair.length_le

/-- A rule that names no kinds reports twins alike. -/
theorem one_lt_count_of_twins (h : g.Coherent) (he : e ∈ g.edges) (he' : e' ∈ g.edges)
    (ht : e.Twins e') (hf : r.Forbids g e) (hf' : r.Forbids g e') (hk : r.scope.target.kinds = []) :
    1 < (r.check g (Facts.ofGraph g)).count (r.breach e) := by
  obtain ⟨t, hs, -⟩ := id hf
  have halike : r.breach e = r.breach e' := (breach_eq_iff h he he' ht hf hf').mpr hk
  rw [count_check_edges h hs, one_lt_length_edgesBehind h]
  exact ⟨e, mem_edgesBehind.mpr ⟨he, hf, rfl⟩, e', mem_edgesBehind.mpr ⟨he', hf', halike.symm⟩, ht⟩

/-! ## What a rule reports -/

theorem source_of_checkModule {orphan : Bool} {ends : Ends} {id : String}
    (hv : r.checkModule orphan ends id = some v) : v.source = id := by
  rw [checkModule] at hv
  split_ifs at hv <;> cases hv <;> rfl

/-- A rule about modules reports each module once. -/
theorem check_modules_nodup {orphan : Bool} (h : g.Coherent) (hs : r.scope = .modules orphan) (facts : Facts) :
    (r.check g facts).Nodup := by
  rw [check, hs]
  refine h.modules_nodup.filterMap fun a b w ha hb => ?_
  rw [← source_of_checkModule (Option.mem_def.mp ha), ← source_of_checkModule (Option.mem_def.mp hb)]

/-- A rule reports nothing more than twice, and only twins twice. -/
theorem count_check (h : g.Coherent) (r : Rule) (v : Violation) :
    (r.check g (Facts.ofGraph g)).count v ≤ 2 ∧
      (1 < (r.check g (Facts.ofGraph g)).count v →
        r.scope.target.kinds = [] ∧
          ∃ e ∈ g.edges, ∃ e' ∈ g.edges, e.Twins e' ∧ r.Forbids g e ∧ r.Forbids g e' ∧ v = r.breach e) := by
  cases hs : r.scope with
  | modules orphan =>
    have hle := List.nodup_iff_count_le_one.mp (r.check_modules_nodup h hs (Facts.ofGraph g)) v
    exact ⟨by omega, fun hlt => absurd hle (by omega)⟩
  | edges t =>
    rw [count_check_edges h hs]
    refine ⟨length_edgesBehind_le h, fun hlt => ?_⟩
    obtain ⟨e, he, e', he', ht⟩ := (one_lt_length_edgesBehind h).mp hlt
    obtain ⟨hmem, hf, rfl⟩ := mem_edgesBehind.mp he
    obtain ⟨hmem', hf', halike⟩ := mem_edgesBehind.mp he'
    refine ⟨?_, e, hmem, e', hmem', ht, hf, hf', rfl⟩
    rw [← hs]
    exact (breach_eq_iff h hmem hmem' ht hf hf').mp halike.symm

end Rule

theorem Policy.check_nodup (h : g.Coherent) (p : Policy) (elements : List ElementPattern) :
    (p.check elements g).Nodup :=
  List.Nodup.of_map _ (p.ends_nodup elements h)

/-! ## Rule sets -/

namespace RuleSet

variable (s : RuleSet) {r : Rule} {v : Violation}

/-- What a rule finds is found by no other rule and by no policy. -/
theorem count_violations_of_rule (hr : r ∈ s.rules) (hv : v ∈ r.check g (Facts.ofGraph g)) :
    (s.violations g (Facts.ofGraph g)).count v = (r.check g (Facts.ofGraph g)).count v := by
  have hpolicy : v ∉ s.policy?.toList.flatMap fun p => p.check s.elements g := by
    rw [List.mem_flatMap]
    rintro ⟨p, -, hp⟩
    obtain ⟨-, -, c, hc, hhead⟩ := Rule.check_parts hv
    exact (Policy.check_parts hp).2 c hc hhead
  rw [violations, List.count_append, List.count_eq_zero_of_not_mem hpolicy, Nat.add_zero]
  refine count_flatMap_of_unique s.rules_nodup hr fun q hq hvq => ?_
  exact s.eq_of_name_eq hq hr ((Rule.check_parts hvq).1.symm.trans (Rule.check_parts hv).1)

/-- What no rule finds is found at most once. -/
theorem count_violations_le_one (h : g.Coherent) (hv : ∀ r ∈ s.rules, v ∉ r.check g (Facts.ofGraph g)) :
    (s.violations g (Facts.ofGraph g)).count v ≤ 1 := by
  have hrules : v ∉ s.rules.flatMap fun r => r.check g (Facts.ofGraph g) := by
    rw [List.mem_flatMap]
    rintro ⟨r, hr, hvr⟩
    exact hv r hr hvr
  rw [violations, List.count_append, List.count_eq_zero_of_not_mem hrules, Nat.zero_add]
  cases s.policy? with
  | none => simp
  | some p =>
    rw [Option.toList_some, List.flatMap_singleton]
    exact List.nodup_iff_count_le_one.mp (p.check_nodup h s.elements) v

theorem count_report (v : Violation) :
    (s.check g).violations.count v = (s.violations g (Facts.ofGraph g)).count v :=
  (Report.perm_ofViolations _ _ _).count_eq v

/-- The violation is what a rule that names no kinds reports for twins, both of which it forbids. -/
def Repeats (s : RuleSet) (g : Graph) (v : Violation) : Prop :=
  ∃ r ∈ s.rules, r.scope.target.kinds = [] ∧
    ∃ e ∈ g.edges, ∃ e' ∈ g.edges, e.Twins e' ∧ r.Forbids g e ∧ r.Forbids g e' ∧ v = r.breach e

theorem one_lt_count_of_repeats (h : g.Coherent) (hv : s.Repeats g v) : 1 < (s.check g).violations.count v := by
  obtain ⟨r, hr, hk, e, he, e', he', ht, hf, hf', rfl⟩ := hv
  have hlt := Rule.one_lt_count_of_twins h he he' ht hf hf' hk
  rwa [s.count_report, s.count_violations_of_rule hr (List.count_pos_iff.mp (by omega))]

/-- A violation is reported once, or twice if it repeats. -/
theorem count_report_le (h : g.Coherent) (v : Violation) :
    (s.check g).violations.count v ≤ 1 ∨ ((s.check g).violations.count v ≤ 2 ∧ s.Repeats g v) := by
  rw [s.count_report]
  by_cases hv : ∃ r ∈ s.rules, v ∈ r.check g (Facts.ofGraph g)
  · obtain ⟨r, hr, hv⟩ := hv
    rw [s.count_violations_of_rule hr hv]
    obtain ⟨htwo, htwins⟩ := r.count_check h v
    by_cases hlt : 1 < (r.check g (Facts.ofGraph g)).count v
    · exact Or.inr ⟨htwo, r, hr, htwins hlt⟩
    · exact Or.inl (by omega)
  · exact Or.inl (s.count_violations_le_one h fun r hr hvr => hv ⟨r, hr, hvr⟩)

/-- No violation stands in a report more than twice, and it stands there twice exactly if it repeats. So the violations
of a report are all different exactly if no rule without kinds forbids twins. -/
theorem count_violations (ms : List Mention) :
    (∀ v, (s.check (Graph.ofMentions ms)).violations.count v ≤ 2 ∧
      ((s.check (Graph.ofMentions ms)).violations.count v = 2 ↔ s.Repeats (Graph.ofMentions ms) v)) ∧
    ((s.check (Graph.ofMentions ms)).violations.Nodup ↔ ∀ v, ¬s.Repeats (Graph.ofMentions ms) v) := by
  have h : (Graph.ofMentions ms).Coherent := (Graph.ofMentions_reflects ms).coherent
  have htwice : ∀ v, (s.check (Graph.ofMentions ms)).violations.count v ≤ 2 ∧
      ((s.check (Graph.ofMentions ms)).violations.count v = 2 ↔ s.Repeats (Graph.ofMentions ms) v) := by
    intro v
    have hlt := s.one_lt_count_of_repeats (v := v) h
    rcases s.count_report_le h v with hone | ⟨htwo, hrepeats⟩
    · exact ⟨by omega, fun heq => by omega, fun hrepeats => absurd (hlt hrepeats) (by omega)⟩
    · have hmore := hlt hrepeats
      exact ⟨htwo, fun _ => hrepeats, fun _ => by omega⟩
  refine ⟨htwice, List.nodup_iff_count_le_one.trans (forall_congr' fun v => ?_)⟩
  have hcount := (htwice v).1
  rw [← (htwice v).2]
  omega

end RuleSet

end

namespace RuleSet

/-- A rule against dependencies on what has a `b` in its name. -/
def notToB : Rule :=
  { name := "no-b", severity := .error, comment? := none, source := .none,
    scope := .edges { TargetFilter.none with paths := ⟨some (.ofAccepted "b" (by decide +kernel)), none⟩ },
    named := by decide }

def nothingOnB : RuleSet :=
  { elements := [], rules := [notToB], policy? := none, parallel := false, sound := by decide }

/-- An import of the module `b`, and an import `b` that does not resolve. -/
def twinImports : List Mention :=
  [.record (.resolvedTo "a" "b" .internal),
   .record { source := "a", to? := none, specifier? := some "b", kind? := none, resolved := false }]

theorem notToB_forbids {e : Edge} (hl : e.target.label = "b") : notToB.Forbids g e := by
  rw [Rule.forbids_iff rfl]
  refine ⟨PathFilter.admits_none _, ⟨fun p hp => ?_, nofun⟩, Or.inl rfl, nofun, nofun⟩
  cases hp
  rw [hl]
  decide +kernel

theorem nothingOnB_repeats : ¬(nothingOnB.check (Graph.ofMentions twinImports)).violations.Nodup := by
  have h := Graph.ofMentions_reflects twinImports
  obtain ⟨e, he, hkey, -⟩ := h.edge_of_record _ (List.mem_cons_self)
  obtain ⟨e', he', hkey', -⟩ := h.edge_of_record _ (List.mem_cons_of_mem _ List.mem_cons_self)
  obtain ⟨hs, ht⟩ := Prod.mk.inj hkey
  obtain ⟨hs', ht'⟩ := Prod.mk.inj hkey'
  have htwins : e.Twins e' := ⟨hs.trans hs'.symm, "b", ht, ht'⟩
  have hrepeats : nothingOnB.Repeats (Graph.ofMentions twinImports) (notToB.breach e) :=
    ⟨notToB, List.mem_cons_self, rfl, e, he, e', he', htwins, notToB_forbids (by rw [ht]; rfl),
      notToB_forbids (by rw [ht']; rfl), rfl⟩
  have hlt := nothingOnB.one_lt_count_of_repeats h.coherent hrepeats
  exact fun hnodup => absurd (List.nodup_iff_count_le_one.mp hnodup _) (Nat.not_le.mpr hlt)

end RuleSet

end ImportLint
