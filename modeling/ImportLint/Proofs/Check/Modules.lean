import ImportLint.Proofs.Check.Repeats

/-!
# Rules about modules

What a rule about modules reports, in terms of the records that a graph grew from. A rule about orphans names the modules
that no internal edge touches, unless they are known as targets only (`Graph.Reflects.standing_eq_orphan_iff`), and its
counterpart those that some internal edge touches (`Graph.Coherent.standing_eq_connected_iff`). Each of them names a module
once and without a target, and together with the packages they leave no module out (`RuleSet.count_notices`).
-/

namespace ImportLint

/-! ## Standings -/

namespace Mention

/-- Some record has the module for its source. -/
def IsSource (ms : List Mention) (id : String) : Prop := ∃ r, .record r ∈ ms ∧ r.source = id

/-- Some record is resolved to the module. -/
def IsTarget (ms : List Mention) (id : String) : Prop :=
  ∃ r, .record r ∈ ms ∧ ∃ source kind, r.normalForm = .resolved source id kind

end Mention

theorem Record.target_eq_module_iff (r : Record) (id : String) :
    r.target = .module id ↔ ∃ source kind, r.normalForm = .resolved source id kind := by
  rw [r.normalForm_eq, target]
  cases r.resolvedModule? <;> simp

namespace Graph

variable {g : Graph} {ms : List Mention} {id : String}

/-- Some internal edge has the module for its source or its target. -/
def Touches (g : Graph) (id : String) : Prop :=
  ∃ e ∈ g.edges, e.kind = .internal ∧ (e.source = id ∨ e.target = .module id)

/-- The edges have the ends that the records have. -/
theorem Reflects.exists_key_iff (h : g.Reflects ms) {P : String × Target → Prop} :
    (∃ e ∈ g.edges, P e.key) ↔ ∃ r, .record r ∈ ms ∧ P r.edge.key := by
  have hkeys := h.mem_keys
  simp only [List.mem_map, Array.mem_toList_iff] at hkeys
  constructor
  · rintro ⟨e, he, hP⟩
    obtain ⟨r, hr, hkey⟩ := (hkeys e.key).mp ⟨e, he, rfl⟩
    exact ⟨r, hr, hkey ▸ hP⟩
  · rintro ⟨r, hr, hP⟩
    obtain ⟨e, he, hkey⟩ := (hkeys r.edge.key).mpr ⟨r, hr, rfl⟩
    exact ⟨e, he, hkey ▸ hP⟩

theorem Reflects.isSource_iff (h : g.Reflects ms) : (∃ e ∈ g.edges, e.source = id) ↔ Mention.IsSource ms id :=
  h.exists_key_iff (P := fun key => key.1 = id)

theorem Reflects.isTarget_iff (h : g.Reflects ms) :
    (∃ e ∈ g.edges, e.target = .module id) ↔ Mention.IsTarget ms id := by
  simp only [Mention.IsTarget, ← Record.target_eq_module_iff]
  exact h.exists_key_iff (P := fun key => key.2 = .module id)

namespace Coherent

theorem isInternal_iff (h : g.Coherent) {e : Edge} (he : e ∈ g.edges) : e.isInternal = true ↔ e.kind = .internal := by
  have hkind := h.kind_iff e he
  rw [Edge.isInternal, Bool.and_eq_true, beq_iff_eq, Option.isSome_iff_ne_none]
  exact and_iff_left_of_imp fun hk hn => by simp [hkind.mpr hn] at hk

theorem touches_iff (h : g.Coherent) :
    g.Touches id ↔ ∃ e ∈ g.edges, e.isInternal = true ∧ (e.source = id ∨ e.target = .module id) :=
  exists_congr fun _ => and_congr_right fun he => and_congr_left fun _ => (h.isInternal_iff he).symm

theorem standing_eq_connected_iff (h : g.Coherent) : (Ends.ofGraph g).standing id = .connected ↔ g.Touches id := by
  rw [Ends.standing_ofGraph, h.touches_iff]
  split_ifs <;> simp_all

theorem mem_of_touches (h : g.Coherent) (ht : g.Touches id) : id ∈ g.modules := by
  obtain ⟨e, he, -, rfl | ht⟩ := ht
  · exact h.source_mem e he
  · exact h.target_mem e he id ht

end Coherent

/-- An internal edge has its ends and its kind from some record. -/
theorem Reflects.exists_record_of_touches (h : g.Reflects ms) (ht : g.Touches id) :
    ∃ r, .record r ∈ ms ∧ r.kind = .internal ∧ (r.source = id ∨ r.target = .module id) := by
  obtain ⟨e, he, hk, hends⟩ := ht
  obtain ⟨r, hr, hkey, hkind⟩ := h.record_of_edge e he
  obtain ⟨hs, htarget⟩ := Prod.mk.inj hkey
  exact ⟨r, hr, hkind.trans hk, hends.imp hs.trans htarget.trans⟩

/-- A module is an orphan if no internal edge touches it and it is not known as a target only. -/
theorem Reflects.standing_eq_orphan_iff (h : g.Reflects ms) :
    (Ends.ofGraph g).standing id = .orphan ↔
      ¬g.Touches id ∧ (Mention.IsSource ms id ∨ ¬Mention.IsTarget ms id) := by
  rw [Ends.standing_ofGraph, h.coherent.touches_iff, ← h.isSource_iff, ← h.isTarget_iff]
  split_ifs with ht hp
  · exact iff_of_false nofun fun hn => hn.1 ht
  · exact iff_of_false nofun fun hn => hn.2.elim hp.1 fun hnt => hnt hp.2
  · exact iff_of_true rfl ⟨ht, Classical.or_iff_not_imp_left.mpr fun hs htarget => hp ⟨hs, htarget⟩⟩

theorem isPackage_iff (g : Graph) (id : String) :
    g.isPackage id = true ↔ (Ends.ofGraph g).standing id = .package := by
  rw [← g.standing_eq, standing]
  split_ifs <;> simp_all

end Graph

section

variable [PatternLanguage]

/-! ## What a rule reports -/

namespace Rule

variable {g : Graph} {r : Rule} {orphan : Bool} {id : String} {v : Violation}

/-- What a rule about modules reports of a module. -/
def notice (r : Rule) (orphan : Bool) (id : String) : Violation :=
  { rule := r.name, severity := r.severity, source := id, target? := none,
    message :=
      if orphan then "orphan module: no internal imports and no internal dependents"
      else "module has internal dependencies"
    comment? := r.comment? }

theorem mem_check_modules (hs : r.scope = .modules orphan) :
    v ∈ r.check g (Facts.ofGraph g) ↔
      ∃ id ∈ g.modules, (Ends.ofGraph g).standing id = (if orphan then .orphan else .connected) ∧
        r.source.Admits id ∧ r.notice orphan id = v := by
  have hmodule : ∀ id, r.checkModule orphan (Ends.ofGraph g) id = some v ↔
      (Ends.ofGraph g).standing id = (if orphan then .orphan else .connected) ∧
        r.source.Admits id ∧ r.notice orphan id = v := by
    intro id
    rw [checkModule, Option.ite_none_right_eq_some, Option.some.injEq, PathFilter.passes_iff, and_assoc]
    rfl
  rw [check, hs]
  show v ∈ g.modules.toList.filterMap (r.checkModule orphan (Ends.ofGraph g)) ↔ _
  simp only [List.mem_filterMap, Array.mem_toList_iff, hmodule]

theorem notice_mem_check (hs : r.scope = .modules orphan) :
    r.notice orphan id ∈ r.check g (Facts.ofGraph g) ↔
      id ∈ g.modules ∧ (Ends.ofGraph g).standing id = (if orphan then .orphan else .connected) ∧
        r.source.Admits id := by
  rw [mem_check_modules hs]
  constructor
  · rintro ⟨x, hx, hstanding, hadmits, hnotice⟩
    cases congrArg Violation.source hnotice
    exact ⟨hx, hstanding, hadmits⟩
  · rintro ⟨hid, hstanding, hadmits⟩
    exact ⟨id, hid, hstanding, hadmits, rfl⟩

end Rule

/-! ## Reports -/

theorem Policy.target_ne_none {p : Policy} {elements : List ElementPattern} {g : Graph} {v : Violation}
    (hv : v ∈ p.check elements g) : v.target? ≠ none := by
  obtain ⟨e, -, b, -, hj⟩ := judgement_of_mem_check hv
  rw [hj.parts.2.1]
  exact Option.some_ne_none b

namespace RuleSet

variable (s : RuleSet) {g : Graph} {r : Rule} {orphan : Bool} {id : String}

/-- A violation with the name of a rule is one that the rule finds, or one that the policy finds. -/
theorem mem_check_of_name (hr : r ∈ s.rules) {v : Violation} (hv : v ∈ (s.check g).violations) (hname : v.rule = r.name) :
    v ∈ r.check g (Facts.ofGraph g) ∨ ∃ p ∈ s.policy?, v ∈ p.check s.elements g := by
  obtain ⟨q, hq, hv⟩ | hpolicy := s.mem_check.mp hv
  · have hsame : q = r := s.eq_of_name_eq hq hr ((Rule.check_parts hv).1.symm.trans hname)
    exact Or.inl (hsame ▸ hv)
  · exact Or.inr hpolicy

theorem notice_mem_report (hr : r ∈ s.rules) (hs : r.scope = .modules orphan) :
    r.notice orphan id ∈ (s.check g).violations ↔
      id ∈ g.modules ∧ (Ends.ofGraph g).standing id = (if orphan then .orphan else .connected) ∧
        r.source.Admits id := by
  rw [← Rule.notice_mem_check hs]
  constructor
  · intro hv
    rcases s.mem_check_of_name hr hv rfl with hv | ⟨p, -, hv⟩
    · exact hv
    · exact absurd rfl (Policy.target_ne_none hv)
  · intro hv
    exact s.mem_check.mpr (Or.inl ⟨r, hr, hv⟩)

/-- A rule about orphans names the modules that pass its filter, that no internal edge touches, and that are not known as
targets only. -/
theorem orphan_mem_report {ms : List Mention} (h : g.Reflects ms) (hr : r ∈ s.rules) (hs : r.scope = .modules true) :
    r.notice true id ∈ (s.check g).violations ↔
      id ∈ g.modules ∧ r.source.Admits id ∧ ¬g.Touches id ∧ (Mention.IsSource ms id ∨ ¬Mention.IsTarget ms id) := by
  rw [s.notice_mem_report hr hs, if_pos rfl, h.standing_eq_orphan_iff, and_comm (b := r.source.Admits id)]

/-- A rule names a module once, or not at all. -/
theorem count_notice (h : g.Coherent) (hr : r ∈ s.rules) (hs : r.scope = .modules orphan) {P : Prop} [Decidable P]
    (hP : r.notice orphan id ∈ (s.check g).violations ↔ P) :
    (s.check g).violations.count (r.notice orphan id) = if P then 1 else 0 := by
  by_cases hmem : r.notice orphan id ∈ (s.check g).violations
  · have hfound : r.notice orphan id ∈ r.check g (Facts.ofGraph g) :=
      (Rule.notice_mem_check hs).mpr ((s.notice_mem_report hr hs).mp hmem)
    rw [if_pos (hP.mp hmem), s.count_report, s.count_violations_of_rule hr hfound]
    exact List.count_eq_one_of_mem (Rule.check_modules_nodup h hs _) hfound
  · rw [if_neg (mt hP.mpr hmem), List.count_eq_zero_of_not_mem hmem]

open Classical in
/-- A rule about orphans names a module, once and without a target, if and only if the module passes its filter, no
internal edge touches it, and it is the source of some record or no record is resolved to it. A rule about connected
modules does so if and only if the module passes its filter and some internal edge touches it. Whatever else has the name
of such a rule was found by the policy. So without filters every module is named by the one, or by the other, or it is a
package, and only one of this. -/
theorem count_notices (ms : List Mention) :
    (∀ r ∈ s.rules, r.scope = .modules true → ∀ id,
      (s.check (Graph.ofMentions ms)).violations.count (r.notice true id) =
        if id ∈ (Graph.ofMentions ms).modules ∧ r.source.Admits id ∧ ¬(Graph.ofMentions ms).Touches id ∧
          (Mention.IsSource ms id ∨ ¬Mention.IsTarget ms id) then 1 else 0) ∧
    (∀ r ∈ s.rules, r.scope = .modules false → ∀ id,
      (s.check (Graph.ofMentions ms)).violations.count (r.notice false id) =
        if r.source.Admits id ∧ (Graph.ofMentions ms).Touches id then 1 else 0) ∧
    (∀ r ∈ s.rules, ∀ orphan, r.scope = .modules orphan → ∀ v ∈ (s.check (Graph.ofMentions ms)).violations,
      v.rule = r.name →
        v = r.notice orphan v.source ∨ ∃ p ∈ s.policy?, v ∈ p.check s.elements (Graph.ofMentions ms)) ∧
    ∀ q ∈ s.rules, ∀ r ∈ s.rules, q.scope = .modules true → r.scope = .modules false → q.source = .none →
      r.source = .none → ∀ id ∈ (Graph.ofMentions ms).modules,
        (s.check (Graph.ofMentions ms)).violations.count (q.notice true id) +
          (s.check (Graph.ofMentions ms)).violations.count (r.notice false id) +
          (if (Graph.ofMentions ms).isPackage id = true then 1 else 0) = 1 := by
  have h := Graph.ofMentions_reflects ms
  refine ⟨fun r hr hs id => ?_, fun r hr hs id => ?_, fun r hr orphan hs v hv hname => ?_,
    fun q hq r hr hqs hrs hqnone hrnone id hid => ?_⟩
  · exact s.count_notice h.coherent hr hs (s.orphan_mem_report h hr hs)
  · refine s.count_notice h.coherent hr hs ?_
    rw [s.notice_mem_report hr hs, if_neg (by decide), h.coherent.standing_eq_connected_iff]
    exact ⟨fun hn => ⟨hn.2.2, hn.2.1⟩, fun hn => ⟨h.coherent.mem_of_touches hn.2, hn.2, hn.1⟩⟩
  · rcases s.mem_check_of_name hr hv hname with hfound | hpolicy
    · obtain ⟨id, -, -, -, rfl⟩ := (Rule.mem_check_modules hs).mp hfound
      exact Or.inl rfl
    · exact Or.inr hpolicy
  · rw [s.count_notice h.coherent hq hqs (s.notice_mem_report hq hqs),
      s.count_notice h.coherent hr hrs (s.notice_mem_report hr hrs), hqnone, hrnone]
    simp only [Graph.isPackage_iff, hid, PathFilter.admits_none, true_and, and_true]
    cases (Ends.ofGraph (Graph.ofMentions ms)).standing id <;> simp

end RuleSet

end

namespace RuleSet

/-- A rule about orphans. -/
def strays : Rule :=
  { name := "strays", severity := .warning, comment? := none, source := .none, scope := .modules true,
    named := by decide }

/-- Its counterpart. -/
def linked : Rule :=
  { name := "linked", severity := .info, comment? := none, source := .none, scope := .modules false,
    named := by decide }

def straysAndLinked : RuleSet :=
  { elements := [], rules := [strays, linked], policy? := none, parallel := false, sound := by decide }

/-- An import within the tree, and two imports of packages, one of them by a module without any other import. -/
def packageImports : List Mention :=
  [.record (.resolvedTo "a" "b" .internal), .record (.resolvedTo "a" "react" .npm),
   .record (.resolvedTo "c" "lodash" .npm)]

theorem count_notices_packageImports :
    (straysAndLinked.check (Graph.ofMentions packageImports)).violations.count (strays.notice true "c") = 1 ∧
      (straysAndLinked.check (Graph.ofMentions packageImports)).violations.count (strays.notice true "lodash") = 0 ∧
      ∀ id ∈ (Graph.ofMentions packageImports).modules,
        (straysAndLinked.check (Graph.ofMentions packageImports)).violations.count (strays.notice true id) +
          (straysAndLinked.check (Graph.ofMentions packageImports)).violations.count (linked.notice false id) +
          (if (Graph.ofMentions packageImports).isPackage id = true then 1 else 0) = 1 := by
  classical
  have h := Graph.ofMentions_reflects packageImports
  have hstrays : strays ∈ straysAndLinked.rules := List.mem_cons_self
  have hlinked : linked ∈ straysAndLinked.rules := List.mem_cons_of_mem _ List.mem_cons_self
  have hlast : .record (.resolvedTo "c" "lodash" .npm) ∈ packageImports := by simp [packageImports]
  obtain ⟨horphan, -, -, hpartition⟩ := straysAndLinked.count_notices packageImports
  refine ⟨?_, ?_, hpartition strays hstrays linked hlinked rfl rfl rfl rfl⟩
  · have hc : "c" ∈ (Graph.ofMentions packageImports).modules := (h.mem_modules "c").mpr ⟨_, hlast, by decide⟩
    have hapart : ¬(Graph.ofMentions packageImports).Touches "c" := by
      intro ht
      obtain ⟨r, hr, hk, hends⟩ := h.exists_record_of_touches ht
      simp only [packageImports, List.mem_cons, List.not_mem_nil, or_false, Mention.record.injEq] at hr
      rcases hr with rfl | rfl | rfl <;> revert hk hends <;> decide
    rw [horphan strays hstrays rfl, if_pos ⟨hc, PathFilter.admits_none "c", hapart, Or.inl ⟨_, hlast, rfl⟩⟩]
  · rw [horphan strays hstrays rfl, if_neg]
    rintro ⟨-, -, -, hsource | hn⟩
    · obtain ⟨r, hr, hs⟩ := hsource
      simp only [packageImports, List.mem_cons, List.not_mem_nil, or_false, Mention.record.injEq] at hr
      rcases hr with rfl | rfl | rfl <;> revert hs <;> decide
    · exact hn ⟨_, hlast, "c", .npm, rfl⟩

end RuleSet

end ImportLint
