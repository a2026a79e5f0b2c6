import ImportLint.Proofs.Check.Modules
import ImportLint.Proofs.Graph.Content

/-!
# Further imports that are not internal

A record that is not internal connects no module (`Graph.Reflects.touches_of_further`). A rule about orphans still names a
module that it named before, with one exception: a module without imports of its own, to which the record of another
module is resolved, is a package from then on (`RuleSet.notice_mem_report_of_extends`).
-/

namespace ImportLint

/-! ## Further records -/

/-- The inventory `j` lists the modules that `i` lists, and it has the records of `i` and one more, `q`, wherever it stands:
among the imports of a listed module or by itself. -/
structure Inventory.Extends (i : Inventory) (q : Record) (j : Inventory) : Prop where
  sources : ∀ id ∈ i.listings.map Listing.source, id ∈ j.listings.map Listing.source
  records : j.allRecords.Perm (q :: i.allRecords)

/-- The record comes from another module than the one that it is resolved to, and the inventory has no record of that
module's own. -/
def Inventory.Captures (i : Inventory) (q : Record) (id : String) : Prop :=
  q.target = .module id ∧ q.source ≠ id ∧ ∀ r ∈ i.allRecords, r.source ≠ id

/-- An internal edge between the same ends is there without the further records if none of them is internal. -/
theorem Graph.Reflects.touches_of_further {g g' : Graph} {ms ms' : List Mention} {id : String} (h : g.Reflects ms)
    (h' : g'.Reflects ms') (hkept : ∀ r, .record r ∈ ms → .record r ∈ ms')
    (hfurther : ∀ r, .record r ∈ ms' → .record r ∈ ms ∨ r.kind ≠ .internal) (ht : g'.Touches id) : g.Touches id := by
  obtain ⟨e', he', hinternal, hends⟩ := ht
  obtain ⟨r, hr, hkey, hkind⟩ := h'.record_of_edge e' he'
  have hrm : .record r ∈ ms := (hfurther r hr).resolve_right fun hne => hne (hkind.trans hinternal)
  obtain ⟨e, he, hekey, hle⟩ := h.edge_of_record r hrm
  -- the edge was not of a higher kind before, so its kind is the same
  obtain ⟨q, hq, hqkey, hqkind⟩ := h.record_of_edge e he
  have hge : q.kind.rank ≤ e'.kind.rank := h'.rank_le he' (hkept q hq) (hqkey.trans (hekey.trans hkey))
  rw [hqkind, ← hkind] at hge
  have hsame : e.kind = .internal := by
    rw [Kind.rank_injective (Nat.le_antisymm hge hle), hkind, hinternal]
  obtain ⟨hs, htarget⟩ := Prod.mk.inj (hekey.trans hkey)
  exact ⟨e, he, hsame, hends.imp hs.trans htarget.trans⟩

namespace Inventory.Extends

variable {i j : Inventory} {q r : Record} {id : String} (h : i.Extends q j)

include h

theorem record_mem_mentions_iff : .record r ∈ j.mentions ↔ r = q ∨ .record r ∈ i.mentions := by
  rw [record_mem_mentions, record_mem_mentions, h.records.mem_iff, List.mem_cons]

theorem isSource_iff : Mention.IsSource j.mentions id ↔ q.source = id ∨ Mention.IsSource i.mentions id := by
  simp only [Mention.IsSource, h.record_mem_mentions_iff, or_and_right, exists_or, exists_eq_left]

theorem isTarget_iff : Mention.IsTarget j.mentions id ↔ q.target = .module id ∨ Mention.IsTarget i.mentions id := by
  simp only [Mention.IsTarget, ← Record.target_eq_module_iff, h.record_mem_mentions_iff, or_and_right, exists_or,
    exists_eq_left]

theorem mem_modules (hid : id ∈ i.graph.modules) : id ∈ j.graph.modules := by
  obtain ⟨m, hm, hmid⟩ := (i.graph_reflects.mem_modules id).mp hid
  refine (j.graph_reflects.mem_modules id).mpr ⟨m, ?_, hmid⟩
  cases m with
  | module x =>
    rw [module_mem_mentions] at hm ⊢
    exact h.sources x hm
  | record r => exact h.record_mem_mentions_iff.mpr (Or.inr hm)

theorem touches (hq : q.kind ≠ .internal) (ht : j.graph.Touches id) : i.graph.Touches id := by
  refine i.graph_reflects.touches_of_further j.graph_reflects (fun r hr => ?_) (fun r hr => ?_) ht
  · exact h.record_mem_mentions_iff.mpr (Or.inr hr)
  · rcases h.record_mem_mentions_iff.mp hr with rfl | hr
    · exact Or.inr hq
    · exact Or.inl hr

/-- Where a module was not known as a target only, it is so afterwards if and only if the record captures it. -/
theorem known_iff (hi : Mention.IsSource i.mentions id ∨ ¬Mention.IsTarget i.mentions id) :
    (Mention.IsSource j.mentions id ∨ ¬Mention.IsTarget j.mentions id) ↔ ¬i.Captures q id := by
  have hown : (∀ r ∈ i.allRecords, r.source ≠ id) ↔ ¬Mention.IsSource i.mentions id := by
    simp [Mention.IsSource, record_mem_mentions]
  rw [Captures, hown, h.isSource_iff, h.isTarget_iff]
  tauto

end Inventory.Extends

section

variable [PatternLanguage]

/-! ## Reports -/

namespace RuleSet

variable (s : RuleSet) {r : Rule} {i j : Inventory} {q : Record} {id : String}

/-- A record that is not internal takes no module off the report of a rule about orphans, unless it captures the module,
which is a package of the new graph if and only if this is so. -/
theorem notice_mem_report_of_extends (hr : r ∈ s.rules) (hs : r.scope = .modules true) (h : i.Extends q j)
    (hq : q.kind ≠ .internal) (hid : r.notice true id ∈ (s.check i.graph).violations) :
    (r.notice true id ∈ (s.check j.graph).violations ↔ ¬i.Captures q id) ∧
      (j.graph.isPackage id = true ↔ i.Captures q id) := by
  obtain ⟨hmem, hadmits, huntouched, hknown⟩ := (s.orphan_mem_report i.graph_reflects hr hs).mp hid
  have huntouched' : ¬j.graph.Touches id := mt (h.touches hq) huntouched
  have horphan : (Ends.ofGraph j.graph).standing id = .orphan ↔ ¬i.Captures q id := by
    rw [j.graph_reflects.standing_eq_orphan_iff, h.known_iff hknown, and_iff_right huntouched']
  constructor
  · rw [s.orphan_mem_report j.graph_reflects hr hs, h.known_iff hknown]
    simp only [h.mem_modules hmem, hadmits, huntouched', not_false_eq_true, true_and]
  · rw [Graph.isPackage_iff]
    have hconnected := mt j.graph_reflects.coherent.standing_eq_connected_iff.mp huntouched'
    cases hstanding : (Ends.ofGraph j.graph).standing id <;> simp_all

end RuleSet

end

namespace RuleSet

/-- One rule about orphans. -/
def onlyStrays : RuleSet :=
  { elements := [], rules := [strays], policy? := none, parallel := false, sound := by decide }

/-- A module without imports. -/
def loneModule : Inventory := { listings := [{ source := "a", dependencies := [] }], records := [] }

/-- The same module, and one record. -/
def loneModuleAnd (q : Record) : Inventory := { loneModule with records := [q] }

theorem loneModule_extends (q : Record) : loneModule.Extends q (loneModuleAnd q) where
  sources _ hid := hid
  records := .refl _

theorem loneModule_stray : strays.notice true "a" ∈ (onlyStrays.check loneModule.graph).violations := by
  have h := loneModule.graph_reflects
  have hrecords : ∀ r, Mention.record r ∉ loneModule.mentions := fun r => by
    rw [Inventory.record_mem_mentions]
    exact List.not_mem_nil
  refine (onlyStrays.orphan_mem_report h List.mem_cons_self rfl).mpr
    ⟨(h.mem_modules "a").mpr ⟨_, List.mem_cons_self, by decide⟩, PathFilter.admits_none "a", fun ht => ?_, Or.inr ?_⟩
  · obtain ⟨r, hr, -⟩ := h.exists_record_of_touches ht
    exact hrecords r hr
  · rintro ⟨r, hr, -⟩
    exact hrecords r hr

/-- An import of a package by the module itself changes nothing. -/
theorem loneModule_stray_package :
    loneModule.Extends (.resolvedTo "a" "react" .npm) (loneModuleAnd (.resolvedTo "a" "react" .npm)) ∧
      strays.notice true "a" ∈ (onlyStrays.check loneModule.graph).violations ∧
      strays.notice true "a" ∈ (onlyStrays.check (loneModuleAnd (.resolvedTo "a" "react" .npm)).graph).violations := by
  have hextends := loneModule_extends (.resolvedTo "a" "react" .npm)
  have hkept := (onlyStrays.notice_mem_report_of_extends List.mem_cons_self rfl hextends (by decide) loneModule_stray).1
  exact ⟨hextends, loneModule_stray, hkept.mpr fun hc => hc.2.1 rfl⟩

/-- An import from elsewhere that takes the module for a package hides it, although the module is listed. -/
theorem loneModule_captured :
    "a" ∈ loneModule.listings.map Listing.source ∧
      loneModule.Extends (.resolvedTo "b" "a" .npm) (loneModuleAnd (.resolvedTo "b" "a" .npm)) ∧
      (Record.resolvedTo "b" "a" .npm).kind ≠ .internal ∧
      (∀ e ∈ loneModule.graph.edges, e.key ≠ (Record.resolvedTo "b" "a" .npm).edge.key) ∧
      strays ∈ onlyStrays.rules ∧ strays.scope = .modules true ∧
      strays.notice true "a" ∈ (onlyStrays.check loneModule.graph).violations ∧
      strays.notice true "a" ∉ (onlyStrays.check (loneModuleAnd (.resolvedTo "b" "a" .npm)).graph).violations := by
  refine ⟨by decide, loneModule_extends _, by decide, fun e he => ?_, List.mem_cons_self, rfl, loneModule_stray,
    fun hstray => ?_⟩
  · obtain ⟨r, hr, -⟩ := loneModule.graph_reflects.record_of_edge e he
    rw [Inventory.record_mem_mentions] at hr
    exact absurd hr List.not_mem_nil
  · -- the only record is resolved to the module, which is the source of none
    have hmem : Mention.record (.resolvedTo "b" "a" .npm) ∈ (loneModuleAnd (.resolvedTo "b" "a" .npm)).mentions :=
      (Inventory.record_mem_mentions _ _).mpr List.mem_cons_self
    have h := (loneModuleAnd (.resolvedTo "b" "a" .npm)).graph_reflects
    obtain ⟨-, -, -, hsource | hn⟩ := (onlyStrays.orphan_mem_report h List.mem_cons_self rfl).mp hstray
    · obtain ⟨r, hr, hs⟩ := hsource
      rw [Inventory.record_mem_mentions] at hr
      cases List.mem_singleton.mp hr
      exact absurd hs (by decide)
    · exact hn ⟨_, hmem, "b", .npm, rfl⟩

end RuleSet

end ImportLint
