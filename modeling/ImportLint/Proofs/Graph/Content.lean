import ImportLint.Proofs.Cycle.Components
import ImportLint.Proofs.Graph.Standing

/-!
# What graphs say

Two graphs say the same (`Graph.Alike`) if they have the same modules and, but for the specifiers of resolved edges, the
same edges, in any order. Graphs that grew from the same modules and from records with the same normal forms say the
same (`Graph.Reflects.alike`), and in them the same edges are on cycles (`Graph.Alike.onCycle_iff`) and every module
stands where it stands in the other (`Graph.Alike.standing_eq`).
-/

namespace ImportLint

/-! ## Normal forms of records -/

namespace Record

/-- What counts of a record. -/
inductive NormalForm
  | resolved (source target : String) (kind : Kind)
  | unresolved (source specifier : String)
  deriving DecidableEq, Repr

/-- The normal form of a record. It is resolved if the record is marked so, names a target that is not empty and is not
stated to be unresolvable; an unstated kind is internal. Otherwise the specifier counts, for which the target or else
the empty text stands in. -/
def normalForm (r : Record) : NormalForm :=
  match r.to? with
  | some t =>
    if r.resolved = true ∧ t ≠ "" ∧ r.kind? ≠ some .unresolvable then
      .resolved r.source t (r.kind?.getD .internal)
    else .unresolved r.source (r.specifier?.getD t)
  | none => .unresolved r.source (r.specifier?.getD "")

end Record

namespace Edge

/-- The edge without what only the first record for it says: the label of the target stands for the specifier. -/
def plain (e : Edge) : Edge := { e with specifier := e.target.label }

theorem plain_eq_iff {e e' : Edge} : e.plain = e'.plain ↔ e.key = e'.key ∧ e.kind = e'.kind := by
  obtain ⟨s, t, k, _⟩ := e
  obtain ⟨s', t', k', _⟩ := e'
  simp only [plain, key, Edge.mk.injEq, Prod.mk.injEq]
  constructor
  · rintro ⟨hs, ht, hk, -⟩
    exact ⟨⟨hs, ht⟩, hk⟩
  · rintro ⟨⟨hs, ht⟩, hk⟩
    exact ⟨hs, ht, hk, by rw [ht]⟩

end Edge

/-- The edge that records with a normal form stand for. -/
def Record.NormalForm.edge : Record.NormalForm → Edge
  | resolved source target kind => { source := source, target := .module target, kind := kind, specifier := target }
  | unresolved source specifier =>
    { source := source, target := .unresolved specifier, kind := .unresolvable, specifier := specifier }

namespace Record

theorem normalForm_eq (r : Record) :
    r.normalForm =
      match r.resolvedModule? with
      | some id => .resolved r.source id (r.kind?.getD .internal)
      | none => .unresolved r.source r.specifier := by
  unfold normalForm resolvedModule? specifier
  cases r.to? with
  | none => cases r.specifier? <;> rfl
  | some t =>
    by_cases h : r.resolved = true ∧ t ≠ "" ∧ r.kind? ≠ some .unresolvable
    · have hb : (r.resolved && t != "" && r.kind? != some .unresolvable) = true := by
        simpa [and_assoc] using h
      rw [Option.filter_some, if_pos hb]
      exact if_pos h
    · have hb : ¬(r.resolved && t != "" && r.kind? != some .unresolvable) = true := by
        simpa [and_assoc] using h
      rw [Option.filter_some, if_neg hb]
      cases r.specifier? <;> exact if_neg h

theorem plain_edge (r : Record) : r.edge.plain = r.normalForm.edge := by
  rw [normalForm_eq, edge, Edge.plain, target, kind]
  cases r.resolvedModule? <;> rfl

end Record

namespace Graph

variable {g g' : Graph} {ms ms' : List Mention}

/-- The graphs have the same modules and, but for the specifiers of resolved edges, the same edges, in any order. -/
structure Alike (g g' : Graph) : Prop where
  coherent : g.Coherent
  coherent' : g'.Coherent
  modules : g.modules.toList.Perm g'.modules.toList
  edges : (g.edges.toList.map Edge.plain).Perm (g'.edges.toList.map Edge.plain)

namespace Reflects

theorem plain_mem (h : g.Reflects ms) {e : Edge} (he : e ∈ g.edges) :
    ∃ r, .record r ∈ ms ∧ r.edge.plain = e.plain := by
  obtain ⟨r, hr, hkey, hkind⟩ := h.record_of_edge e he
  exact ⟨r, hr, Edge.plain_eq_iff.mpr ⟨hkey, hkind⟩⟩

/-- No record with the ends of an edge has a higher kind. -/
theorem rank_le (h : g.Reflects ms) {e : Edge} (he : e ∈ g.edges) {r : Record} (hr : .record r ∈ ms)
    (hkey : r.edge.key = e.key) : r.kind.rank ≤ e.kind.rank := by
  obtain ⟨x, hx, hxkey, hle⟩ := h.edge_of_record r hr
  exact h.coherent.eq_of_key_eq hx he (hxkey.trans hkey) ▸ hle

/-- Where the records with the ends of an edge are the same but for what does not count, the edge is in the other graph. -/
theorem exists_plain_eq (h : g.Reflects ms) (h' : g'.Reflects ms') {e : Edge} (he : e ∈ g.edges)
    (hr : ∀ x : Edge, x.key = e.key →
      ((∃ r, .record r ∈ ms ∧ r.edge.plain = x) ↔ ∃ r, .record r ∈ ms' ∧ r.edge.plain = x)) :
    ∃ e' ∈ g'.edges, e'.plain = e.plain := by
  obtain ⟨q, hq, hqe⟩ := (hr e.plain rfl).mp (h.plain_mem he)
  obtain ⟨hqkey, hqkind⟩ := Edge.plain_eq_iff.mp hqe
  obtain ⟨e', he', hkey, hle⟩ := h'.edge_of_record q hq
  obtain ⟨r, hrm, hre⟩ := (hr e'.plain (hkey.trans hqkey)).mpr (h'.plain_mem he')
  obtain ⟨hrkey, hrkind⟩ := Edge.plain_eq_iff.mp hre
  have hge : e'.kind.rank ≤ e.kind.rank := by
    rw [← hrkind]
    exact h.rank_le he hrm (hrkey.trans (hkey.trans hqkey))
  have hle' : e.kind.rank ≤ e'.kind.rank := by
    rw [← hqkind]
    exact hle
  exact ⟨e', he', Edge.plain_eq_iff.mpr ⟨hkey.trans hqkey, Kind.rank_injective (Nat.le_antisymm hge hle')⟩⟩

end Reflects

theorem Coherent.plain_nodup (h : g.Coherent) : (g.edges.toList.map Edge.plain).Nodup := by
  refine List.Nodup.of_map Edge.key ?_
  rw [List.map_map]
  exact h.keys_nodup

/-- Mentions of the same modules and of records with the same normal forms name the same modules. -/
theorem exists_id_mono (hm : ∀ id, .module id ∈ ms → .module id ∈ ms')
    (hr : ∀ x, (∃ r, .record r ∈ ms ∧ r.edge.plain = x) → ∃ r, .record r ∈ ms' ∧ r.edge.plain = x) {id : String} :
    (∃ m ∈ ms, id ∈ m.ids) → ∃ m ∈ ms', id ∈ m.ids := by
  rintro ⟨m, hmem, hid⟩
  cases m with
  | module x => exact ⟨.module x, hm x hmem, hid⟩
  | record r =>
    obtain ⟨q, hq, hqr⟩ := hr _ ⟨r, hmem, rfl⟩
    obtain ⟨hs, ht⟩ := Prod.mk.inj (Edge.plain_eq_iff.mp hqr).1
    rw [Record.edge_source, Record.edge_source] at hs
    rw [Record.edge_target, Record.edge_target] at ht
    refine ⟨.record q, hq, ?_⟩
    rw [Mention.ids, hs, ht]
    exact hid

/-- Graphs that grew from the same modules and from records with the same normal forms say the same. -/
theorem Reflects.alike (h : g.Reflects ms) (h' : g'.Reflects ms')
    (hm : ∀ id, .module id ∈ ms ↔ .module id ∈ ms')
    (hr : ∀ x, (∃ r, .record r ∈ ms ∧ r.edge.plain = x) ↔ ∃ r, .record r ∈ ms' ∧ r.edge.plain = x) :
    g.Alike g' := by
  refine
    { coherent := h.coherent
      coherent' := h'.coherent
      modules := ?_
      edges := ?_ }
  · rw [List.perm_ext_iff_of_nodup h.coherent.modules_nodup h'.coherent.modules_nodup]
    intro id
    rw [Array.mem_toList_iff, Array.mem_toList_iff, h.mem_modules, h'.mem_modules]
    constructor
    · exact exists_id_mono (fun x => (hm x).mp) fun x => (hr x).mp
    · exact exists_id_mono (fun x => (hm x).mpr) fun x => (hr x).mpr
  · rw [List.perm_ext_iff_of_nodup h.coherent.plain_nodup h'.coherent.plain_nodup]
    intro x
    simp only [List.mem_map, Array.mem_toList_iff]
    constructor
    · rintro ⟨e, he, rfl⟩
      exact h.exists_plain_eq h' he fun x _ => hr x
    · rintro ⟨e, he, rfl⟩
      exact h'.exists_plain_eq h he fun x _ => (hr x).symm

/-! ## What does not depend on the order -/

namespace Alike

theorem refl (h : g.Coherent) : g.Alike g := ⟨h, h, .refl _, .refl _⟩

theorem symm (h : g.Alike g') : g'.Alike g := ⟨h.coherent', h.coherent, h.modules.symm, h.edges.symm⟩

/-- What is read off the edges without their specifiers is the same. -/
theorem filterMap_perm {α : Type} (h : g.Alike g') {f f' : Edge → Option α} (hf : ∀ e, f e = f' e.plain)
    (hf' : ∀ e, f' e = f' e.plain) : (g.edges.toList.filterMap f).Perm (g'.edges.toList.filterMap f') := by
  have hplain := h.edges.filterMap f'
  rw [List.filterMap_map, List.filterMap_map] at hplain
  rw [funext hf]
  conv_rhs => rw [funext hf']
  exact hplain

/-- An edge with a property that does not look at its specifier is in both graphs or in neither. -/
theorem exists_edge_iff (h : g.Alike g') {P : Edge → Prop} (hP : ∀ e, P e.plain ↔ P e) :
    (∃ e ∈ g.edges, P e) ↔ ∃ e ∈ g'.edges, P e := by
  suffices hone : ∀ {a b : Graph}, a.Alike b → (∃ e ∈ a.edges, P e) → ∃ e ∈ b.edges, P e from
    ⟨hone h, hone h.symm⟩
  rintro a b hab ⟨e, he, hPe⟩
  have hmem : e.plain ∈ b.edges.toList.map Edge.plain :=
    hab.edges.mem_iff.mp (List.mem_map.mpr ⟨e, Array.mem_toList_iff.mpr he, rfl⟩)
  obtain ⟨x, hx, hxe⟩ := List.mem_map.mp hmem
  exact ⟨x, Array.mem_toList_iff.mp hx, (hP x).mp (hxe ▸ (hP e).mpr hPe)⟩

theorem imports_eq (h : g.Alike g') : g.Imports = g'.Imports := by
  funext a b
  exact propext (h.exists_edge_iff fun _ => Iff.rfl)

/-- The same edges are on cycles. -/
theorem onCycle_iff (h : g.Alike g') (e : Edge) : g.OnCycle e ↔ g'.OnCycle e := by
  rw [OnCycle, OnCycle, Leads, Leads, h.imports_eq]

/-- Every module stands where it stands in the other graph. -/
theorem standing_eq (h : g.Alike g') (id : String) : (Ends.ofGraph g).standing id = (Ends.ofGraph g').standing id := by
  rw [Ends.standing_ofGraph, Ends.standing_ofGraph]
  simp only [h.exists_edge_iff (P := fun e => e.isInternal = true ∧ (e.source = id ∨ e.target = .module id))
      fun _ => Iff.rfl,
    h.exists_edge_iff (P := fun e => e.source = id) fun _ => Iff.rfl,
    h.exists_edge_iff (P := fun e => e.target = .module id) fun _ => Iff.rfl]

end Alike

end Graph

/-- Inventories that list the same modules and whose records have the same normal forms give graphs that say the
same. -/
theorem Inventory.graph_alike {i j : Inventory}
    (hm : ∀ id, id ∈ i.listings.map Listing.source ↔ id ∈ j.listings.map Listing.source)
    (hr : ∀ n, n ∈ i.allRecords.map Record.normalForm ↔ n ∈ j.allRecords.map Record.normalForm) :
    i.graph.Alike j.graph := by
  have hplain : ∀ {a b : Inventory},
      (∀ n, n ∈ a.allRecords.map Record.normalForm → n ∈ b.allRecords.map Record.normalForm) →
      ∀ x, (∃ r, .record r ∈ a.mentions ∧ r.edge.plain = x) → ∃ r, .record r ∈ b.mentions ∧ r.edge.plain = x := by
    rintro a b hab x ⟨r, hmem, rfl⟩
    obtain ⟨q, hq, hqr⟩ := List.mem_map.mp (hab _ (List.mem_map_of_mem ((a.record_mem_mentions r).mp hmem)))
    exact ⟨q, (b.record_mem_mentions q).mpr hq, by rw [q.plain_edge, r.plain_edge, hqr]⟩
  refine i.graph_reflects.alike j.graph_reflects (fun id => ?_) fun x => ⟨hplain (fun n => (hr n).mp) x, hplain (fun n => (hr n).mpr) x⟩
  rw [i.module_mem_mentions, j.module_mem_mentions]
  exact hm id

end ImportLint
