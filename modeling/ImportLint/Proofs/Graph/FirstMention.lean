import ImportLint.Proofs.Graph.Content

/-!
# Graphs in the order of first mention

A graph takes in one call after another and never sees them together. All the same it is what all of them say: its
modules and its edges stand in the order in which they are mentioned first, each edge with the specifier of the first
record for it and the highest kind of all (`Graph.Transcribes`). Further calls leave what is there in its place and only
raise kinds (`Graph.Continues`), and a call that is made again changes nothing (`Graph.grow_of_mem`). The main statement
is `Graph.ofMentions_transcribes`.
-/

namespace ImportLint

/-! ## First occurrences -/

theorem eraseDups_concat_of_mem {α : Type} [BEq α] [LawfulBEq α] {l : List α} {a : α} (ha : a ∈ l) :
    (l ++ [a]).eraseDups = l.eraseDups := by
  simp [List.eraseDups_append, List.removeAll, ha]

theorem eraseDups_concat_of_not_mem {α : Type} [BEq α] [LawfulBEq α] {l : List α} {a : α} (ha : a ∉ l) :
    (l ++ [a]).eraseDups = l.eraseDups ++ [a] := by
  simp [List.eraseDups_append, List.removeAll, ha, List.eraseDups_cons]

/-! ## What mentions say in order -/

namespace Record.NormalForm

/-- The modules that a record names: its source, then the target if it is resolved. -/
def ids : NormalForm → List String
  | resolved source target _ => [source, target]
  | unresolved source _ => [source]

/-- What tells the edges of records apart: the source with the target module, or with the specifier. -/
def key : NormalForm → String × Target
  | resolved source target _ => (source, .module target)
  | unresolved source specifier => (source, .unresolved specifier)

/-- The kind that a record gives to its edge. -/
def kind : NormalForm → Kind
  | resolved _ _ kind => kind
  | unresolved _ _ => .unresolvable

end Record.NormalForm

namespace Record

variable (r : Record)

@[simp] theorem key_normalForm : r.normalForm.key = r.edge.key := by
  rw [normalForm_eq, edge, Edge.key, target]
  cases r.resolvedModule? <;> rfl

@[simp] theorem kind_normalForm : r.normalForm.kind = r.kind := by
  rw [normalForm_eq, kind]
  cases r.resolvedModule? <;> rfl

theorem ids_normalForm : r.normalForm.ids = r.source :: r.target.module?.toList := by
  rw [normalForm_eq, target]
  cases r.resolvedModule? <;> rfl

end Record

namespace Mention

/-- The modules that a mention names, in order. -/
def named : Mention → List String
  | module id => [id]
  | record r => r.normalForm.ids

theorem named_eq (m : Mention) : m.named = m.ids := by
  cases m with
  | module id => rfl
  | record r => exact r.ids_normalForm

/-- The record that a mention is. -/
def record? : Mention → Option Record
  | module _ => none
  | record r => some r

/-- The records among mentions, in order. -/
def records (ms : List Mention) : List Record := ms.filterMap record?

@[simp] theorem records_concat_module (ms : List Mention) (id : String) : records (ms ++ [.module id]) = records ms := by
  simp [records, record?]

@[simp] theorem records_concat_record (ms : List Mention) (r : Record) :
    records (ms ++ [.record r]) = records ms ++ [r] := by
  simp [records, record?]

theorem mem_records {ms : List Mention} {r : Record} : r ∈ records ms ↔ .record r ∈ ms := by
  simp only [records, List.mem_filterMap]
  constructor
  · rintro ⟨m, hm, hr⟩
    cases m with
    | module id => cases hr
    | record q => exact Option.some.inj hr ▸ hm
  · exact fun hr => ⟨.record r, hr, rfl⟩

/-- The modules named by mentions, in the order in which they are named first. -/
def modules (ms : List Mention) : List String := (ms.flatMap named).eraseDups

/-- The keys of records among mentions, in the order in which they come first. -/
def keys (ms : List Mention) : List (String × Target) :=
  ((records ms).map fun r => r.normalForm.key).eraseDups

/-- Further mentions put their keys behind those that are there. -/
theorem keys_prefix (ms ms' : List Mention) : keys ms <+: keys (ms ++ ms') := by
  rw [keys, keys, records, records, List.filterMap_append, List.map_append, List.eraseDups_append]
  exact List.prefix_append _ _

end Mention

namespace Graph

variable {g g' k : Graph} {ms : List Mention}

theorem ofMentions_concat (ms : List Mention) (m : Mention) : ofMentions (ms ++ [m]) = (ofMentions ms).grow m := by
  rw [ofMentions, List.foldl_append]
  rfl

/-! ## Modules in order -/

namespace Coherent

theorem addModule_of_mem (h : g.Coherent) {id : String} (hid : id ∈ g.modules) : g.addModule id = g := by
  obtain ⟨i, hi⟩ := h.mem_iff_find.mp hid
  rcases g.addModule_cases id with ⟨-, -, he⟩ | ⟨hn, -⟩
  · exact he
  · rw [hi] at hn
    cases hn

theorem toList_addModule (h : g.Coherent) {l : List String} (hl : g.modules.toList = l.eraseDups) (id : String) :
    (g.addModule id).modules.toList = (l ++ [id]).eraseDups := by
  have hmem : id ∈ l ↔ id ∈ g.modules := by
    rw [← List.mem_eraseDups, ← hl, Array.mem_toList_iff]
  by_cases hid : id ∈ l
  · rw [eraseDups_concat_of_mem hid, h.addModule_of_mem (hmem.mp hid), hl]
  · rcases g.addModule_cases id with ⟨i, hi, -⟩ | ⟨-, he⟩
    · exact absurd (hmem.mpr (h.mem_iff_find.mpr ⟨i, hi⟩)) hid
    · rw [eraseDups_concat_of_not_mem hid, he, Array.toList_push, hl]

theorem toList_addTarget (h : g.Coherent) {l : List String} (hl : g.modules.toList = l.eraseDups) (t : Target) :
    (g.addTarget t).modules.toList = (l ++ t.module?.toList).eraseDups := by
  cases t with
  | module id => exact h.toList_addModule hl id
  | unresolved s =>
    rw [Target.module?, Option.toList_none, List.append_nil]
    exact hl

end Coherent

/-- The modules stand in the order in which they are named first. -/
theorem modules_ofMentions (ms : List Mention) : (ofMentions ms).modules.toList = Mention.modules ms := by
  induction ms using List.reverseRecOn with
  | nil => rfl
  | append_singleton ms m ih =>
    have h := (ofMentions_reflects ms).coherent
    rw [ofMentions_concat, Mention.modules, List.flatMap_append, List.flatMap_singleton, m.named_eq]
    cases m with
    | module id => exact h.toList_addModule ih id
    | record r =>
      have hends := (h.addModule r.source).toList_addTarget (h.toList_addModule ih r.source) r.target
      have hc := (h.addModule r.source).addTarget r.target
      rw [grow, addRecord, (modules_addEdge hc r.edge).1, hends, List.append_assoc]
      rfl

/-! ## Edges in order -/

namespace Coherent

theorem mem_keys_iff (h : g.Coherent) {key : String × Target} :
    key ∈ g.edges.toList.map Edge.key ↔ ∃ i, g.findEdge? key = some i := by
  simp only [h.findEdge, List.mem_map, Array.mem_toList_iff, Array.mem_iff_getElem?]
  constructor
  · rintro ⟨e, ⟨i, hi⟩, hk⟩
    exact ⟨i, e, hi, hk⟩
  · rintro ⟨i, e, hi, hk⟩
    exact ⟨e, ⟨i, hi⟩, hk⟩

theorem keys_addEdge (h : g.Coherent) {l : List (String × Target)} (hl : g.edges.toList.map Edge.key = l.eraseDups)
    (e : Edge) : (g.addEdge e).edges.toList.map Edge.key = (l ++ [e.key]).eraseDups := by
  have hmem : e.key ∈ l ↔ ∃ i, g.findEdge? e.key = some i := by
    rw [← List.mem_eraseDups, ← hl, h.mem_keys_iff]
  rcases addEdge_cases h e with ⟨hn, he⟩ | ⟨i, old, hi, hk, hcases⟩
  · rw [eraseDups_concat_of_not_mem (by rw [hmem, hn]; simp), he, ← hl]
    simp [pushEdge]
  · rw [eraseDups_concat_of_mem (hmem.mpr ⟨i, (h.findEdge _ i).mpr ⟨old, hi, hk⟩⟩), ← hl]
    rcases hcases with ⟨-, he⟩ | ⟨-, he⟩
    · rw [he]
    · -- another kind is no other key
      rw [he]
      obtain ⟨hlt, hold⟩ := Array.getElem?_eq_some_iff.mp hi
      have hlen : i < (g.edges.toList.map Edge.key).length := by simpa using hlt
      have hkey : (g.edges.toList.map Edge.key)[i] = old.key := by simp [hold]
      show (g.edges.setIfInBounds i { old with kind := e.kind }).toList.map Edge.key = _
      rw [Array.toList_setIfInBounds, List.map_set]
      show (g.edges.toList.map Edge.key).set i old.key = _
      rw [← hkey, List.set_getElem_self]

/-- An edge has its key and its specifier from before, or is the new edge and the first with its key. -/
theorem old_or_new (h : g.Coherent) {e x : Edge} (hx : x ∈ (g.addEdge e).edges) :
    (∃ y ∈ g.edges, y.key = x.key ∧ y.specifier = x.specifier) ∨
      x = e ∧ e.key ∉ g.edges.toList.map Edge.key := by
  rcases addEdge_cases h e with ⟨hn, he⟩ | ⟨i, old, hi, hk, ⟨-, he⟩ | ⟨-, he⟩⟩
  · rw [he] at hx
    rcases Array.mem_push.mp hx with hx | rfl
    · exact Or.inl ⟨x, hx, rfl, rfl⟩
    · exact Or.inr ⟨rfl, by rw [h.mem_keys_iff, hn]; simp⟩
  · rw [he] at hx
    exact Or.inl ⟨x, hx, rfl, rfl⟩
  · rw [he] at hx
    rcases Array.mem_or_eq_of_mem_setIfInBounds hx with hx | rfl
    · exact Or.inl ⟨x, hx, rfl, rfl⟩
    · exact Or.inl ⟨old, Array.mem_of_getElem? hi, rfl, rfl⟩

end Coherent

/-- The edges stand in the order in which their keys come first. -/
theorem keys_ofMentions (ms : List Mention) : (ofMentions ms).edges.toList.map Edge.key = Mention.keys ms := by
  induction ms using List.reverseRecOn with
  | nil => rfl
  | append_singleton ms m ih =>
    have h := (ofMentions_reflects ms).coherent
    rw [ofMentions_concat, Mention.keys]
    cases m with
    | module id =>
      rw [grow, edges_addModule, Mention.records_concat_module]
      exact ih
    | record r =>
      have hc := (h.addModule r.source).addTarget r.target
      rw [Mention.records_concat_record, List.map_append, List.map_singleton, r.key_normalForm]
      exact hc.keys_addEdge (by rw [edges_addTarget, edges_addModule]; exact ih) r.edge

/-- The first record for an edge gives the specifier. -/
theorem specifier_ofMentions (ms : List Mention) : ∀ e ∈ (ofMentions ms).edges,
    ((Mention.records ms).find? fun r => r.normalForm.key = e.key).map Record.specifier = some e.specifier := by
  induction ms using List.reverseRecOn with
  | nil =>
    intro e he
    simp [ofMentions, empty] at he
  | append_singleton ms m ih =>
    have h := (ofMentions_reflects ms).coherent
    rw [ofMentions_concat]
    cases m with
    | module id =>
      rw [grow, edges_addModule, Mention.records_concat_module]
      exact ih
    | record r =>
      intro e he
      have hc := (h.addModule r.source).addTarget r.target
      rw [Mention.records_concat_record, List.find?_append, Option.map_or]
      rcases hc.old_or_new he with ⟨y, hy, hkey, hspec⟩ | ⟨rfl, hnew⟩
      · rw [edges_addTarget, edges_addModule] at hy
        have hfirst := ih y hy
        rw [hkey, hspec] at hfirst
        rw [hfirst, Option.some_or]
      · -- no record before has the key
        rw [edges_addTarget, edges_addModule, keys_ofMentions, Mention.keys, List.mem_eraseDups] at hnew
        have hnone : (Mention.records ms).find? (fun q => q.normalForm.key = r.edge.key) = none := by
          rw [List.find?_eq_none]
          intro q hq hk
          exact hnew (List.mem_map.mpr ⟨q, hq, of_decide_eq_true hk⟩)
        rw [hnone, Option.map_none, Option.none_or, List.find?_singleton, r.key_normalForm]
        simp [Record.edge]

/-! ## Further calls -/

/-- A graph with more in it: modules and edges keep their places, and edges their ends and specifiers, but kinds may
have risen. -/
structure Continues (g g' : Graph) : Prop where
  modules : g.modules.toList <+: g'.modules.toList
  edges : ∀ (i : Nat) (e : Edge), g.edges[i]? = some e → ∃ e', g'.edges[i]? = some e' ∧ e'.key = e.key ∧
    e'.specifier = e.specifier ∧ e.kind.rank ≤ e'.kind.rank

namespace Continues

theorem refl (g : Graph) : g.Continues g where
  modules := List.prefix_refl _
  edges _ e he := ⟨e, he, rfl, rfl, Nat.le_refl _⟩

theorem trans (h : g.Continues g') (h' : g'.Continues k) : g.Continues k where
  modules := h.modules.trans h'.modules
  edges i e he := by
    obtain ⟨e', he', hk, hs, hr⟩ := h.edges i e he
    obtain ⟨x, hx, hk', hs', hr'⟩ := h'.edges i e' he'
    exact ⟨x, hx, hk'.trans hk, hs'.trans hs, Nat.le_trans hr hr'⟩

theorem addModule (g : Graph) (id : String) : g.Continues (g.addModule id) where
  modules := by
    rcases g.addModule_cases id with ⟨-, -, he⟩ | ⟨-, he⟩
    · simp [he]
    · simp [he]
  edges i e he := ⟨e, by rwa [edges_addModule], rfl, rfl, Nat.le_refl _⟩

theorem addTarget (g : Graph) (t : Target) : g.Continues (g.addTarget t) := by
  cases t with
  | module id => exact addModule g id
  | unresolved s => exact refl g

theorem addEdge (h : g.Coherent) (e : Edge) : g.Continues (g.addEdge e) where
  modules := by simp [(modules_addEdge h e).1]
  edges _ _ hx := getElem?_addEdge h e hx

/-- A call leaves what is there in its place. -/
theorem grow (h : g.Coherent) (m : Mention) : g.Continues (g.grow m) := by
  cases m with
  | module id => exact addModule g id
  | record r =>
    have hc := (h.addModule r.source).addTarget r.target
    exact ((addModule g r.source).trans (addTarget _ r.target)).trans (addEdge hc r.edge)

end Continues

/-- Any further calls leave what is there in its place. -/
theorem continues_ofMentions (ms further : List Mention) : (ofMentions ms).Continues (ofMentions (ms ++ further)) := by
  induction further using List.reverseRecOn with
  | nil => rw [List.append_nil]; exact .refl _
  | append_singleton further m ih =>
    rw [← List.append_assoc, ofMentions_concat]
    exact ih.trans (.grow (ofMentions_reflects _).coherent m)

/-! ## Numbers and repeated calls -/

namespace Coherent

/-- The number of a key is its place among the keys. -/
theorem findEdge?_eq_idxOf (h : g.Coherent) {key : String × Target} (hk : key ∈ g.edges.toList.map Edge.key) :
    g.findEdge? key = some ((g.edges.toList.map Edge.key).idxOf key) := by
  have hplace := List.getElem?_idxOf hk
  rw [List.getElem?_map, Array.getElem?_toList, Option.map_eq_some_iff] at hplace
  exact (h.findEdge _ _).mpr hplace

/-- An edge whose kind is no higher than that of the edge with its key adds nothing. -/
theorem addEdge_of_le (h : g.Coherent) {e x : Edge} (hx : x ∈ g.edges) (hk : x.key = e.key)
    (hr : e.kind.rank ≤ x.kind.rank) : g.addEdge e = g := by
  rcases addEdge_cases h e with ⟨hn, -⟩ | ⟨i, old, hi, hold, ⟨-, he⟩ | ⟨hlt, -⟩⟩
  · obtain ⟨i, hi⟩ := h.mem_keys_iff.mp (List.mem_map.mpr ⟨x, Array.mem_toList_iff.mpr hx, hk⟩)
    rw [hi] at hn
    cases hn
  · exact he
  · rw [h.eq_of_key_eq (Array.mem_of_getElem? hi) hx (hold.trans hk.symm)] at hlt
    omega

end Coherent

/-- A call that was made before changes nothing. -/
theorem grow_of_mem {m : Mention} (h : g.Reflects ms) (hm : m ∈ ms) : g.grow m = g := by
  have hid : ∀ id ∈ m.ids, id ∈ g.modules := fun id hid => (h.mem_modules id).mpr ⟨m, hm, hid⟩
  cases m with
  | module id => exact h.coherent.addModule_of_mem (hid id List.mem_cons_self)
  | record r =>
    obtain ⟨x, hx, hk, hr⟩ := h.edge_of_record r hm
    have hsource : g.addModule r.source = g := h.coherent.addModule_of_mem (hid _ List.mem_cons_self)
    have htarget : g.addTarget r.target = g := by
      cases ht : r.target with
      | module id => exact h.coherent.addModule_of_mem (hid id (by simp [Mention.ids, ht, Target.module?]))
      | unresolved s => rfl
    rw [grow, addRecord, hsource, htarget]
    exact h.coherent.addEdge_of_le hx hk hr

/-! ## Graphs and their mentions -/

/-- What a graph says of the mentions that it grew from. The modules and the edges stand in the order in which they are
mentioned first; the kind of an edge is the highest that a record with its key gives, and its specifier is that of the
first such record. -/
structure Transcribes (g : Graph) (ms : List Mention) : Prop where
  modules_eq : g.modules.toList = Mention.modules ms
  keys_eq : g.edges.toList.map Edge.key = Mention.keys ms
  kind_reported : ∀ e ∈ g.edges, ∃ r ∈ Mention.records ms, r.normalForm.key = e.key ∧ r.normalForm.kind = e.kind
  kind_highest : ∀ e ∈ g.edges, ∀ r ∈ Mention.records ms, r.normalForm.key = e.key →
    r.normalForm.kind.rank ≤ e.kind.rank
  specifier_eq : ∀ e ∈ g.edges,
    ((Mention.records ms).find? fun r => r.normalForm.key = e.key).map Record.specifier = some e.specifier

/-- After any calls that add modules and records, a graph says what all of them say: in the order of first mention, with
the place of its key for the answer to every record. So no call takes a place from what is there, and a call that was
made before changes nothing. -/
theorem ofMentions_transcribes (ms : List Mention) :
    (ofMentions ms).Transcribes ms ∧
      (∀ before r after, ms = before ++ .record r :: after →
        ((ofMentions before).addRecord r).recordEdge? r = some ((Mention.keys ms).idxOf r.normalForm.key)) ∧
      (∀ further, (ofMentions ms).Continues (ofMentions (ms ++ further))) ∧
      ∀ m ∈ ms, ofMentions (ms ++ [m]) = ofMentions ms := by
  have h := ofMentions_reflects ms
  refine ⟨?_, ?_, continues_ofMentions ms, fun m hm => ?_⟩
  · exact
      { modules_eq := modules_ofMentions ms
        keys_eq := keys_ofMentions ms
        kind_reported := fun e he => by
          obtain ⟨r, hr, hk, hkind⟩ := h.record_of_edge e he
          exact ⟨r, Mention.mem_records.mpr hr, r.key_normalForm.trans hk, r.kind_normalForm.trans hkind⟩
        kind_highest := fun e he r hr hk => by
          rw [r.key_normalForm] at hk
          rw [r.kind_normalForm]
          exact h.rank_le he (Mention.mem_records.mp hr) hk
        specifier_eq := specifier_ofMentions ms }
  · -- the key is among those up to the call, and later keys come behind them
    rintro before r after rfl
    have hc := (ofMentions_reflects (before ++ [.record r])).coherent
    have hmem : r.edge.key ∈ Mention.keys (before ++ [.record r]) := by
      rw [← keys_ofMentions, (ofMentions_reflects _).mem_keys]
      exact ⟨r, by simp, rfl⟩
    obtain ⟨rest, hrest⟩ := Mention.keys_prefix (before ++ [.record r]) after
    rw [List.append_cons, ← hrest, r.key_normalForm, List.idxOf_append_of_mem hmem, ← keys_ofMentions]
    have hfind := hc.findEdge?_eq_idxOf (by rw [keys_ofMentions]; exact hmem)
    rw [ofMentions_concat] at hfind ⊢
    exact hfind
  · rw [ofMentions_concat, grow_of_mem h hm]

end Graph

end ImportLint
