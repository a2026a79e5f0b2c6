import ImportLint.Graph.Basic
import ImportLint.Import.Inventory
import Mathlib.Data.List.Induction
import Mathlib.Data.List.Nodup
import Mathlib.Tactic.Common

/-!
# Coherence of growing graphs

A graph grows by mentions: of modules and of records. `Graph.Coherent` is what every mention keeps: the indices find
exactly what the arrays hold, the ends of edges are modules, and an edge is unresolvable if and only if it leads to
no module. `Graph.Reflects` ties a graph to the mentions it grew from: its modules are those mentioned, and each of
its edges has the highest kind among the records with its ends (`Graph.ofMentions_reflects`).
-/

namespace ImportLint

/-- What makes a graph grow: a module, or a record of an import. -/
inductive Mention
  | module (id : String)
  | record (r : Record)

namespace Mention

/-- The modules that a mention names. -/
def ids : Mention → List String
  | module id => [id]
  | record r => r.source :: r.target.module?.toList

end Mention

namespace Graph

/-- Takes in a mention. -/
def grow (g : Graph) : Mention → Graph
  | .module id => g.addModule id
  | .record r => g.addRecord r

/-- The graph that grows from a list of mentions. -/
def ofMentions (ms : List Mention) : Graph := ms.foldl grow empty

end Graph

/-- The mentions of an inventory: its listed modules, each with its imports, then the further records. -/
def Inventory.mentions (i : Inventory) : List Mention :=
  i.listings.flatMap (fun m => .module m.source :: m.records.map .record) ++ i.records.map .record

theorem Listing.addTo_eq :
    Listing.addTo = fun g m => (Mention.module m.source :: m.records.map .record).foldl Graph.grow g := by
  funext g m
  rw [List.foldl_cons, List.foldl_map]
  rfl

theorem Inventory.graph_eq (i : Inventory) : i.graph = Graph.ofMentions i.mentions := by
  rw [Inventory.graph, Graph.ofMentions, Inventory.mentions, List.foldl_append, List.foldl_flatMap, List.foldl_map,
    Listing.addTo_eq]
  rfl

/-- The records among the mentions of an inventory. -/
theorem Inventory.record_mem_mentions (i : Inventory) (r : Record) :
    Mention.record r ∈ i.mentions ↔ r ∈ i.allRecords := by
  simp [Inventory.mentions, Inventory.allRecords]

/-- The modules among the mentions of an inventory. -/
theorem Inventory.module_mem_mentions (i : Inventory) (id : String) :
    Mention.module id ∈ i.mentions ↔ id ∈ i.listings.map Listing.source := by
  simp [Inventory.mentions, eq_comm]

namespace Record

variable (r : Record)

@[simp] theorem edge_source : r.edge.source = r.source := rfl

@[simp] theorem edge_target : r.edge.target = r.target := rfl

theorem resolvedModule?_kind {id : String} (h : r.resolvedModule? = some id) : r.kind? ≠ some .unresolvable := by
  unfold resolvedModule? at h
  have hb := (Option.filter_eq_some_iff.mp h).2
  simp at hb
  exact hb.2

/-- The edge of a record is unresolvable if and only if it leads to no module. -/
theorem kind_eq_unresolvable_iff : r.kind = .unresolvable ↔ r.target.module? = none := by
  unfold kind target
  cases h : r.resolvedModule? with
  | none => simp [Target.module?]
  | some id =>
    have hk := r.resolvedModule?_kind h
    cases hr : r.kind? with
    | none => simp [Target.module?]
    | some k =>
      rw [hr] at hk
      simpa [Target.module?] using fun e => hk (congrArg some e)

theorem specifier_eq_of_unresolved {t : String} (h : r.target = .unresolved t) : r.specifier = t := by
  unfold target at h
  split at h
  · cases h
  · exact Target.unresolved.inj h

end Record

namespace Graph

/-- What every mention keeps. -/
structure Coherent (g : Graph) : Prop where
  find : ∀ id i, g.find? id = some i ↔ g.modules[i]? = some id
  findEdge : ∀ key i, g.findEdge? key = some i ↔ ∃ e, g.edges[i]? = some e ∧ e.key = key
  source_mem : ∀ e ∈ g.edges, e.source ∈ g.modules
  target_mem : ∀ e ∈ g.edges, ∀ id, e.target = .module id → id ∈ g.modules
  kind_iff : ∀ e ∈ g.edges, e.kind = .unresolvable ↔ e.target.module? = none
  specifier : ∀ e ∈ g.edges, ∀ t, e.target = .unresolved t → e.specifier = t

variable {g : Graph}

theorem coherent_empty : empty.Coherent where
  find id i := by simp [find?, empty]
  findEdge key i := by simp [findEdge?, empty]
  source_mem e he := by simp [empty] at he
  target_mem e he := by simp [empty] at he
  kind_iff e he := by simp [empty] at he
  specifier e he := by simp [empty] at he

/-! ## Modules -/

theorem addModule_cases (g : Graph) (id : String) :
    (∃ i, g.find? id = some i ∧ g.addModule id = g) ∨
    (g.find? id = none ∧ g.addModule id =
      { g with modules := g.modules.push id, moduleIndex := g.moduleIndex.insert id g.modules.size }) := by
  unfold addModule
  cases h : g.find? id with
  | some i => exact Or.inl ⟨i, rfl, rfl⟩
  | none => exact Or.inr ⟨rfl, rfl⟩

@[simp] theorem edges_addModule (g : Graph) (id : String) : (g.addModule id).edges = g.edges := by
  rcases g.addModule_cases id with ⟨-, -, h⟩ | ⟨-, h⟩ <;> rw [h]

@[simp] theorem edges_addTarget (g : Graph) (t : Target) : (g.addTarget t).edges = g.edges := by
  cases t with
  | module id => exact edges_addModule g id
  | unresolved s => rfl

namespace Coherent

theorem mem_iff_find (h : g.Coherent) {id : String} : id ∈ g.modules ↔ ∃ i, g.find? id = some i := by
  simp only [h.find, Array.mem_iff_getElem?]

theorem mem_addModule (h : g.Coherent) (id x : String) : x ∈ (g.addModule id).modules ↔ x = id ∨ x ∈ g.modules := by
  rcases g.addModule_cases id with ⟨i, hi, he⟩ | ⟨-, he⟩
  · rw [he]
    exact ⟨Or.inr, fun hx => hx.elim (fun e => e ▸ h.mem_iff_find.mpr ⟨i, hi⟩) fun hx => hx⟩
  · rw [he]
    simp [or_comm]

theorem addModule (h : g.Coherent) (id : String) : (g.addModule id).Coherent := by
  have hedge : ∀ key, (g.addModule id).findEdge? key = g.findEdge? key := by
    intro key
    rcases g.addModule_cases id with ⟨-, -, he⟩ | ⟨-, he⟩ <;> rw [he]
    rfl
  refine
    { find := ?_
      findEdge := fun key i => by rw [hedge, edges_addModule]; exact h.findEdge key i
      source_mem := fun e he => ?_
      target_mem := fun e he t ht => ?_
      kind_iff := fun e he => h.kind_iff e (by simpa using he)
      specifier := fun e he => h.specifier e (by simpa using he) }
  · -- find
    intro x i
    rcases g.addModule_cases id with ⟨-, -, he⟩ | ⟨hn, he⟩
    · rw [he]
      exact h.find x i
    · rw [he]
      show (g.moduleIndex.insert id g.modules.size)[x]? = some i ↔ (g.modules.push id)[i]? = some x
      have hx := h.find x i
      have hsize : g.modules[g.modules.size]? = none := Array.getElem?_eq_none (Nat.le_refl _)
      rw [Std.HashMap.getElem?_insert, Array.getElem?_push]
      by_cases hid : id = x <;> by_cases hi : i = g.modules.size
      · simp [hid, hi]
      · -- the new module has no earlier number
        have hne : g.modules[i]? ≠ some x := by
          rw [Ne, ← hx, ← hid, hn]
          simp
        simp [hid, hi, hne, Ne.symm hi]
      · have hne : g.moduleIndex[x]? ≠ some i := by
          rw [hi, hsize] at hx
          simpa [find?, hi] using hx
        simp [hid, hi] at hne ⊢
        exact hne
      · simpa [hid, hi, find?] using hx
  · exact (h.mem_addModule id _).mpr (Or.inr (h.source_mem e (by simpa using he)))
  · exact (h.mem_addModule id _).mpr (Or.inr (h.target_mem e (by simpa using he) t ht))

theorem mem_addTarget (h : g.Coherent) (t : Target) (x : String) :
    x ∈ (g.addTarget t).modules ↔ t = .module x ∨ x ∈ g.modules := by
  cases t with
  | module id =>
    rw [addTarget, h.mem_addModule]
    simp [eq_comm]
  | unresolved s => simp [addTarget]

theorem addTarget (h : g.Coherent) (t : Target) : (g.addTarget t).Coherent := by
  cases t with
  | module id => exact h.addModule id
  | unresolved s => exact h

end Coherent

/-! ## Edges -/

theorem addEdge_cases (h : g.Coherent) (e : Edge) :
    (g.findEdge? e.key = none ∧ g.addEdge e = g.pushEdge e) ∨
    ∃ i old, g.edges[i]? = some old ∧ old.key = e.key ∧
      ((e.kind.rank ≤ old.kind.rank ∧ g.addEdge e = g) ∨
       (old.kind.rank < e.kind.rank ∧ g.addEdge e =
          { g with
            edges := g.edges.setIfInBounds i { old with kind := e.kind }
            upgrades := g.upgrades.push { source := old.source, old := old.kind, new := e.kind } })) := by
  unfold addEdge
  cases hf : g.findEdge? e.key with
  | none => exact Or.inl ⟨rfl, rfl⟩
  | some i =>
    obtain ⟨old, hi, hk⟩ := (h.findEdge e.key i).mp hf
    refine Or.inr ⟨i, old, hi, hk, ?_⟩
    simp only [raiseKind, hi]
    split_ifs with hr
    · exact Or.inr ⟨hr, rfl⟩
    · exact Or.inl ⟨Nat.le_of_not_lt hr, rfl⟩

theorem modules_addEdge (h : g.Coherent) (e : Edge) :
    (g.addEdge e).modules = g.modules ∧ (g.addEdge e).moduleIndex = g.moduleIndex := by
  rcases addEdge_cases h e with ⟨-, he⟩ | ⟨i, old, -, -, ⟨-, he⟩ | ⟨-, he⟩⟩ <;> (rw [he]; exact ⟨rfl, rfl⟩)

/-- An edge is as before, new, or has taken a new kind. -/
theorem of_mem_addEdge (h : g.Coherent) {e x : Edge} (hx : x ∈ (g.addEdge e).edges) :
    x ∈ g.edges ∨ x = e ∨ ∃ old ∈ g.edges, old.key = e.key ∧ x = { old with kind := e.kind } := by
  rcases addEdge_cases h e with ⟨-, he⟩ | ⟨i, old, hi, hk, ⟨-, he⟩ | ⟨-, he⟩⟩
  · rw [he] at hx
    rcases Array.mem_push.mp hx with hx | hx
    · exact Or.inl hx
    · exact Or.inr (Or.inl hx)
  · rw [he] at hx
    exact Or.inl hx
  · rw [he] at hx
    rcases Array.mem_or_eq_of_mem_setIfInBounds hx with hx | hx
    · exact Or.inl hx
    · exact Or.inr (Or.inr ⟨old, Array.mem_of_getElem? hi, hk, hx⟩)

/-- An edge stays in its place with its ends and its specifier, its kind at least as high as before. -/
theorem getElem?_addEdge (h : g.Coherent) (e : Edge) {j : Nat} {x : Edge} (hx : g.edges[j]? = some x) :
    ∃ y, (g.addEdge e).edges[j]? = some y ∧ y.key = x.key ∧ y.specifier = x.specifier ∧
      x.kind.rank ≤ y.kind.rank := by
  obtain ⟨hlt, hget⟩ := Array.getElem?_eq_some_iff.mp hx
  rcases addEdge_cases h e with ⟨-, he⟩ | ⟨i, old, hi, -, ⟨-, he⟩ | ⟨hr, he⟩⟩
  · refine ⟨x, ?_, rfl, rfl, Nat.le_refl _⟩
    rw [he, pushEdge, Array.getElem?_push_lt hlt, hget]
  · exact ⟨x, by rw [he, hx], rfl, rfl, Nat.le_refl _⟩
  · rw [he]
    by_cases hij : i = j
    · subst hij
      rw [hi] at hx
      cases hx
      exact ⟨_, Array.getElem?_setIfInBounds_self_of_lt hlt, rfl, rfl, Nat.le_of_lt hr⟩
    · exact ⟨x, by rw [Array.getElem?_setIfInBounds_ne hij, hx], rfl, rfl, Nat.le_refl _⟩

theorem exists_mem_addEdge_of_mem (h : g.Coherent) (e : Edge) {x : Edge} (hx : x ∈ g.edges) :
    ∃ y ∈ (g.addEdge e).edges, y.key = x.key ∧ x.kind.rank ≤ y.kind.rank := by
  obtain ⟨j, hj⟩ := Array.mem_iff_getElem?.mp hx
  obtain ⟨y, hy, hk, -, hr⟩ := getElem?_addEdge h e hj
  exact ⟨y, Array.mem_of_getElem? hy, hk, hr⟩

/-- The added edge is there, its kind at least as high as told. -/
theorem exists_mem_addEdge (h : g.Coherent) (e : Edge) :
    ∃ y ∈ (g.addEdge e).edges, y.key = e.key ∧ e.kind.rank ≤ y.kind.rank := by
  rcases addEdge_cases h e with ⟨-, he⟩ | ⟨i, old, hi, hk, ⟨hr, he⟩ | ⟨hr, he⟩⟩
  · exact ⟨e, by rw [he]; exact Array.mem_push_self, rfl, Nat.le_refl _⟩
  · exact ⟨old, by rw [he]; exact Array.mem_of_getElem? hi, hk, hr⟩
  · have hlt : i < g.edges.size := (Array.getElem?_eq_some_iff.mp hi).1
    exact ⟨{ old with kind := e.kind }, by rw [he]; exact Array.mem_setIfInBounds hlt, hk, Nat.le_refl _⟩

namespace Coherent

theorem findEdge_addEdge (h : g.Coherent) (e : Edge) (key : String × Target) (j : Nat) :
    (g.addEdge e).findEdge? key = some j ↔ ∃ x, (g.addEdge e).edges[j]? = some x ∧ x.key = key := by
  rcases addEdge_cases h e with ⟨hn, he⟩ | ⟨i, old, hi, hk, ⟨-, he⟩ | ⟨-, he⟩⟩
  · rw [he]
    show (g.edgeIndex.insert e.key g.edges.size)[key]? = some j ↔ ∃ x, (g.edges.push e)[j]? = some x ∧ _
    have hx := h.findEdge key j
    have hsize : g.edges[g.edges.size]? = none := Array.getElem?_eq_none (Nat.le_refl _)
    rw [Std.HashMap.getElem?_insert, Array.getElem?_push]
    by_cases hid : e.key = key <;> by_cases hj : j = g.edges.size
    · simp [hid, hj]
    · -- the new edge has no earlier number
      rw [← hid, hn] at hx
      simpa [hid, hj, Ne.symm hj] using hx
    · rw [hj, hsize] at hx
      simpa [hid, hj, findEdge?] using hx
    · simpa [hid, hj, findEdge?] using hx
  · rw [he]
    exact h.findEdge key j
  · rw [he]
    show g.findEdge? key = some j ↔ ∃ x, (g.edges.setIfInBounds i _)[j]? = some x ∧ _
    rw [h.findEdge]
    by_cases hij : i = j
    · subst hij
      have hlt : i < g.edges.size := (Array.getElem?_eq_some_iff.mp hi).1
      rw [hi, Array.getElem?_setIfInBounds_self_of_lt hlt]
      simp only [Option.some.injEq, exists_eq_left']
      rfl
    · rw [Array.getElem?_setIfInBounds_ne hij]

theorem addEdge (h : g.Coherent) {e : Edge} (hs : e.source ∈ g.modules)
    (ht : ∀ id, e.target = .module id → id ∈ g.modules)
    (hk : e.kind = .unresolvable ↔ e.target.module? = none)
    (hsp : ∀ t, e.target = .unresolved t → e.specifier = t) : (g.addEdge e).Coherent := by
  obtain ⟨hmod, hidx⟩ := modules_addEdge h e
  refine
    { find := fun id i => by rw [find?, hmod, hidx]; exact h.find id i
      findEdge := h.findEdge_addEdge e
      source_mem := fun x hx => ?_
      target_mem := fun x hx => ?_
      kind_iff := fun x hx => ?_
      specifier := fun x hx => ?_ }
  · rw [hmod]
    rcases of_mem_addEdge h hx with hx | rfl | ⟨old, ho, -, rfl⟩
    · exact h.source_mem x hx
    · exact hs
    · exact h.source_mem old ho
  · rw [hmod]
    rcases of_mem_addEdge h hx with hx | rfl | ⟨old, ho, -, rfl⟩
    · exact h.target_mem x hx
    · exact ht
    · exact h.target_mem old ho
  · rcases of_mem_addEdge h hx with hx | rfl | ⟨old, ho, hkey, rfl⟩
    · exact h.kind_iff x hx
    · exact hk
    · have htarget : old.target = e.target := congrArg Prod.snd hkey
      show e.kind = .unresolvable ↔ old.target.module? = none
      rw [htarget]
      exact hk
  · rcases of_mem_addEdge h hx with hx | rfl | ⟨old, ho, -, rfl⟩
    · exact h.specifier x hx
    · exact hsp
    · exact h.specifier old ho

/-! ## What the indices rule out -/

theorem lt_of_find (h : g.Coherent) {id : String} {v : Nat} (hv : g.find? id = some v) : v < g.modules.size :=
  (Array.getElem?_eq_some_iff.mp ((h.find id v).mp hv)).1

theorem find_getElem (h : g.Coherent) {v : Nat} (hv : v < g.modules.size) : g.find? g.modules[v] = some v :=
  (h.find _ v).mpr (Array.getElem?_eq_getElem hv)

theorem find_inj (h : g.Coherent) {a b : String} {v : Nat} (ha : g.find? a = some v) (hb : g.find? b = some v) :
    a = b := by
  rw [h.find] at ha hb
  exact Option.some.inj (ha.symm.trans hb)

/-- No module is there twice. -/
theorem modules_nodup (h : g.Coherent) : g.modules.toList.Nodup := by
  rw [List.nodup_iff_getElem?_ne_getElem?]
  intro i j hij hj he
  rw [Array.getElem?_toList, Array.getElem?_toList] at he
  have hsome : g.modules[j]? = some g.modules[j] := Array.getElem?_eq_getElem hj
  have hi := (h.find _ i).mpr (he.trans hsome)
  have hj' := (h.find _ j).mpr hsome
  rw [hi] at hj'
  exact absurd (Option.some.inj hj') (Nat.ne_of_lt hij)

/-- No two edges share source and target. -/
theorem keys_nodup (h : g.Coherent) : (g.edges.toList.map Edge.key).Nodup := by
  rw [List.nodup_iff_getElem?_ne_getElem?]
  intro i j hij hj he
  rw [List.length_map, Array.length_toList] at hj
  rw [List.getElem?_map, List.getElem?_map, Array.getElem?_toList, Array.getElem?_toList] at he
  have hsome : g.edges[j]? = some g.edges[j] := Array.getElem?_eq_getElem hj
  rw [hsome, Option.map_some, Option.map_eq_some_iff] at he
  have hi := (h.findEdge _ i).mpr he
  have hj' := (h.findEdge g.edges[j].key j).mpr ⟨_, hsome, rfl⟩
  rw [hi] at hj'
  exact absurd (Option.some.inj hj') (Nat.ne_of_lt hij)

theorem edges_nodup (h : g.Coherent) : g.edges.toList.Nodup :=
  List.Nodup.of_map _ h.keys_nodup

theorem eq_of_key_eq (h : g.Coherent) {e e' : Edge} (he : e ∈ g.edges) (he' : e' ∈ g.edges)
    (hk : e.key = e'.key) : e = e' :=
  List.inj_on_of_nodup_map h.keys_nodup (Array.mem_toList_iff.mpr he) (Array.mem_toList_iff.mpr he') hk

end Coherent

/-! ## Mentions -/

/-- The graph is what the mentions say: it has the modules that they name, and an edge for each source and target
of a record, with the highest kind that a record gives. -/
structure Reflects (g : Graph) (ms : List Mention) : Prop where
  coherent : g.Coherent
  mem_modules : ∀ id, id ∈ g.modules ↔ ∃ m ∈ ms, id ∈ m.ids
  edge_of_record : ∀ r, .record r ∈ ms → ∃ e ∈ g.edges, e.key = r.edge.key ∧ r.kind.rank ≤ e.kind.rank
  record_of_edge : ∀ e ∈ g.edges, ∃ r, .record r ∈ ms ∧ r.edge.key = e.key ∧ r.kind = e.kind

namespace Reflects

variable {ms : List Mention}

/-- There is an edge for each source and target of a record. -/
theorem mem_keys (h : g.Reflects ms) (key : String × Target) :
    key ∈ g.edges.toList.map Edge.key ↔ ∃ r, .record r ∈ ms ∧ r.edge.key = key := by
  constructor
  · intro hk
    obtain ⟨e, he, rfl⟩ := List.mem_map.mp hk
    obtain ⟨r, hr, hkey, -⟩ := h.record_of_edge e (Array.mem_toList_iff.mp he)
    exact ⟨r, hr, hkey⟩
  · rintro ⟨r, hr, rfl⟩
    obtain ⟨e, he, hkey, -⟩ := h.edge_of_record r hr
    exact List.mem_map.mpr ⟨e, Array.mem_toList_iff.mpr he, hkey⟩

theorem addModule (h : g.Reflects ms) (id : String) : (g.addModule id).Reflects (ms ++ [.module id]) := by
  refine
    { coherent := h.coherent.addModule id
      mem_modules := fun x => ?_
      edge_of_record := fun r hr => ?_
      record_of_edge := fun e he => ?_ }
  · rw [h.coherent.mem_addModule, h.mem_modules]
    simp [Mention.ids, or_comm]
  · rw [edges_addModule]
    exact h.edge_of_record r (by simpa using hr)
  · rw [edges_addModule] at he
    exact (h.record_of_edge e he).imp fun r hr => ⟨List.mem_append_left _ hr.1, hr.2⟩

theorem addRecord (h : g.Reflects ms) (r : Record) : (g.addRecord r).Reflects (ms ++ [.record r]) := by
  set g' := (g.addModule r.source).addTarget r.target with hg
  have hm := h.coherent.addModule r.source
  have hc : g'.Coherent := hm.addTarget r.target
  have hmem : ∀ x, x ∈ g'.modules ↔ r.target = .module x ∨ x = r.source ∨ x ∈ g.modules := fun x => by
    rw [hg, hm.mem_addTarget, h.coherent.mem_addModule]
  have hedges : g'.edges = g.edges := by rw [hg, edges_addTarget, edges_addModule]
  refine
    { coherent := hc.addEdge ((hmem _).mpr (Or.inr (Or.inl rfl))) (fun id hid => (hmem id).mpr (Or.inl hid))
        r.kind_eq_unresolvable_iff fun t => r.specifier_eq_of_unresolved
      mem_modules := fun x => ?_
      edge_of_record := fun r' hr' => ?_
      record_of_edge := fun e he => ?_ }
  · show x ∈ (g'.addEdge r.edge).modules ↔ _
    rw [(modules_addEdge hc _).1, hmem, h.mem_modules]
    cases ht : r.target <;> simp [Mention.ids, Target.module?, ht, or_comm, eq_comm, or_assoc]
  · show ∃ e ∈ (g'.addEdge r.edge).edges, _
    rcases List.mem_append.mp hr' with hr' | hr'
    · obtain ⟨e, he, hk, hle⟩ := h.edge_of_record r' hr'
      obtain ⟨e', he', hk', hle'⟩ := exists_mem_addEdge_of_mem hc r.edge (hedges ▸ he)
      exact ⟨e', he', hk'.trans hk, Nat.le_trans hle hle'⟩
    · cases List.mem_singleton.mp hr'
      exact exists_mem_addEdge hc r.edge
  · have hlast : Mention.record r ∈ ms ++ [.record r] := by simp
    rcases of_mem_addEdge hc he with he | rfl | ⟨old, -, hk, rfl⟩
    · rw [hedges] at he
      exact (h.record_of_edge e he).imp fun r' hr' => ⟨List.mem_append_left _ hr'.1, hr'.2⟩
    · exact ⟨r, hlast, rfl, rfl⟩
    · exact ⟨r, hlast, hk.symm, rfl⟩

end Reflects

/-- Every graph reflects the mentions that it grew from. -/
theorem ofMentions_reflects (ms : List Mention) : (ofMentions ms).Reflects ms := by
  induction ms using List.reverseRecOn with
  | nil =>
    exact { coherent := coherent_empty
            mem_modules := fun id => by simp [ofMentions, empty]
            edge_of_record := fun r hr => by simp at hr
            record_of_edge := fun e he => by simp [ofMentions, empty] at he }
  | append_singleton ms m ih =>
    rw [ofMentions, List.foldl_append, List.foldl_cons, List.foldl_nil]
    cases m with
    | module id => exact ih.addModule id
    | record r => exact ih.addRecord r

end Graph

theorem Inventory.graph_reflects (i : Inventory) : i.graph.Reflects i.mentions :=
  i.graph_eq ▸ Graph.ofMentions_reflects i.mentions

end ImportLint
