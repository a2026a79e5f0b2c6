import ImportLint.Proofs.Graph.Content

/-!
# Graphs without common modules

A graph is the union of two graphs without common modules (`Graph.IsUnion`) if it has their modules and, but for the
specifiers of resolved edges, their edges. Inventories that name no common module give such a union when one is put
behind the other (`Inventory.graph_append`). In a union no walk leads from one part to the other, so that edges of a part
are on cycles as they are in the part (`Graph.IsUnion.onCycle_iff`) and its modules stand as they stand in the part
(`Graph.IsUnion.standing_eq`).
-/

namespace ImportLint

/-! ## Inventories -/

namespace Inventory

/-- The modules that an inventory names: those that it lists, the sources of its records and the modules that records
are resolved to. -/
def ids (i : Inventory) : List String :=
  i.listings.map Listing.source ++ i.allRecords.flatMap fun r => r.source :: r.resolvedModule?.toList

/-- An inventory with another one behind it. -/
def append (i j : Inventory) : Inventory :=
  { listings := i.listings ++ j.listings, records := i.records ++ j.records }

theorem mem_mentions_append (i j : Inventory) (m : Mention) :
    m ∈ (i.append j).mentions ↔ m ∈ i.mentions ∨ m ∈ j.mentions := by
  simp only [mentions, append, List.flatMap_append, List.map_append, List.mem_append]
  exact or_or_or_comm

end Inventory

theorem Record.module?_target (r : Record) : r.target.module? = r.resolvedModule? := by
  rw [target]
  cases r.resolvedModule? <;> rfl

/-- The modules that an inventory names are those of its mentions. -/
theorem Inventory.mem_ids (i : Inventory) (id : String) : id ∈ i.ids ↔ ∃ m ∈ i.mentions, id ∈ m.ids := by
  rw [ids, List.mem_append, ← i.module_mem_mentions, List.mem_flatMap]
  constructor
  · rintro (hm | ⟨r, hr, hid⟩)
    · exact ⟨.module id, hm, List.mem_singleton_self id⟩
    · exact ⟨.record r, (i.record_mem_mentions r).mpr hr, by rw [Mention.ids, r.module?_target]; exact hid⟩
  · rintro ⟨m, hm, hid⟩
    cases m with
    | module x => exact Or.inl (List.mem_singleton.mp hid ▸ hm)
    | record r =>
      rw [Mention.ids, r.module?_target] at hid
      exact Or.inr ⟨r, (i.record_mem_mentions r).mp hm, hid⟩

namespace Graph

variable {g g₁ g₂ : Graph}

/-- The graph has the modules of two graphs that share none and, but for the specifiers of resolved edges, their
edges. -/
structure IsUnion (g g₁ g₂ : Graph) : Prop where
  coherent : g.Coherent
  left : g₁.Coherent
  right : g₂.Coherent
  disjoint : ∀ id ∈ g₁.modules, id ∉ g₂.modules
  modules : g.modules.toList.Perm (g₁.modules.toList ++ g₂.modules.toList)
  edges : (g.edges.toList.map Edge.plain).Perm (g₁.edges.toList.map Edge.plain ++ g₂.edges.toList.map Edge.plain)

namespace IsUnion

theorem symm (h : g.IsUnion g₁ g₂) : g.IsUnion g₂ g₁ where
  coherent := h.coherent
  left := h.right
  right := h.left
  disjoint id h₂ h₁ := h.disjoint id h₁ h₂
  modules := h.modules.trans List.perm_append_comm
  edges := h.edges.trans List.perm_append_comm

theorem exists_plain_left (h : g.IsUnion g₁ g₂) {e : Edge} (he : e ∈ g₁.edges) : ∃ x ∈ g.edges, x.plain = e.plain := by
  have hmem : e.plain ∈ g.edges.toList.map Edge.plain :=
    h.edges.mem_iff.mpr (List.mem_append_left _ (List.mem_map_of_mem (Array.mem_toList_iff.mpr he)))
  obtain ⟨x, hx, hxe⟩ := List.mem_map.mp hmem
  exact ⟨x, Array.mem_toList_iff.mp hx, hxe⟩

theorem exists_plain (h : g.IsUnion g₁ g₂) {e : Edge} (he : e ∈ g.edges) :
    (∃ x ∈ g₁.edges, x.plain = e.plain) ∨ ∃ x ∈ g₂.edges, x.plain = e.plain := by
  have hmem := h.edges.mem_iff.mp (List.mem_map_of_mem (f := Edge.plain) (Array.mem_toList_iff.mpr he))
  simpa only [List.mem_append, List.mem_map, Array.mem_toList_iff] using hmem

/-- A property that does not look at the specifier, of edges that touch the first part, is a property of edges of the
first part. -/
theorem exists_edge_iff (h : g.IsUnion g₁ g₂) {P : Edge → Prop} (hP : ∀ e, P e.plain ↔ P e)
    (ht : ∀ e, P e → e.source ∈ g₁.modules ∨ ∃ id ∈ g₁.modules, e.target = .module id) :
    (∃ e ∈ g.edges, P e) ↔ ∃ e ∈ g₁.edges, P e := by
  constructor
  · rintro ⟨e, he, hPe⟩
    rcases h.exists_plain he with ⟨x, hx, hxe⟩ | ⟨x, hx, hxe⟩
    · exact ⟨x, hx, (hP x).mp (hxe ▸ (hP e).mpr hPe)⟩
    · -- an edge of the second part touches no module of the first
      have hPx : P x := (hP x).mp (hxe ▸ (hP e).mpr hPe)
      rcases ht x hPx with hs | ⟨id, hid, hxt⟩
      · exact absurd (h.right.source_mem x hx) (h.disjoint _ hs)
      · exact absurd (h.right.target_mem x hx id hxt) (h.disjoint id hid)
  · rintro ⟨e, he, hPe⟩
    obtain ⟨x, hx, hxe⟩ := h.exists_plain_left he
    exact ⟨x, hx, (hP x).mp (hxe ▸ (hP e).mpr hPe)⟩

/-- What is read off the edges without their specifiers is what is read off the edges of the parts. -/
theorem filterMap_perm {α : Type} (h : g.IsUnion g₁ g₂) {f f₁ f₂ : Edge → Option α} (hf : ∀ e, f e = f e.plain)
    (h₁ : ∀ e ∈ g₁.edges, f e = f₁ e) (h₂ : ∀ e ∈ g₂.edges, f e = f₂ e) :
    (g.edges.toList.filterMap f).Perm (g₁.edges.toList.filterMap f₁ ++ g₂.edges.toList.filterMap f₂) := by
  have hplain : ∀ es : List Edge, (es.map Edge.plain).filterMap f = es.filterMap f := fun es => by
    rw [List.filterMap_map]
    exact List.filterMap_congr fun e _ => (hf e).symm
  have hparts := h.edges.filterMap f
  rw [List.filterMap_append, hplain, hplain, hplain] at hparts
  rw [← List.filterMap_congr fun e he => h₁ e (Array.mem_toList_iff.mp he),
    ← List.filterMap_congr fun e he => h₂ e (Array.mem_toList_iff.mp he)]
  exact hparts

/-! ## Cycles and standing -/

theorem imports_iff (h : g.IsUnion g₁ g₂) {a : String} (ha : a ∈ g₁.modules) (b : String) :
    g.Imports a b ↔ g₁.Imports a b :=
  h.exists_edge_iff (fun _ => Iff.rfl) fun _ he => Or.inl (he.2.1 ▸ ha)

theorem mem_of_imports (h : g.IsUnion g₁ g₂) {a b : String} (hab : g₁.Imports a b) : b ∈ g₁.modules := by
  obtain ⟨e, he, -, -, ht⟩ := hab
  exact h.left.target_mem e he b ht

/-- Walks from a module of a part stay in the part. -/
theorem leads_iff (h : g.IsUnion g₁ g₂) {a : String} (ha : a ∈ g₁.modules) (b : String) :
    g.Leads a b ↔ g₁.Leads a b := by
  have hstay : ∀ c, g₁.Leads a c → c ∈ g₁.modules := fun c hc => by
    induction hc with
    | refl => exact ha
    | tail _ hstep _ => exact h.mem_of_imports hstep
  constructor
  · intro hl
    induction hl with
    | refl => exact .refl
    | tail _ hstep ih => exact ih.tail ((h.imports_iff (hstay _ ih) _).mp hstep)
  · intro hl
    induction hl with
    | refl => exact .refl
    | tail hl hstep ih => exact ih.tail ((h.imports_iff (hstay _ hl) _).mpr hstep)

/-- An edge of a part is on a cycle if and only if it is on one in the part. -/
theorem onCycle_iff (h : g.IsUnion g₁ g₂) {e : Edge} (he : e ∈ g₁.edges) : g.OnCycle e ↔ g₁.OnCycle e := by
  refine and_congr_right fun _ => exists_congr fun b => and_congr_right fun hb => ?_
  exact h.leads_iff (h.left.target_mem e he b hb) e.source

/-- A module of a part stands where it stands in the part. -/
theorem standing_eq (h : g.IsUnion g₁ g₂) {id : String} (hid : id ∈ g₁.modules) :
    (Ends.ofGraph g).standing id = (Ends.ofGraph g₁).standing id := by
  have hsource : (∃ e ∈ g.edges, e.source = id) ↔ ∃ e ∈ g₁.edges, e.source = id :=
    h.exists_edge_iff (fun _ => Iff.rfl) fun _ he => Or.inl (he ▸ hid)
  have htarget : (∃ e ∈ g.edges, e.target = .module id) ↔ ∃ e ∈ g₁.edges, e.target = .module id :=
    h.exists_edge_iff (fun _ => Iff.rfl) fun _ he => Or.inr ⟨id, hid, he⟩
  have htouch : (∃ e ∈ g.edges, e.isInternal = true ∧ (e.source = id ∨ e.target = .module id)) ↔
      ∃ e ∈ g₁.edges, e.isInternal = true ∧ (e.source = id ∨ e.target = .module id) :=
    h.exists_edge_iff (fun _ => Iff.rfl) fun e ⟨_, hends⟩ =>
      hends.imp (fun hs : e.source = id => hs ▸ hid) fun ht => ⟨id, hid, ht⟩
  rw [Ends.standing_ofGraph, Ends.standing_ofGraph]
  simp only [hsource, htarget, htouch]

end IsUnion

/-! ## Unions by mentions -/

namespace Reflects

variable {ms ms₁ ms₂ : List Mention}

theorem source_mem (h : g.Reflects ms) {r : Record} (hr : .record r ∈ ms) : r.source ∈ g.modules :=
  (h.mem_modules _).mpr ⟨.record r, hr, List.mem_cons_self⟩

/-- A record whose source is not of one part is a record of the other part. -/
theorem exists_record_iff (h₂ : g₂.Reflects ms₂) (hms : ∀ m, m ∈ ms ↔ m ∈ ms₁ ∨ m ∈ ms₂) {x : Edge}
    (hx : x.source ∉ g₂.modules) :
    (∃ r, .record r ∈ ms ∧ r.edge.plain = x) ↔ ∃ r, .record r ∈ ms₁ ∧ r.edge.plain = x := by
  refine exists_congr fun r => and_congr_left fun hrx => ?_
  rw [hms]
  refine or_iff_left fun hr => hx ?_
  rw [← hrx]
  exact h₂.source_mem hr

/-- The edges with a source in one part are the edges of that part. -/
theorem exists_plain_iff (h : g.Reflects ms) (h₁ : g₁.Reflects ms₁) (h₂ : g₂.Reflects ms₂)
    (hms : ∀ m, m ∈ ms ↔ m ∈ ms₁ ∨ m ∈ ms₂) {x : Edge} (hx : x.source ∉ g₂.modules) :
    (∃ e ∈ g.edges, e.plain = x) ↔ ∃ e ∈ g₁.edges, e.plain = x := by
  have hrecords : ∀ y : Edge, y.key = x.key →
      ((∃ r, .record r ∈ ms ∧ r.edge.plain = y) ↔ ∃ r, .record r ∈ ms₁ ∧ r.edge.plain = y) := fun y hy => by
    have hsource : y.source = x.source := congrArg Prod.fst hy
    exact h₂.exists_record_iff hms (hsource ▸ hx)
  constructor
  · rintro ⟨e, he, rfl⟩
    exact h.exists_plain_eq h₁ he hrecords
  · rintro ⟨e, he, rfl⟩
    exact h₁.exists_plain_eq h he fun y hy => (hrecords y hy).symm

theorem modules_perm (h : g.Reflects ms) (h₁ : g₁.Reflects ms₁) (h₂ : g₂.Reflects ms₂)
    (hms : ∀ m, m ∈ ms ↔ m ∈ ms₁ ∨ m ∈ ms₂) (hd : ∀ id ∈ g₁.modules, id ∉ g₂.modules) :
    g.modules.toList.Perm (g₁.modules.toList ++ g₂.modules.toList) := by
  have hnodup : (g₁.modules.toList ++ g₂.modules.toList).Nodup :=
    h₁.coherent.modules_nodup.append h₂.coherent.modules_nodup fun id hid hid' =>
      hd id (Array.mem_toList_iff.mp hid) (Array.mem_toList_iff.mp hid')
  rw [List.perm_ext_iff_of_nodup h.coherent.modules_nodup hnodup]
  intro id
  rw [List.mem_append, Array.mem_toList_iff, Array.mem_toList_iff, Array.mem_toList_iff, h.mem_modules,
    h₁.mem_modules, h₂.mem_modules]
  simp only [hms, or_and_right, exists_or]

theorem edges_perm (h : g.Reflects ms) (h₁ : g₁.Reflects ms₁) (h₂ : g₂.Reflects ms₂)
    (hms : ∀ m, m ∈ ms ↔ m ∈ ms₁ ∨ m ∈ ms₂) (hd : ∀ id ∈ g₁.modules, id ∉ g₂.modules) :
    (g.edges.toList.map Edge.plain).Perm (g₁.edges.toList.map Edge.plain ++ g₂.edges.toList.map Edge.plain) := by
  have hmem : ∀ (a : Graph) (x : Edge), x ∈ a.edges.toList.map Edge.plain ↔ ∃ e ∈ a.edges, e.plain = x :=
    fun a x => by simp only [List.mem_map, Array.mem_toList_iff]
  have hsource : ∀ {a : Graph} {x : Edge}, a.Coherent → (∃ e ∈ a.edges, e.plain = x) → x.source ∈ a.modules := by
    rintro a _ ha ⟨e, he, rfl⟩
    exact ha.source_mem e he
  have hnodup : (g₁.edges.toList.map Edge.plain ++ g₂.edges.toList.map Edge.plain).Nodup := by
    refine h₁.coherent.plain_nodup.append h₂.coherent.plain_nodup fun x hx hx' => ?_
    exact hd _ (hsource h₁.coherent ((hmem _ x).mp hx)) (hsource h₂.coherent ((hmem _ x).mp hx'))
  have hswap : ∀ m, m ∈ ms ↔ m ∈ ms₂ ∨ m ∈ ms₁ := fun m => (hms m).trans or_comm
  rw [List.perm_ext_iff_of_nodup h.coherent.plain_nodup hnodup]
  intro x
  rw [List.mem_append, hmem, hmem, hmem]
  constructor
  · intro hx
    have hpart : x.source ∈ g₁.modules.toList ++ g₂.modules.toList :=
      (h.modules_perm h₁ h₂ hms hd).mem_iff.mp (Array.mem_toList_iff.mpr (hsource h.coherent hx))
    rw [List.mem_append, Array.mem_toList_iff, Array.mem_toList_iff] at hpart
    rcases hpart with hs | hs
    · exact Or.inl ((h.exists_plain_iff h₁ h₂ hms (hd _ hs)).mp hx)
    · exact Or.inr ((h.exists_plain_iff h₂ h₁ hswap fun hs' => hd _ hs' hs).mp hx)
  · rintro (hx | hx)
    · exact (h.exists_plain_iff h₁ h₂ hms (hd _ (hsource h₁.coherent hx))).mpr hx
    · exact (h.exists_plain_iff h₂ h₁ hswap fun hs => hd _ hs (hsource h₂.coherent hx)).mpr hx

/-- Mentions that are those of two graphs without common modules give the union of the two. -/
theorem isUnion (h : g.Reflects ms) (h₁ : g₁.Reflects ms₁) (h₂ : g₂.Reflects ms₂)
    (hms : ∀ m, m ∈ ms ↔ m ∈ ms₁ ∨ m ∈ ms₂) (hd : ∀ id ∈ g₁.modules, id ∉ g₂.modules) : g.IsUnion g₁ g₂ where
  coherent := h.coherent
  left := h₁.coherent
  right := h₂.coherent
  disjoint := hd
  modules := h.modules_perm h₁ h₂ hms hd
  edges := h.edges_perm h₁ h₂ hms hd

end Reflects

end Graph

/-- The modules of a graph are those that its inventory names. -/
theorem Inventory.mem_modules_graph (i : Inventory) (id : String) : id ∈ i.graph.modules ↔ id ∈ i.ids := by
  rw [i.graph_reflects.mem_modules, i.mem_ids]

/-- Inventories without common modules, one behind the other, give the union of their graphs. -/
theorem Inventory.graph_append {i j : Inventory} (h : ∀ id ∈ i.ids, id ∉ j.ids) :
    (i.append j).graph.IsUnion i.graph j.graph := by
  refine (i.append j).graph_reflects.isUnion i.graph_reflects j.graph_reflects (i.mem_mentions_append j) fun id => ?_
  rw [i.mem_modules_graph, j.mem_modules_graph]
  exact h id

end ImportLint
