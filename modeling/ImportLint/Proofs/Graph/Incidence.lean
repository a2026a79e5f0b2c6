import ImportLint.Proofs.Graph.Coherence

/-!
# Edges at modules

The lists of the edges that leave a module and of those that lead to it, as they are collected in one pass over the
edges (`Graph.edgesAt_eq`). Together with the coherence of grown graphs they make up what every graph assures to its
readers (`Graph.Consistent`, `Graph.ofMentions_consistent`).
-/

namespace ImportLint

theorem Target.module?_eq_some_iff {t : Target} {id : String} : t.module? = some id ↔ t = .module id := by
  cases t <;> simp [Target.module?]

namespace Graph

variable {g : Graph}

/-! ## Numbers of edges -/

/-- The numbers of the edges with a property, in order. -/
def edgesWhere (g : Graph) (p : Edge → Bool) : List Nat :=
  (g.edges.toList.zipIdx.filter fun e => p e.1).map Prod.snd

theorem mem_edgesWhere {p : Edge → Bool} {i : Nat} :
    i ∈ g.edgesWhere p ↔ ∃ e, g.edges[i]? = some e ∧ p e = true := by
  simp only [edgesWhere, List.mem_map, List.mem_filter, List.mem_zipIdx_iff_getElem?, Array.getElem?_toList]
  constructor
  · rintro ⟨⟨e, _⟩, ⟨he, hp⟩, rfl⟩
    exact ⟨e, he, hp⟩
  · rintro ⟨e, he, hp⟩
    exact ⟨(e, i), ⟨he, hp⟩, rfl⟩

theorem edgesWhere_sorted (p : Edge → Bool) : (g.edgesWhere p).Pairwise (· < ·) := by
  have hall : (g.edges.toList.zipIdx.map Prod.snd).Pairwise (· < ·) := by
    rw [List.zipIdx_map_snd]
    exact List.pairwise_lt_range'
  exact hall.sublist (List.filter_sublist.map _)

/-! ## The pass over the edges -/

theorem getElem?_noteEdge (end? : Edge → Option String) (t : Array (Array Nat)) (e : Edge × Nat) (v : Nat) :
    (g.noteEdge end? t e)[v]? = (t[v]?).map fun a => if (end? e.1).bind g.find? = some v then a.push e.2 else a := by
  unfold noteEdge
  cases hw : (end? e.1).bind g.find? with
  | none => simp
  | some w =>
    rw [Array.getElem?_modify]
    by_cases hwv : w = v <;> simp [hwv]

/-- The pass notes at a module the numbers of the edges that have it at their ends, in order. -/
theorem getElem?_foldl_noteEdge (end? : Edge → Option String) (es : List (Edge × Nat)) (t : Array (Array Nat))
    (v : Nat) :
    (es.foldl (g.noteEdge end?) t)[v]? =
      (t[v]?).map fun a => a ++ ((es.filter fun e => (end? e.1).bind g.find? = some v).map Prod.snd).toArray := by
  induction es generalizing t with
  | nil => simp
  | cons e es ih =>
    rw [List.foldl_cons, ih, getElem?_noteEdge, Option.map_map]
    congr 1
    funext a
    by_cases he : (end? e.1).bind g.find? = some v
    · simp [he]
    · simp [he]

theorem edgesAt_of_find {end? : Edge → Option String} {id : String} {v : Nat} (h : g.Coherent)
    (hv : g.find? id = some v) :
    g.edgesAt end? id = g.edgesWhere fun e => (end? e).bind g.find? = some v := by
  have hlt : v < g.modules.size := h.lt_of_find hv
  rw [edgesAt, hv]
  show ((g.edgeTable end?).getD v #[]).toList = _
  rw [Array.getD_eq_getD_getElem?, edgeTable, getElem?_foldl_noteEdge, Array.getElem?_replicate, if_pos hlt]
  simp [edgesWhere]

/-- Ends of edges that are modules of the graph. -/
def IsEnd (g : Graph) (end? : Edge → Option String) : Prop :=
  ∀ e ∈ g.edges, ∀ id, end? e = some id → id ∈ g.modules

theorem Coherent.isEnd_source (h : g.Coherent) : g.IsEnd fun e => some e.source :=
  fun e he _ hid => Option.some.inj hid ▸ h.source_mem e he

theorem Coherent.isEnd_target (h : g.Coherent) : g.IsEnd fun e => e.target.module? :=
  fun e he id hid => h.target_mem e he id (Target.module?_eq_some_iff.mp hid)

variable {end? : Edge → Option String}

/-- The edges listed at a module are those that have it at their ends. -/
theorem edgesAt_eq (h : g.Coherent) (hend : g.IsEnd end?) (id : String) :
    g.edgesAt end? id = g.edgesWhere fun e => end? e = some id := by
  cases hv : g.find? id with
  | some v =>
    rw [edgesAt_of_find h hv]
    congr 1
    funext e
    rw [decide_eq_decide]
    constructor
    · intro he
      obtain ⟨a, ha, hav⟩ := Option.bind_eq_some_iff.mp he
      rw [ha, h.find_inj hav hv]
    · intro he
      rw [he]
      exact hv
  | none =>
    have hnil : ∀ i, i ∉ g.edgesWhere fun e => end? e = some id := by
      intro i hi
      obtain ⟨e, he, hid⟩ := mem_edgesWhere.mp hi
      obtain ⟨v, hv'⟩ := h.mem_iff_find.mp (hend e (Array.mem_of_getElem? he) id (of_decide_eq_true hid))
      rw [hv] at hv'
      cases hv'
    rw [edgesAt, hv, List.eq_nil_iff_forall_not_mem.mpr hnil]

theorem mem_edgesAt (h : g.Coherent) (hend : g.IsEnd end?) {id : String} {i : Nat} :
    i ∈ g.edgesAt end? id ↔ ∃ e, g.edges[i]? = some e ∧ end? e = some id := by
  rw [edgesAt_eq h hend, mem_edgesWhere]
  simp only [decide_eq_true_eq]

theorem edgesAt_sorted (h : g.Coherent) (hend : g.IsEnd end?) (id : String) :
    (g.edgesAt end? id).Pairwise (· < ·) := by
  rw [edgesAt_eq h hend]
  exact edgesWhere_sorted _

/-- No edge is listed twice, neither at one module nor at two. -/
theorem edgesAt_nodup (h : g.Coherent) (hend : g.IsEnd end?) : (g.modules.toList.flatMap (g.edgesAt end?)).Nodup := by
  rw [List.nodup_flatMap]
  refine ⟨fun id _ => (edgesAt_sorted h hend id).imp Nat.ne_of_lt, h.modules_nodup.imp fun {a b} hab => ?_⟩
  show List.Disjoint _ _
  rw [List.disjoint_left]
  intro i ha hb
  obtain ⟨e, he, hea⟩ := (mem_edgesAt h hend).mp ha
  obtain ⟨e', he', heb⟩ := (mem_edgesAt h hend).mp hb
  rw [he] at he'
  cases he'
  exact hab (Option.some.inj (hea.symm.trans heb))

/-- The edges listed somewhere are those with an end of this kind. -/
theorem mem_flatMap_edgesAt (h : g.Coherent) (hend : g.IsEnd end?) (i : Nat) :
    i ∈ g.modules.toList.flatMap (g.edgesAt end?) ↔ ∃ e, g.edges[i]? = some e ∧ end? e ≠ none := by
  simp only [List.mem_flatMap, mem_edgesAt h hend]
  constructor
  · rintro ⟨id, -, e, he, hid⟩
    exact ⟨e, he, by rw [hid]; simp⟩
  · rintro ⟨e, he, hne⟩
    obtain ⟨id, hid⟩ := Option.ne_none_iff_exists'.mp hne
    exact ⟨id, Array.mem_toList_iff.mpr (hend e (Array.mem_of_getElem? he) id hid), e, he, hid⟩

theorem count_flatMap_edgesAt (h : g.Coherent) (hend : g.IsEnd end?) {i : Nat} {e : Edge} (he : g.edges[i]? = some e) :
    (g.modules.toList.flatMap (g.edgesAt end?)).count i = if end? e = none then 0 else 1 := by
  have hmem := mem_flatMap_edgesAt h hend i
  rw [he] at hmem
  rw [(edgesAt_nodup h hend).count]
  by_cases hn : end? e = none
  · rw [if_pos hn, if_neg]
    simp [hmem, hn]
  · rw [if_neg hn, if_pos]
    simp [hmem, hn]

/-! ## What graphs assure -/

/-- What a graph assures to its readers: no module is there twice and each is found under its number; edges connect
modules of the graph; two edges differ in their ends, an unresolved one having its specifier for its end; the
unresolvable edges are those that lead to no module; and each edge is listed once at its source and once at the module
that it leads to, if there is one, in the order of the edges. -/
structure Consistent (g : Graph) : Prop where
  modules_nodup : g.modules.toList.Nodup
  find_iff : ∀ id i, g.find? id = some i ↔ g.modules[i]? = some id
  source_mem : ∀ e ∈ g.edges, e.source ∈ g.modules
  target_mem : ∀ e ∈ g.edges, ∀ b, e.target = .module b → b ∈ g.modules
  resolved_unique : ∀ (i j : Nat) (e e' : Edge), g.edges[i]? = some e → g.edges[j]? = some e' →
    e.source = e'.source → ∀ b, e.target = .module b → e'.target = .module b → i = j
  unresolved_unique : ∀ (i j : Nat) (e e' : Edge), g.edges[i]? = some e → g.edges[j]? = some e' →
    e.source = e'.source → e.target.module? = none → e'.target.module? = none → e.specifier = e'.specifier → i = j
  kind_iff : ∀ e ∈ g.edges, e.kind = .unresolvable ↔ e.target.module? = none
  mem_outgoing : ∀ id i, i ∈ g.outgoing id ↔ ∃ e, g.edges[i]? = some e ∧ e.source = id
  mem_incoming : ∀ id i, i ∈ g.incoming id ↔ ∃ e, g.edges[i]? = some e ∧ e.target = .module id
  outgoing_sorted : ∀ id, (g.outgoing id).Pairwise (· < ·)
  incoming_sorted : ∀ id, (g.incoming id).Pairwise (· < ·)
  count_outgoing : ∀ (i : Nat) (e : Edge), g.edges[i]? = some e →
    (g.modules.toList.flatMap g.outgoing).count i = 1
  count_incoming : ∀ (i : Nat) (e : Edge), g.edges[i]? = some e →
    (g.modules.toList.flatMap g.incoming).count i = if e.target.module? = none then 0 else 1

namespace Coherent

/-- Edges with the same ends have the same number. -/
theorem index_unique (h : g.Coherent) {i j : Nat} {e e' : Edge} (hi : g.edges[i]? = some e)
    (hj : g.edges[j]? = some e') (hk : e.key = e'.key) : i = j := by
  have hi' := (h.findEdge e.key i).mpr ⟨e, hi, rfl⟩
  have hj' := (h.findEdge e.key j).mpr ⟨e', hj, hk.symm⟩
  exact Option.some.inj (hi'.symm.trans hj')

theorem target_of_unresolved (h : g.Coherent) {e : Edge} (he : e ∈ g.edges) (hn : e.target.module? = none) :
    e.target = .unresolved e.specifier := by
  cases ht : e.target with
  | module b =>
    rw [ht] at hn
    cases hn
  | unresolved s => rw [h.specifier e he s ht]

end Coherent

/-- After any calls that add modules and records, a graph is consistent. -/
theorem ofMentions_consistent (ms : List Mention) : (ofMentions ms).Consistent := by
  have h : (ofMentions ms).Coherent := (ofMentions_reflects ms).coherent
  exact
    { modules_nodup := h.modules_nodup
      find_iff := h.find
      source_mem := h.source_mem
      target_mem := h.target_mem
      resolved_unique := fun i j e e' hi hj hs b ht ht' => h.index_unique hi hj (Prod.ext hs (ht.trans ht'.symm))
      unresolved_unique := fun i j e e' hi hj hs hn hn' hspec => by
        refine h.index_unique hi hj (Prod.ext hs ?_)
        show e.target = e'.target
        rw [h.target_of_unresolved (Array.mem_of_getElem? hi) hn,
          h.target_of_unresolved (Array.mem_of_getElem? hj) hn', hspec]
      kind_iff := h.kind_iff
      mem_outgoing := fun id i => by simp only [outgoing, mem_edgesAt h h.isEnd_source, Option.some.injEq]
      mem_incoming := fun id i => by
        simp only [incoming, mem_edgesAt h h.isEnd_target, Target.module?_eq_some_iff]
      outgoing_sorted := edgesAt_sorted h h.isEnd_source
      incoming_sorted := edgesAt_sorted h h.isEnd_target
      count_outgoing := fun i e he => by
        show ((ofMentions ms).modules.toList.flatMap ((ofMentions ms).edgesAt _)).count i = 1
        rw [count_flatMap_edgesAt h h.isEnd_source he]
        exact if_neg (Option.some_ne_none _)
      count_incoming := fun i e he => count_flatMap_edgesAt h h.isEnd_target he }

end Graph

end ImportLint
