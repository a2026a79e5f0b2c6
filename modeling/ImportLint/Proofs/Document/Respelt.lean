import ImportLint.Proofs.Document.Record

/-!
# Spellings of keys

A field of a record may have further spellings of its name. `Tree.respell` gives the members of a record other keys and
its values another form. If every key becomes the name of its field, and the values are read alike in both forms, then a
strict record is read alike before and after, errors included (`Shape.reader_respell`). A record with two keys for one
field cannot be read (`Shape.field?_ne_of_read`).
-/

namespace ImportLint.Document

variable {α β : Type}

namespace Tree

/-- A member with another key, and its value in the form for that key. -/
def respellMember (spell : String → String) (form : String → Tree → Tree) : Key × Tree → Key × Tree
  | (.text key, t) => (.text (spell key), form (spell key) t)
  | (.unpaired, t) => (.unpaired, t)

/-- Values in order, each in the form for its name; those behind the last name are kept. -/
def respellItems (form : String → Tree → Tree) : List String → List Tree → List Tree
  | name :: names, t :: ts => form name t :: respellItems form names ts
  | _, ts => ts

/-- A record with other keys and its values in other forms. It is a table, or the list of the values for `names`. -/
def respell (names : List String) (spell : String → String) (form : String → Tree → Tree) : Tree → Tree
  | .table ms stop => .table (ms.map (respellMember spell form)) stop
  | .list ts stop => .list (respellItems form names ts) stop
  | t => t

/-- A list with its items in another form. -/
def respellEach (form : Tree → Tree) : Tree → Tree
  | .list ts stop => .list (ts.map form) stop
  | t => t

end Tree

/-! ## Readers -/

namespace Reader

theorem list_respellEach {r : Reader α} {form : Tree → Tree} (h : ∀ t, r (form t) = r t) (t : Tree) :
    Reader.list r (t.respellEach form) = Reader.list r t := by
  cases t with
  | list ts stop => simp only [Tree.respellEach, Reader.list, List.mapM_map, Function.comp_def, h]
  | _ => rfl

theorem optional_respell {r : Reader α} {names : List String} {spell : String → String} {form : String → Tree → Tree}
    (h : ∀ t : Tree, r (t.respell names spell form) = r t) (t : Tree) :
    Reader.optional r (t.respell names spell form) = Reader.optional r t := by
  cases t with
  | table ms stop => exact congrArg (some <$> ·) (h (.table ms stop))
  | list ts stop => exact congrArg (some <$> ·) (h (.list ts stop))
  | _ => rfl

end Reader

/-- A field whose value is read alike in another form. -/
theorem Field.read_of_put {f : Field α} {r : Reader β} {put : β → α → α}
    (hf : f.read = fun a t => (fun b => put b a) <$> r t) {form : Tree → Tree} (h : ∀ t, r (form t) = r t) (a : α)
    (t : Tree) : f.read a (form t) = f.read a t := by
  rw [hf]
  simp only [h]

/-! ## Records -/

namespace Shape

variable {s : Shape α} {spell : String → String} {form : String → Tree → Tree}

/-- Keys that name a field become the name of the field, other keys are kept. -/
structure SpeltBy (s : Shape α) (spell : String → String) : Prop where
  /-- The name of a field names that field. -/
  own : ∀ f ∈ s.fields, s.field? (.text f.name) = some f
  name : ∀ key f, s.field? (.text key) = some f → spell key = f.name
  other : ∀ key, s.field? (.text key) = none → spell key = key

/-- It is enough to look at the spellings of fields. -/
theorem speltBy_of_known (own : ∀ f ∈ s.fields, s.field? (.text f.name) = some f)
    (name : ∀ key ∈ s.fields.flatMap fun f => f.name :: f.aliases,
      (s.field? (.text key)).map Field.name = some (spell key))
    (other : ∀ key, (key ∉ s.fields.flatMap fun f => f.name :: f.aliases) → spell key = key) : s.SpeltBy spell where
  own := own
  name key f hf := by
    have hkey : key ∈ s.known := by
      by_contra hunknown
      rw [field?_eq_none_iff.mpr hunknown] at hf
      cases hf
    have hname := name key (mem_known_iff.mp hkey)
    rw [hf] at hname
    exact (Option.some.inj hname).symm
  other key hkey := other key (mt mem_known_iff.mpr (field?_eq_none_iff.mp hkey))

theorem readMember_respell (hstrict : s.strict = true) (hs : s.SpeltBy spell)
    (hform : ∀ f ∈ s.fields, ∀ a t, f.read a (form f.name t) = f.read a t) (p : Partial α) (m : Key × Tree) :
    s.readMember p (Tree.respellMember spell form m) = s.readMember p m := by
  obtain ⟨k, t⟩ := m
  cases k with
  | unpaired => rfl
  | text key =>
    cases hf : s.field? (.text key) with
    | none =>
      have hfind : (s.fields.find? fun f => f.isNamed key) = none := hf
      simp only [Tree.respellMember, hs.other key hf, readMember, hfind, hstrict, if_true]
    | some f =>
      have hmem := mem_of_field? hf
      have hfind : (s.fields.find? fun g => g.isNamed key) = some f := hf
      have hown : (s.fields.find? fun g => g.isNamed f.name) = some f := hs.own f hmem
      simp only [Tree.respellMember, hs.name key f hf, readMember, hfind, hown, hform f hmem]

theorem readItems_respell {stop : Stop} {fs : List (Field α)}
    (hform : ∀ f ∈ fs, ∀ a t, f.read a (form f.name t) = f.read a t) (ts : List Tree) (a : α) :
    s.readItems stop fs (Tree.respellItems form (fs.map Field.name) ts) a = s.readItems stop fs ts a := by
  induction fs generalizing ts a with
  | nil => cases ts <;> rfl
  | cons f fs ih =>
    obtain ⟨hf, hfs⟩ := List.forall_mem_cons.mp hform
    cases ts with
    | nil => rfl
    | cons t ts =>
      have hrest : s.readItems stop fs (Tree.respellItems form (fs.map Field.name) ts) = s.readItems stop fs ts :=
        funext fun a => ih hfs ts a
      simp only [List.map_cons, Tree.respellItems, readItems, hf, hrest]

/-- A strict record is read alike, errors included, with its keys respelt and its values in another form. -/
theorem reader_respell {names : List String} (hnames : s.fields.map Field.name = names) (hstrict : s.strict = true)
    (hs : s.SpeltBy spell) (hform : ∀ f ∈ s.fields, ∀ a t, f.read a (form f.name t) = f.read a t) (t : Tree) :
    s.reader (t.respell names spell form) = s.reader t := by
  subst hnames
  cases t with
  | table ms stop => simp only [Tree.respell, reader, List.foldlM_map, readMember_respell hstrict hs hform]
  | list ts stop => simp only [Tree.respell, reader, readItems_respell hform]
  | _ => rfl

/-! ## Fields that are given twice -/

/-- Two members are not the values of one field. -/
def Apart (s : Shape α) (m m' : Key × Tree) : Prop := ∀ f, s.field? m.1 = some f → s.field? m'.1 ≠ some f

instance : Std.Symm s.Apart where
  symm _ _ h f hf hf' := h f hf' hf

/-- Members that have been taken in are values of different fields, none of which had been given before. -/
theorem apart_of_foldlM {ms : List (Key × Tree)} {p q : Partial α} (h : ms.foldlM s.readMember p = .ok q) :
    ms.Pairwise s.Apart ∧ ∀ m ∈ ms, ∀ f, s.field? m.1 = some f → f.name ∉ p.given := by
  induction ms generalizing p with
  | nil => exact ⟨.nil, List.forall_mem_nil _⟩
  | cons m ms ih =>
    obtain ⟨p', htakes, hms⟩ := foldlM_cons_eq_ok_iff.mp h
    obtain ⟨hpairwise, hnew⟩ := ih hms
    cases htakes with
    | extra hkey _ _ =>
      have hnone := field?_eq_none_iff.mpr hkey
      refine ⟨.cons (fun m' _ f hf => ?_) hpairwise, List.forall_mem_cons.mpr ⟨fun f hf => ?_, hnew⟩⟩
      · rw [hnone] at hf
        cases hf
      · rw [hnone] at hf
        cases hf
    | @field a b given k t f hf hfnew _ =>
      refine ⟨.cons (fun m' hm' g hg hg' => ?_) hpairwise, List.forall_mem_cons.mpr ⟨fun g hg => ?_, ?_⟩⟩
      · obtain rfl := Option.some.inj (hf.symm.trans hg)
        exact hnew m' hm' f hg' List.mem_cons_self
      · obtain rfl := Option.some.inj (hf.symm.trans hg)
        exact hfnew
      · exact fun m' hm' g hg hgiven => hnew m' hm' g hg (List.mem_cons_of_mem _ hgiven)

/-- In a record that has been read, no two keys name the same field. -/
theorem field?_ne_of_read {ms : List (Key × Tree)} {stop : Stop} {a : α} (h : s.reader (.table ms stop) = .ok a)
    {k k' : Key} {t t' : Tree} (hm : (k, t) ∈ ms) (hm' : (k', t') ∈ ms) (hne : k ≠ k') {f : Field α}
    (hf : s.field? k = some f) : s.field? k' ≠ some f := by
  obtain ⟨-, p, hp, -⟩ := reader_table_eq_ok_iff.mp h
  have hmembers : (k, t) ≠ (k', t') := fun h => hne (Prod.mk.inj h).1
  exact (apart_of_foldlM hp).1.forall hm hm' hmembers f hf

end Shape

end ImportLint.Document
