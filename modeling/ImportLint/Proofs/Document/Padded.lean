import ImportLint.Proofs.Document.Record

/-!
# Padded records

A record is padded if its table is given further members, with keys that name none of its fields, and its members are
put in another order; the values of its fields may be padded as well. A record that is not strict is read alike before
and after (`Shape.reader_respects_padded`), if the same holds of each of its fields.
-/

namespace ImportLint.Document

variable {α β : Type} {R : Tree → Tree → Prop}

/-! ## Readers -/

/-- What can be read from a document can be read from every document that stands in the relation `R` to it. -/
def Reader.Respects (r : Reader α) (R : Tree → Tree → Prop) : Prop := ∀ t t' a, R t t' → r t = .ok a → r t' = .ok a

theorem Reader.respects_eq (r : Reader α) : r.Respects Eq := by
  rintro t _ a rfl h
  exact h

/-- Lists whose items stand in the relation `R` one by one. -/
inductive Itemwise (R : Tree → Tree → Prop) : Tree → Tree → Prop
  | list {ts ts' : List Tree} {stop : Stop} (h : List.Forall₂ R ts ts') : Itemwise R (.list ts stop) (.list ts' stop)

theorem Reader.Respects.forall₂ {r : Reader α} (hr : r.Respects R) {ts ts' : List Tree} (h : List.Forall₂ R ts ts')
    {as : List α} (has : List.Forall₂ (fun t a => r t = .ok a) ts as) :
    List.Forall₂ (fun t a => r t = .ok a) ts' as := by
  induction h generalizing as with
  | nil => exact has
  | cons ht _ ih =>
    cases has with
    | cons ha has => exact .cons (hr _ _ _ ht ha) (ih has)

theorem Reader.Respects.list {r : Reader α} (hr : r.Respects R) : (Reader.list r).Respects (Itemwise R) := by
  rintro _ _ as ⟨hitems⟩ h
  obtain ⟨bs, hbs, hend⟩ := bind_eq_ok_iff.mp h
  exact bind_eq_ok_iff.mpr ⟨bs, mapM_eq_ok_iff.mpr (hr.forall₂ hitems (mapM_eq_ok_iff.mp hbs)), hend⟩

/-- The value of a field is read alike. -/
def Field.Respects (f : Field α) (R : Tree → Tree → Prop) : Prop := ∀ a, Reader.Respects (f.read a) R

theorem Field.respects_of_put {f : Field α} {r : Reader β} {put : β → α → α}
    (hf : f.read = fun a t => (fun b => put b a) <$> r t) (hr : r.Respects R) : f.Respects R := by
  intro a t t' c hR h
  rw [hf] at h ⊢
  obtain ⟨b, hb, rfl⟩ := map_eq_ok_iff.mp h
  exact map_eq_ok_iff.mpr ⟨b, hr t t' b hR hb, rfl⟩

/-! ## Records -/

namespace Shape

variable {s : Shape α} {R : String → Tree → Tree → Prop}

/-- Members with the same key. The values of a field stand in the relation for that field, other values are the same. -/
inductive SameMember (s : Shape α) (R : String → Tree → Tree → Prop) : Key × Tree → Key × Tree → Prop
  | field {k : Key} {t t' : Tree} {f : Field α} (hf : s.field? k = some f) (h : R f.name t t') :
      SameMember s R (k, t) (k, t')
  | other {k : Key} {t : Tree} (hf : s.field? k = none) : SameMember s R (k, t) (k, t)

/-- Items that are the values of fields in order, each in the relation for its field. -/
inductive SameItems (R : String → Tree → Tree → Prop) : List (Field α) → List Tree → List Tree → Prop
  | nil (fs : List (Field α)) : SameItems R fs [] []
  | cons {f : Field α} {fs : List (Field α)} {t t' : Tree} {ts ts' : List Tree} (h : R f.name t t')
      (hs : SameItems R fs ts ts') : SameItems R (f :: fs) (t :: ts) (t' :: ts')

/-- The second document is the first one padded: it has the same members, the values of fields padded as `R` says, and
members with keys that name no field, all of them in any order. A record that is written as a list has no members; only
the values of its fields are padded. -/
inductive Padded (s : Shape α) (R : String → Tree → Tree → Prop) : Tree → Tree → Prop
  | table {ms ms₁ ms' extra : List (Key × Tree)} {stop : Stop} (hsame : List.Forall₂ (s.SameMember R) ms ms₁)
      (hextra : ∀ m ∈ extra, s.IsExtra m) (hperm : (ms₁ ++ extra).Perm ms') :
      Padded s R (.table ms stop) (.table ms' stop)
  | list {ts ts' : List Tree} {stop : Stop} (h : SameItems R s.fields ts ts') :
      Padded s R (.list ts stop) (.list ts' stop)

theorem Takes.sameMember (hR : ∀ f ∈ s.fields, f.Respects (R f.name)) {p q : Partial α} {m m' : Key × Tree}
    (h : s.Takes p m q) (hm : s.SameMember R m m') : s.Takes p m' q := by
  cases hm with
  | other _ => exact h
  | field hg hvalue =>
    cases h with
    | field hf hnew hread =>
      obtain rfl := Option.some.inj (hf.symm.trans hg)
      exact .field hf hnew (hR _ (mem_of_field? hf) _ _ _ _ hvalue hread)
    | extra hkey _ _ => exact absurd ((field?_eq_none_iff.mpr hkey).symm.trans hg) (Option.some_ne_none _).symm

theorem foldlM_sameMember (hR : ∀ f ∈ s.fields, f.Respects (R f.name)) {ms ms' : List (Key × Tree)}
    (h : List.Forall₂ (s.SameMember R) ms ms') {p q : Partial α} (hp : ms.foldlM s.readMember p = .ok q) :
    ms'.foldlM s.readMember p = .ok q := by
  induction h generalizing p with
  | nil => exact hp
  | cons hm _ ih =>
    obtain ⟨p', htakes, hms⟩ := foldlM_cons_eq_ok_iff.mp hp
    exact foldlM_cons_eq_ok_iff.mpr ⟨p', htakes.sameMember hR hm, ih hms⟩

theorem readItems_sameItems {stop : Stop} {fs : List (Field α)} {ts ts' : List Tree} (h : SameItems R fs ts ts')
    (hR : ∀ f ∈ fs, f.Respects (R f.name)) {a b : α} (hr : s.readItems stop fs ts a = .ok b) :
    s.readItems stop fs ts' a = .ok b := by
  induction h generalizing a with
  | nil fs => exact hr
  | cons ht _ ih =>
    obtain ⟨hf, hfs⟩ := List.forall_mem_cons.mp hR
    rw [readItems] at hr ⊢
    obtain ⟨c, hc, hr⟩ := bind_eq_ok_iff.mp hr
    exact bind_eq_ok_iff.mpr ⟨c, hf a _ _ c ht hc, ih hfs hr⟩

/-- A record that is not strict is read alike when it is padded. -/
theorem reader_respects_padded (hs : s.Lawful) (hstrict : s.strict = false)
    (hR : ∀ f ∈ s.fields, f.Respects (R f.name)) : Reader.Respects s.reader (s.Padded R) := by
  rintro _ _ a (⟨hsame, hextra, hperm⟩ | hitems) h
  · obtain ⟨hstop, p, hp, hfinish⟩ := reader_table_eq_ok_iff.mp h
    have hpadded := foldlM_append_extra hstrict hextra (foldlM_sameMember hR hsame hp)
    exact reader_perm hs hperm (reader_table_eq_ok_iff.mpr ⟨hstop, p, hpadded, hfinish⟩)
  · exact readItems_sameItems hitems hR h

end Shape

end ImportLint.Document
