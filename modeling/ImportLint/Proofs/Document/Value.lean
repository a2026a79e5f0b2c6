import ImportLint.Proofs.Document.Record

/-!
# Values of fields

A field shows in a record that has been read if its value alone decides some view of the record (`Shape.Shows`). Such a
view of the record is what the document gives for the field (`Shape.exists_gives_of_reader`), whatever else the document
holds and in whichever way it is written.
-/

namespace ImportLint.Document.Shape

variable {α β : Type} {s : Shape α}

/-- The field `f` alone decides what `look` shows of a record, and it shows what `r` reads for the field. -/
structure Shows (s : Shape α) (f : Field α) (r : Reader β) (look : α → β) : Prop where
  mem : f ∈ s.fields
  read : ∀ a t b, f.read a t = .ok b → r t = .ok (look b)
  other : ∀ g ∈ s.fields, g.name ≠ f.name → ∀ a t b, g.read a t = .ok b → look b = look a

namespace Shows

variable {f : Field α} {r : Reader β} {look : α → β}

/-! ## Tables -/

/-- A member keeps the view if the field has been given before. -/
theorem look_eq_of_takes (h : s.Shows f r look) {p q : Partial α} {m : Key × Tree} (hm : s.Takes p m q)
    (hgiven : f.name ∈ p.given) : look q.value = look p.value ∧ f.name ∈ q.given := by
  cases hm with
  | @field a b given k t g hg hnew hread =>
    have hne : g.name ≠ f.name := fun heq => hnew (heq ▸ hgiven)
    exact ⟨h.other g (mem_of_field? hg) hne a t b hread, List.mem_cons_of_mem _ hgiven⟩
  | extra _ _ _ => exact ⟨rfl, hgiven⟩

/-- Once the field has been given, the members behind it keep the view. -/
theorem look_eq_of_foldlM (h : s.Shows f r look) {ms : List (Key × Tree)} {p q : Partial α}
    (hms : ms.foldlM s.readMember p = .ok q) (hgiven : f.name ∈ p.given) : look q.value = look p.value := by
  induction ms generalizing p with
  | nil =>
    obtain rfl : p = q := Except.ok.inj hms
    rfl
  | cons m ms ih =>
    obtain ⟨p', hm, hms⟩ := foldlM_cons_eq_ok_iff.mp hms
    obtain ⟨hlook, hgiven⟩ := h.look_eq_of_takes hm hgiven
    rw [ih hms hgiven, hlook]

/-- If the field is given on the way, the view shows the value of the member that gives it. -/
theorem exists_member (h : s.Shows f r look) (hn : (s.fields.map Field.name).Nodup) {ms : List (Key × Tree)}
    {p q : Partial α} (hms : ms.foldlM s.readMember p = .ok q) (hnew : f.name ∉ p.given) (hgiven : f.name ∈ q.given) :
    ∃ k u, (k, u) ∈ ms ∧ s.field? k = some f ∧ r u = .ok (look q.value) := by
  induction ms generalizing p with
  | nil =>
    obtain rfl : p = q := Except.ok.inj hms
    exact absurd hgiven hnew
  | cons m ms ih =>
    obtain ⟨p', hm, hms⟩ := foldlM_cons_eq_ok_iff.mp hms
    by_cases hnew' : f.name ∈ p'.given
    · -- this member gives the field, and the others keep the view
      have hlook := h.look_eq_of_foldlM hms hnew'
      cases hm with
      | @field a b given k t g hg _ hread =>
        have hname : g.name = f.name := (List.mem_cons.mp hnew').elim Eq.symm fun hold => absurd hold hnew
        obtain rfl : g = f := List.inj_on_of_nodup_map hn (mem_of_field? hg) h.mem hname
        exact ⟨k, t, List.mem_cons_self, hg, hlook ▸ h.read a t b hread⟩
      | extra _ _ _ => exact absurd hnew' hnew
    · obtain ⟨k, u, hu, hk, hr⟩ := ih hms hnew'
      exact ⟨k, u, List.mem_cons_of_mem m hu, hk, hr⟩

/-! ## Lists -/

/-- Items of other fields keep the view. -/
theorem look_eq_of_readItems (h : s.Shows f r look) {stop : Stop} {fs : List (Field α)} {items : List Tree} {a b : α}
    (hitems : s.readItems stop fs items a = .ok b) (hfs : ∀ g ∈ fs, g ∈ s.fields ∧ g.name ≠ f.name) :
    look b = look a := by
  induction fs generalizing items a with
  | nil =>
    cases items with
    | nil =>
      rw [readItems] at hitems
      split at hitems
      · rw [Except.ok.inj hitems]
      · cases hitems
    | cons t items =>
      rw [readItems] at hitems
      split_ifs at hitems
      rw [Except.ok.inj hitems]
  | cons g fs ih =>
    obtain ⟨⟨hg, hne⟩, hfs'⟩ := List.forall_mem_cons.mp hfs
    cases items with
    | nil =>
      rw [readItems] at hitems
      split at hitems
      · cases hitems
      · split_ifs at hitems
        exact ih hitems hfs'
    | cons t items =>
      rw [readItems] at hitems
      obtain ⟨c, hc, hitems⟩ := bind_eq_ok_iff.mp hitems
      rw [ih hitems hfs', h.other g hg hne a t c hc]

/-- The view shows the item at the place of the field. -/
theorem exists_item (h : s.Shows f r look) (hrequired : f.required = true) {stop : Stop} {fs : List (Field α)}
    (hsub : fs ⊆ s.fields) (hn : (fs.map Field.name).Nodup) (hf : f ∈ fs) {items : List Tree} {a b : α}
    (hitems : s.readItems stop fs items a = .ok b) :
    ∃ (i : Nat) (u : Tree), items[i]? = some u ∧ fs[i]? = some f ∧ r u = .ok (look b) := by
  induction fs generalizing items a with
  | nil => cases hf
  | cons g fs ih =>
    obtain ⟨hg, hn⟩ := List.nodup_cons.mp hn
    obtain ⟨hgs, hsub⟩ := List.cons_subset.mp hsub
    cases items with
    | nil =>
      rw [readItems] at hitems
      split at hitems
      · cases hitems
      · split_ifs at hitems with hoptional
        obtain rfl | hf := List.mem_cons.mp hf
        · exact absurd hrequired hoptional
        · obtain ⟨i, u, hi, -⟩ := ih hsub hn hf hitems
          cases hi
    | cons t items =>
      rw [readItems] at hitems
      obtain ⟨c, hc, hitems⟩ := bind_eq_ok_iff.mp hitems
      by_cases hgf : g = f
      · subst hgf
        have hothers : ∀ g' ∈ fs, g' ∈ s.fields ∧ g'.name ≠ g.name := fun g' hg' =>
          ⟨hsub hg', fun heq => hg (heq ▸ List.mem_map_of_mem hg')⟩
        refine ⟨0, t, rfl, rfl, ?_⟩
        rw [h.look_eq_of_readItems hitems hothers]
        exact h.read a t c hc
      · have hf : f ∈ fs := (List.mem_cons.mp hf).resolve_left (Ne.symm hgf)
        obtain ⟨i, u, hi, hfi, hr⟩ := ih hsub hn hf hitems
        exact ⟨i + 1, u, hi, hfi, hr⟩

/-! ## Records -/

/-- A record that has been read shows what the document gives for a field that it needs. -/
theorem exists_gives_of_reader (h : s.Shows f r look) (hn : (s.fields.map Field.name).Nodup)
    (hrequired : f.required = true) {t : Tree} {a : α} (ht : s.reader t = .ok a) :
    ∃ u, s.Gives t f.name u ∧ r u = .ok (look a) := by
  cases t with
  | table ms stop =>
    obtain ⟨-, p, hp, hfinish⟩ := reader_table_eq_ok_iff.mp ht
    have hgiven : f.name ∈ p.given := by
      by_contra hmissing
      rw [finish] at hfinish
      split at hfinish
      · cases hfinish
      · next hnone =>
        have hf := List.find?_eq_none.mp hnone f h.mem
        simp [hrequired, hmissing] at hf
    have hvalue : p.value = a := by
      rw [finish] at hfinish
      split at hfinish
      · cases hfinish
      · exact Except.ok.inj hfinish
    obtain ⟨k, u, hu, hk, hr⟩ := h.exists_member hn hp List.not_mem_nil hgiven
    exact ⟨u, .member hu hk, hvalue ▸ hr⟩
  | list items stop =>
    obtain ⟨i, u, hi, hf, hr⟩ := h.exists_item hrequired (List.Subset.refl _) hn h.mem ht
    exact ⟨u, .item hi hf, hr⟩
  | _ => cases ht

end Shows

end ImportLint.Document.Shape
