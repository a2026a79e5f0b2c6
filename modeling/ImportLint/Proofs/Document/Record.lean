import ImportLint.Document.Shape
import ImportLint.Proofs.Sequence
import Mathlib.Data.List.Nodup
import Mathlib.Data.List.Pairwise
import Mathlib.Data.List.Perm.Basic

/-!
# Reading records

What a record does with one member of its table (`Shape.Takes`) and what follows for the table as a whole. Where it does
not matter which of two fields is read first, the order of the members does not matter (`Shape.reader_perm`). A record
that is not strict passes over members whose keys name no field (`Shape.foldlM_append_extra`); in a strict one that has
been read every key names a field (`Shape.mem_known_of_strict`). Whichever way a record is written, all values given for
its fields have been read (`Shape.read_of_gives`).
-/

namespace ImportLint.Document

variable {α β γ : Type}

/-! ## Fields -/

namespace Field

variable {f g : Field α}

/-- Of two fields it does not matter which one is read first. -/
def Commutes (f g : Field α) : Prop :=
  ∀ a t u c, (∃ b, f.read a t = .ok b ∧ g.read b u = .ok c) ↔ ∃ b, g.read a u = .ok b ∧ f.read b t = .ok c

instance : Std.Symm (Commutes (α := α)) where
  symm _ _ h a t u c := (h a u t c).symm

/-- Fields whose values go to different places of the record commute. -/
theorem commutes_of_put {r : Reader β} {r' : Reader γ} {put : β → α → α} {put' : γ → α → α}
    (hf : f.read = fun a t => (fun b => put b a) <$> r t) (hg : g.read = fun a t => (fun c => put' c a) <$> r' t)
    (h : ∀ b c a, put' c (put b a) = put b (put' c a)) : f.Commutes g := by
  intro a t u d
  simp only [hf, hg, map_eq_ok_iff]
  constructor
  · rintro ⟨_, ⟨b, hb, rfl⟩, c, hc, rfl⟩
    exact ⟨put' c a, ⟨c, hc, rfl⟩, b, hb, (h b c a).symm⟩
  · rintro ⟨_, ⟨c, hc, rfl⟩, b, hb, rfl⟩
    exact ⟨put b a, ⟨b, hb, rfl⟩, c, hc, h b c a⟩

theorem mem_spellings {key : String} : key ∈ f.spellings ↔ f.isNamed key = true := by
  rw [spellings, List.mem_mergeSort, isNamed, Bool.or_eq_true, beq_iff_eq, List.contains_iff_mem, List.mem_cons,
    eq_comm]

end Field

namespace Shape

variable {s : Shape α}

/-! ## Members -/

/-- The field that a key names. -/
def field? (s : Shape α) : Key → Option (Field α)
  | .text key => s.fields.find? fun f => f.isNamed key
  | .unpaired => none

theorem mem_of_field? {k : Key} {f : Field α} (h : s.field? k = some f) : f ∈ s.fields := by
  cases k with
  | text key => exact List.mem_of_find?_eq_some h
  | unpaired => cases h

theorem field?_eq_none_iff {key : String} : s.field? (.text key) = none ↔ key ∉ s.known := by
  simp only [field?, List.find?_eq_none, known, List.mem_flatMap, Field.mem_spellings, not_exists, not_and]

theorem mem_known_iff {key : String} : key ∈ s.known ↔ key ∈ s.fields.flatMap fun f => f.name :: f.aliases := by
  have hspelt (f : Field α) : key ∈ f.spellings ↔ key ∈ f.name :: f.aliases := List.mem_mergeSort
  simp only [known, List.mem_flatMap, hspelt]

/-- How a record takes in a member: as the value of a field that has not been given before, or as one to pass over. -/
inductive Takes (s : Shape α) : Partial α → Key × Tree → Partial α → Prop
  | field {a b : α} {given : List String} {k : Key} {t : Tree} {f : Field α} (hf : s.field? k = some f)
      (hnew : f.name ∉ given) (hread : f.read a t = .ok b) : Takes s ⟨a, given⟩ (k, t) ⟨b, f.name :: given⟩
  | extra {p : Partial α} {key : String} {t : Tree} (hkey : key ∉ s.known) (hs : s.strict = false)
      (ht : t.firstBreak = none) : Takes s p (.text key, t) p

theorem anything_eq_ok_iff {t : Tree} : Reader.anything t = .ok () ↔ t.firstBreak = none := by
  unfold Reader.anything
  cases t.firstBreak <;> simp

theorem readMember_eq_ok_iff {p q : Partial α} {m : Key × Tree} : s.readMember p m = .ok q ↔ s.Takes p m q := by
  obtain ⟨k, t⟩ := m
  obtain ⟨a, given⟩ := p
  cases k with
  | unpaired =>
    constructor
    · intro h
      cases h
    · rintro ⟨hf, -, -⟩
      cases hf
  | text key =>
    have hfield : s.field? (.text key) = s.fields.find? fun f => f.isNamed key := rfl
    rw [readMember]
    cases hf : s.fields.find? fun f => f.isNamed key with
    | some f =>
      simp only [List.contains_iff_mem]
      constructor
      · intro h
        split_ifs at h with hnew
        obtain ⟨b, hb, rfl⟩ := map_eq_ok_iff.mp h
        exact .field (hfield.trans hf) hnew hb
      · rintro (⟨hf', hnew, hread⟩ | ⟨hkey, -, -⟩)
        · obtain rfl := Option.some.inj (hf'.symm.trans (hfield.trans hf))
          rw [if_neg hnew, hread]
          rfl
        · exact absurd (hfield.symm.trans (field?_eq_none_iff.mpr hkey)) (by rw [hf]; exact Option.some_ne_none f)
    | none =>
      have hkey : key ∉ s.known := field?_eq_none_iff.mp (hfield.trans hf)
      simp only
      constructor
      · intro h
        split_ifs at h with hs
        obtain ⟨_, hany, rfl⟩ := map_eq_ok_iff.mp h
        exact .extra hkey (Bool.eq_false_iff.mpr hs) (anything_eq_ok_iff.mp hany)
      · rintro (⟨hf', -, -⟩ | ⟨-, hs, ht⟩)
        · exact absurd (hf'.symm.trans (hfield.trans hf)) (Option.some_ne_none _)
        · rw [if_neg (Bool.eq_false_iff.mp hs), anything_eq_ok_iff.mpr ht]
          rfl

theorem foldlM_cons_eq_ok_iff {p q : Partial α} {m : Key × Tree} {ms : List (Key × Tree)} :
    (m :: ms).foldlM s.readMember p = .ok q ↔ ∃ p', s.Takes p m p' ∧ ms.foldlM s.readMember p' = .ok q := by
  simp only [List.foldlM_cons, bind_eq_ok_iff, readMember_eq_ok_iff]

theorem reader_table_eq_ok_iff {ms : List (Key × Tree)} {stop : Stop} {a : α} :
    s.reader (.table ms stop) = .ok a ↔
      stop.break? = none ∧ ∃ p, ms.foldlM s.readMember ⟨s.blank, []⟩ = .ok p ∧ s.finish p = .ok a := by
  rw [reader, bind_eq_ok_iff]
  cases stop.break? <;> simp

/-! ## The order of the members -/

/-- The same record, with the same fields given in any order. -/
structure Partial.Same (p q : Partial α) : Prop where
  value : p.value = q.value
  given : p.given.Perm q.given

theorem Partial.Same.refl (p : Partial α) : p.Same p := ⟨rfl, .refl _⟩

theorem Partial.Same.trans {p q r : Partial α} (h : p.Same q) (h' : q.Same r) : p.Same r :=
  ⟨h.value.trans h'.value, h.given.trans h'.given⟩

theorem finish_congr {p q : Partial α} (h : p.Same q) : s.finish p = s.finish q := by
  rw [finish, finish, h.value]
  simp only [h.given.contains_eq]

theorem Takes.same {p p' q : Partial α} {m : Key × Tree} (h : s.Takes p m p') (hpq : p.Same q) :
    ∃ q', s.Takes q m q' ∧ p'.Same q' := by
  obtain ⟨b, given⟩ := q
  cases h with
  | @field a b' given' k t f hf hnew hread =>
    obtain rfl : a = b := hpq.value
    exact ⟨_, .field hf (mt hpq.given.mem_iff.mpr hnew) hread, rfl, hpq.given.cons f.name⟩
  | extra hkey hs ht => exact ⟨_, .extra hkey hs ht, hpq⟩

theorem foldlM_same {ms : List (Key × Tree)} {p p' q : Partial α} (h : ms.foldlM s.readMember p = .ok p')
    (hpq : p.Same q) : ∃ q', ms.foldlM s.readMember q = .ok q' ∧ p'.Same q' := by
  induction ms generalizing p q with
  | nil =>
    obtain rfl : p = p' := Except.ok.inj h
    exact ⟨q, rfl, hpq⟩
  | cons m ms ih =>
    obtain ⟨p₁, hm, hms⟩ := foldlM_cons_eq_ok_iff.mp h
    obtain ⟨q₁, hm', hpq₁⟩ := hm.same hpq
    obtain ⟨q', hms', hpq'⟩ := ih hms hpq₁
    exact ⟨q', foldlM_cons_eq_ok_iff.mpr ⟨q₁, hm', hms'⟩, hpq'⟩

/-- Fields with different names are told apart by them. -/
theorem field?_name_of_nodup (names : (s.fields.map Field.name).Nodup) {f : Field α} (hf : f ∈ s.fields)
    (hown : (s.field? (.text f.name)).map Field.name = some f.name) : s.field? (.text f.name) = some f := by
  obtain ⟨g, hg, hname⟩ := Option.map_eq_some_iff.mp hown
  rw [hg, List.inj_on_of_nodup_map names (mem_of_field? hg) hf hname]

/-- The fields of a record do not get in each other's way. -/
structure Lawful (s : Shape α) : Prop where
  names : (s.fields.map Field.name).Nodup
  /-- The name of a field is no further spelling of a field before it. -/
  own : ∀ f ∈ s.fields, (s.field? (.text f.name)).map Field.name = some f.name
  commutes : s.fields.Pairwise Field.Commutes

/-- The name of a field names that field. -/
theorem Lawful.field?_name (hs : s.Lawful) {f : Field α} (hf : f ∈ s.fields) : s.field? (.text f.name) = some f :=
  field?_name_of_nodup hs.names hf (hs.own f hf)

section

variable (hs : s.Lawful)

include hs

/-- Two members may be taken in the other way round. -/
theorem Takes.swap {p p₁ p₂ : Partial α} {m m' : Key × Tree} (h : s.Takes p m p₁) (h' : s.Takes p₁ m' p₂) :
    ∃ q₁ q₂, s.Takes p m' q₁ ∧ s.Takes q₁ m q₂ ∧ p₂.Same q₂ := by
  cases h with
  | extra hkey hstrict ht => exact ⟨p₂, p₂, h', .extra hkey hstrict ht, .refl p₂⟩
  | @field a b given k t f hf hnew hread =>
    cases h' with
    | extra hkey hstrict ht => exact ⟨_, _, .extra hkey hstrict ht, .field hf hnew hread, .refl _⟩
    | @field _ c _ k' t' g hg hnew' hread' =>
      obtain ⟨hne, hnew'⟩ := List.ne_and_not_mem_of_not_mem_cons hnew'
      have hcomm : f.Commutes g :=
        hs.commutes.forall (mem_of_field? hf) (mem_of_field? hg) fun h => hne (congrArg Field.name h.symm)
      obtain ⟨b', hread', hread⟩ := (hcomm a t t' c).mp ⟨b, hread, hread'⟩
      have hnew := List.not_mem_cons_of_ne_of_not_mem hne.symm hnew
      exact ⟨_, _, .field hg hnew' hread', .field hf hnew hread, rfl, .swap ..⟩

theorem foldlM_perm {ms ms' : List (Key × Tree)} (h : ms.Perm ms') {p q : Partial α}
    (hp : ms.foldlM s.readMember p = .ok q) : ∃ q', ms'.foldlM s.readMember p = .ok q' ∧ q.Same q' := by
  induction h generalizing p q with
  | nil => exact ⟨q, hp, .refl q⟩
  | cons m _ ih =>
    obtain ⟨p₁, hm, hms⟩ := foldlM_cons_eq_ok_iff.mp hp
    obtain ⟨q', hms', hq⟩ := ih hms
    exact ⟨q', foldlM_cons_eq_ok_iff.mpr ⟨p₁, hm, hms'⟩, hq⟩
  | swap m m' ms =>
    obtain ⟨p₁, hm', h⟩ := foldlM_cons_eq_ok_iff.mp hp
    obtain ⟨p₂, hm, hms⟩ := foldlM_cons_eq_ok_iff.mp h
    obtain ⟨q₁, q₂, hm, hm', hsame⟩ := hm'.swap hs hm
    obtain ⟨q', hms', hq⟩ := foldlM_same hms hsame
    exact ⟨q', foldlM_cons_eq_ok_iff.mpr ⟨q₁, hm, foldlM_cons_eq_ok_iff.mpr ⟨q₂, hm', hms'⟩⟩, hq⟩
  | trans _ _ ih ih' =>
    obtain ⟨q₁, h₁, hq₁⟩ := ih hp
    obtain ⟨q₂, h₂, hq₂⟩ := ih' h₁
    exact ⟨q₂, h₂, hq₁.trans hq₂⟩

/-- The order of the members does not matter. -/
theorem reader_perm {ms ms' : List (Key × Tree)} {stop : Stop} {a : α} (h : ms.Perm ms')
    (hr : s.reader (.table ms stop) = .ok a) : s.reader (.table ms' stop) = .ok a := by
  obtain ⟨hstop, p, hp, hfinish⟩ := reader_table_eq_ok_iff.mp hr
  obtain ⟨q, hq, hsame⟩ := foldlM_perm hs h hp
  exact reader_table_eq_ok_iff.mpr ⟨hstop, q, hq, finish_congr hsame ▸ hfinish⟩

end

/-! ## Keys that name no field -/

/-- A member to pass over: its key names no field and its value breaks off nowhere. -/
def IsExtra (s : Shape α) (m : Key × Tree) : Prop := ∃ key, m.1 = .text key ∧ key ∉ s.known ∧ m.2.firstBreak = none

theorem foldlM_append_extra (hstrict : s.strict = false) {ms extra : List (Key × Tree)} (h : ∀ m ∈ extra, s.IsExtra m)
    {p q : Partial α} (hp : ms.foldlM s.readMember p = .ok q) : (ms ++ extra).foldlM s.readMember p = .ok q := by
  have hextra : extra.foldlM s.readMember q = .ok q := by
    clear hp
    induction extra with
    | nil => rfl
    | cons m extra ih =>
      obtain ⟨key, hkey, hunknown, ht⟩ := h m List.mem_cons_self
      have hm : s.Takes q m q := by
        obtain ⟨k, t⟩ := m
        obtain rfl : k = .text key := hkey
        exact .extra hunknown hstrict ht
      exact foldlM_cons_eq_ok_iff.mpr ⟨q, hm, ih fun m' hm' => h m' (List.mem_cons_of_mem m hm')⟩
  rw [List.foldlM_append, hp]
  exact hextra

theorem exists_takes {ms : List (Key × Tree)} {p q : Partial α} (h : ms.foldlM s.readMember p = .ok q)
    {m : Key × Tree} (hm : m ∈ ms) : ∃ p₁ p₂, s.Takes p₁ m p₂ := by
  induction ms generalizing p with
  | nil => cases hm
  | cons m' ms ih =>
    obtain ⟨p', hm', hms⟩ := foldlM_cons_eq_ok_iff.mp h
    obtain rfl | hm := List.mem_cons.mp hm
    · exact ⟨p, p', hm'⟩
    · exact ih hms hm

/-- In a strict record that has been read every key names a field. -/
theorem mem_known_of_strict (hstrict : s.strict = true) {ms : List (Key × Tree)} {stop : Stop} {a : α}
    (hr : s.reader (.table ms stop) = .ok a) {key : String} {t : Tree} (hm : (.text key, t) ∈ ms) : key ∈ s.known := by
  obtain ⟨-, p, hp, -⟩ := reader_table_eq_ok_iff.mp hr
  obtain ⟨p₁, p₂, h⟩ := exists_takes hp hm
  by_contra hkey
  cases h with
  | field hf _ _ => exact absurd ((field?_eq_none_iff.mpr hkey).symm.trans hf) (Option.some_ne_none _).symm
  | extra _ hs _ => exact absurd (hstrict.symm.trans hs) (by decide)

/-! ## The values of fields -/

/-- The value `u` stands in `t` for the field `name` of a record: in a table under a key that names the field, in a list
at the place of the field. -/
inductive Gives (s : Shape α) : Tree → String → Tree → Prop
  | member {ms : List (Key × Tree)} {stop : Stop} {k : Key} {u : Tree} {f : Field α} (hm : (k, u) ∈ ms)
      (hf : s.field? k = some f) : Gives s (.table ms stop) f.name u
  | item {items : List Tree} {stop : Stop} {i : Nat} {u : Tree} {f : Field α} (hi : items[i]? = some u)
      (hf : s.fields[i]? = some f) : Gives s (.list items stop) f.name u

theorem read_of_readItems {stop : Stop} {fs : List (Field α)} {items : List Tree} {a b : α}
    (h : s.readItems stop fs items a = .ok b) {i : Nat} {u : Tree} {f : Field α} (hi : items[i]? = some u)
    (hf : fs[i]? = some f) : ∃ c d, f.read c u = .ok d := by
  induction fs generalizing items a i with
  | nil => cases hf
  | cons g fs ih =>
    cases items with
    | nil => cases hi
    | cons t items =>
      rw [readItems] at h
      obtain ⟨c, hc, h⟩ := bind_eq_ok_iff.mp h
      cases i with
      | zero =>
        obtain rfl : g = f := Option.some.inj hf
        obtain rfl : t = u := Option.some.inj hi
        exact ⟨a, c, hc⟩
      | succ i => exact ih h hi hf

/-- A record that has been read has read the values of all fields that are given. -/
theorem read_of_gives {t u : Tree} {name : String} {a : α} (h : s.Gives t name u) (hr : s.reader t = .ok a) :
    ∃ f ∈ s.fields, f.name = name ∧ ∃ c d, f.read c u = .ok d := by
  cases h with
  | member hm hf =>
    obtain ⟨-, p, hp, -⟩ := reader_table_eq_ok_iff.mp hr
    obtain ⟨p₁, p₂, htakes⟩ := exists_takes hp hm
    refine ⟨_, mem_of_field? hf, rfl, ?_⟩
    cases htakes with
    | field hf' _ hread =>
      obtain rfl := Option.some.inj (hf'.symm.trans hf)
      exact ⟨_, _, hread⟩
    | extra hkey _ _ => exact absurd ((field?_eq_none_iff.mpr hkey).symm.trans hf) (Option.some_ne_none _).symm
  | item hi hf => exact ⟨_, List.mem_of_getElem? hf, rfl, read_of_readItems hr hi hf⟩

/-- A record that has been read has read the value of a field with that field's reader. -/
theorem value_of_gives (hn : (s.fields.map Field.name).Nodup) {i : Nat} {f : Field α} (hf : s.fields[i]? = some f)
    {r : Reader β} {put : β → α → α} (hread : f.read = fun a t => (fun b => put b a) <$> r t) {t u : Tree} {a : α}
    (h : s.Gives t f.name u) (hr : s.reader t = .ok a) : ∃ b, r u = .ok b := by
  obtain ⟨g, hg, hname, c, d, hgread⟩ := read_of_gives h hr
  obtain rfl : g = f := List.inj_on_of_nodup_map hn hg (List.mem_of_getElem? hf) hname
  rw [hread] at hgread
  obtain ⟨b, hb, -⟩ := map_eq_ok_iff.mp hgread
  exact ⟨b, hb⟩

/-! ## Fields in order -/

/-- The members `ms` give the values of the fields `fs` in their order, each under the name of its field, which make the
record `b` of `a`. Fields that may be left out may be missing. -/
inductive Writes : List (Field α) → List (Key × Tree) → α → α → Prop
  | nil (a : α) : Writes [] [] a a
  | give {f : Field α} {fs : List (Field α)} {t : Tree} {ms : List (Key × Tree)} {a b c : α}
      (hread : f.read a t = .ok b) (h : Writes fs ms b c) : Writes (f :: fs) ((.text f.name, t) :: ms) a c
  | leave {f : Field α} {fs : List (Field α)} {ms : List (Key × Tree)} {a b : α} (hf : f.required = false)
      (h : Writes fs ms a b) : Writes (f :: fs) ms a b

theorem Writes.foldlM {fs : List (Field α)} {ms : List (Key × Tree)} {a b : α} (h : Writes fs ms a b)
    (hown : ∀ f ∈ fs, s.field? (.text f.name) = some f) (hnames : (fs.map Field.name).Nodup) {given : List String}
    (hnew : ∀ f ∈ fs, f.name ∉ given) :
    ∃ given', ms.foldlM s.readMember ⟨a, given⟩ = .ok ⟨b, given'⟩ ∧ given ⊆ given' ∧
      ∀ f ∈ fs, f.required = true → f.name ∈ given' := by
  induction h generalizing given with
  | nil a => exact ⟨given, rfl, List.Subset.refl _, fun f hf => nomatch hf⟩
  | @give f fs t ms a b c hread _ ih =>
    obtain ⟨hf, hfs⟩ := List.nodup_cons.mp hnames
    obtain ⟨hownf, hown⟩ := List.forall_mem_cons.mp hown
    obtain ⟨hnewf, hnew⟩ := List.forall_mem_cons.mp hnew
    have hne : ∀ g ∈ fs, g.name ∉ f.name :: given := fun g hg =>
      List.not_mem_cons_of_ne_of_not_mem (fun h => hf (h ▸ List.mem_map_of_mem hg)) (hnew g hg)
    obtain ⟨given', hms, hsub, hgiven⟩ := ih hown hfs hne
    refine ⟨given', foldlM_cons_eq_ok_iff.mpr ⟨_, .field hownf hnewf hread, hms⟩, ?_, ?_⟩
    · exact List.Subset.trans (List.subset_cons_self _ _) hsub
    · exact List.forall_mem_cons.mpr ⟨fun _ => hsub List.mem_cons_self, hgiven⟩
  | @leave f fs ms a b hf _ ih =>
    obtain ⟨given', hms, hsub, hgiven⟩ :=
      ih (List.forall_mem_cons.mp hown).2 (List.nodup_cons.mp hnames).2 (List.forall_mem_cons.mp hnew).2
    refine ⟨given', hms, hsub, List.forall_mem_cons.mpr ⟨fun h => ?_, hgiven⟩⟩
    exact absurd (hf.symm.trans h) (by decide)

/-- A record whose table gives its fields in their order is read by its fields one after the other. -/
theorem reader_of_writes (hs : s.Lawful) {ms : List (Key × Tree)} {a : α} (h : Writes s.fields ms s.blank a) :
    s.reader (.table ms .closed) = .ok a := by
  have hnew : ∀ f ∈ s.fields, f.name ∉ ([] : List String) := fun _ _ => List.not_mem_nil
  obtain ⟨given, hms, -, hgiven⟩ := h.foldlM (fun _ => hs.field?_name) hs.names hnew
  refine reader_table_eq_ok_iff.mpr ⟨rfl, _, hms, ?_⟩
  have hcomplete : (s.fields.find? fun f => f.required && !given.contains f.name) = none := by
    rw [List.find?_eq_none]
    intro f hf h
    simp only [Bool.and_eq_true, Bool.not_eq_true', List.contains_eq_mem, decide_eq_false_iff_not] at h
    exact h.2 (hgiven f hf h.1)
  rw [finish, hcomplete]

end Shape

end ImportLint.Document
