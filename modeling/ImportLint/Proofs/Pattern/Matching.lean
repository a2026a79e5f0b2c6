import ImportLint.Pattern.Regex
import Mathlib.Data.List.Basic
import Mathlib.Tactic.Common

/-!
# What regular expressions match

`Regex.Matches` says which parts of a text an expression describes, from the expressions it is made of; the characters
on both sides of a part decide about its conditions. The matcher goes through a text character by character and keeps
what may be left of a match in progress. `Regex.exists_derive_iff` says that it keeps the right expressions, and
`Regex.isMatch_iff` that it finds a match if and only if some part of the text is described. The limits of repetitions
must be in order for that (`Regex.IsOrdered`).
-/

namespace ImportLint

/-- Which parts of texts something describes: the part itself and the characters on both sides of it, if there are
any. -/
abbrev Span := Option Char → List Char → Option Char → Prop

/-- The last character of a text that starts with `c`, whatever stands before it. -/
theorem getLast?_cons_or (c : Char) (cs : List Char) (before : Option Char) :
    (c :: cs).getLast?.or before = cs.getLast?.or (some c) := by
  rw [List.getLast?_cons]
  cases cs.getLast? <;> rfl

namespace Span

/-- No character, at any place. -/
def nothing : Span := fun _ w _ => w = []

/-- One part and right behind it another. -/
def seq (M N : Span) : Span := fun before w after =>
  ∃ u v, w = u ++ v ∧ M before u (v.head?.or after) ∧ N (u.getLast?.or before) v after

/-- A number of parts, one right behind the other. -/
def turns (M : Span) : Nat → Span
  | 0 => nothing
  | n + 1 => M.seq (turns M n)

variable {M N P : Span} {before after : Option Char} {c : Char} {w : List Char} {n k : Nat}

theorem nothing_seq : nothing.seq M before w after ↔ M before w after := by
  constructor
  · rintro ⟨u, v, rfl, rfl, h⟩
    exact h
  · exact fun h => ⟨[], w, rfl, rfl, h⟩

theorem seq_assoc : (M.seq N).seq P before w after ↔ M.seq (N.seq P) before w after := by
  constructor
  · rintro ⟨_, p, rfl, ⟨u, v, rfl, hu, hv⟩, hp⟩
    rw [List.getLast?_append, Option.or_assoc] at hp
    refine ⟨u, v ++ p, List.append_assoc .., ?_, v, p, rfl, hv, hp⟩
    rwa [List.head?_append, Option.or_assoc]
  · rintro ⟨u, _, rfl, hu, v, p, rfl, hv, hp⟩
    rw [List.head?_append, Option.or_assoc] at hu
    refine ⟨u ++ v, p, (List.append_assoc ..).symm, ⟨u, v, rfl, hu, hv⟩, ?_⟩
    rwa [List.getLast?_append, Option.or_assoc]

theorem seq_nil_iff : M.seq N before [] after ↔ M before [] after ∧ N before [] after := by
  constructor
  · rintro ⟨u, v, hnil, hu, hv⟩
    obtain ⟨rfl, rfl⟩ := List.append_eq_nil_iff.mp hnil.symm
    exact ⟨hu, hv⟩
  · rintro ⟨hu, hv⟩
    exact ⟨[], [], rfl, hu, hv⟩

/-- The first character belongs to the second part if the first one is empty, and to the first one else. -/
theorem seq_cons_iff :
    M.seq N before (c :: w) after ↔ (M before [] (some c) ∧ N before (c :: w) after) ∨
      ∃ u v, w = u ++ v ∧ M before (c :: u) (v.head?.or after) ∧ N (u.getLast?.or (some c)) v after := by
  constructor
  · rintro ⟨u, v, hw, hu, hv⟩
    cases u with
    | nil =>
      rw [List.nil_append] at hw
      subst hw
      exact Or.inl ⟨hu, hv⟩
    | cons d u =>
      obtain ⟨rfl, rfl⟩ := List.cons.inj hw
      rw [getLast?_cons_or] at hv
      exact Or.inr ⟨u, v, rfl, hu, hv⟩
  · rintro (⟨hu, hv⟩ | ⟨u, v, rfl, hu, hv⟩)
    · exact ⟨[], c :: w, rfl, hu, hv⟩
    · refine ⟨c :: u, v, rfl, hu, ?_⟩
      rwa [getLast?_cons_or]

theorem turns_nil (h : M before [] after) (n : Nat) : M.turns n before [] after := by
  induction n with
  | zero => rfl
  | succ n ih => exact seq_nil_iff.mpr ⟨h, ih⟩

/-- Empty turns can be put before others. -/
theorem turns_pad (hM : M before [] (w.head?.or after)) (h : M.turns n before w after) :
    M.turns (n + k) before w after := by
  induction k with
  | zero => exact h
  | succ k ih => exact ⟨[], w, rfl, hM, ih⟩

/-- Of the turns for a text that is not empty one takes the first character. The turns before it are empty. -/
theorem turns_cons (h : M.turns n before (c :: w) after) :
    ∃ k u v, k < n ∧ (k + 1 = n ∨ M before [] (some c)) ∧ w = u ++ v ∧ M before (c :: u) (v.head?.or after) ∧
      M.turns k (u.getLast?.or (some c)) v after := by
  induction n with
  | zero => cases h
  | succ n ih =>
    rcases seq_cons_iff.mp h with ⟨hM, h⟩ | ⟨u, v, rfl, hu, hv⟩
    · obtain ⟨k, u, v, hk, -, rfl, hu, hv⟩ := ih h
      exact ⟨k, u, v, Nat.lt_succ_of_lt hk, Or.inr hM, rfl, hu, hv⟩
    · exact ⟨n, u, v, Nat.lt_succ_self n, Or.inl rfl, rfl, hu, hv⟩

end Span

namespace Regex

/-- The parts of texts that an expression describes. -/
def Matches : Regex → Span
  | empty => .nothing
  | chars s => fun _ w _ => ∃ c, w = [c] ∧ s.has c = true
  | look l word => fun before w after => w = [] ∧ l.holds word.has before after = true
  | cat r s => r.Matches.seq s.Matches
  | alt r s => fun before w after => r.Matches before w after ∨ s.Matches before w after
  | rep r min max? => fun before w after =>
    ∃ n, min ≤ n ∧ (∀ max ∈ max?, n ≤ max) ∧ r.Matches.turns n before w after

/-- No repetition must have more turns than it may have. -/
def IsOrdered : Regex → Prop
  | cat r s => r.IsOrdered ∧ s.IsOrdered
  | alt r s => r.IsOrdered ∧ s.IsOrdered
  | rep r min max? => (∀ max ∈ max?, min ≤ max) ∧ r.IsOrdered
  | _ => True

variable {r s : Regex} {before after : Option Char} {c : Char} {w : List Char} {min : Nat} {max? : Option Nat}

/-! ## Empty matches -/

theorem nullable_iff (h : r.IsOrdered) : r.nullable before after = true ↔ r.Matches before [] after := by
  induction r with
  | empty => exact iff_of_true rfl rfl
  | chars s => exact iff_of_false Bool.false_ne_true nofun
  | look l word => exact ⟨fun h => ⟨rfl, h⟩, And.right⟩
  | cat r s ihr ihs => rw [nullable, Bool.and_eq_true, ihr h.1, ihs h.2, Matches, Span.seq_nil_iff]
  | alt r s ihr ihs => rw [nullable, Bool.or_eq_true, ihr h.1, ihs h.2, Matches]
  | rep r min max? ih =>
    rw [nullable, Bool.or_eq_true, beq_iff_eq, ih h.2]
    constructor
    · rintro (rfl | hr)
      · exact ⟨0, Nat.le_refl 0, fun _ _ => Nat.zero_le _, rfl⟩
      · exact ⟨min, Nat.le_refl min, h.1, Span.turns_nil hr min⟩
    · rintro ⟨n, hmin, -, hturns⟩
      cases n with
      | zero => exact Or.inl (Nat.le_zero.mp hmin)
      | succ n => exact Or.inr (Span.seq_nil_iff.mp hturns).1

/-! ## What is left behind a character -/

theorem seq_matches_iff : (r.seq s).Matches before w after ↔ r.Matches.seq s.Matches before w after := by
  induction r generalizing before w after with
  | empty => exact Span.nothing_seq.symm
  | cat r t _ iht =>
    have htail : (t.seq s).Matches = t.Matches.seq s.Matches := by
      funext before w after
      exact propext iht
    rw [seq, Matches, Matches, htail]
    exact Span.seq_assoc.symm
  | _ => rfl

theorem seq_isOrdered (hr : r.IsOrdered) (hs : s.IsOrdered) : (r.seq s).IsOrdered := by
  induction r with
  | empty => exact hs
  | cat r t _ iht => exact ⟨hr.1, iht hr.2⟩
  | _ => exact ⟨hr, hs⟩

/-- A repetition whose turns are used up describes nothing but the empty part. -/
theorem times_matches_iff (h : ∀ max ∈ max?, min ≤ max) :
    (times r min max?).Matches before w after ↔ (rep r min max?).Matches before w after := by
  unfold times
  split_ifs with hmax
  · subst hmax
    constructor
    · rintro rfl
      exact ⟨0, h 0 rfl, fun _ _ => Nat.zero_le _, rfl⟩
    · rintro ⟨n, -, hn, hturns⟩
      obtain rfl := Nat.le_zero.mp (hn 0 rfl)
      exact hturns
  · rfl

theorem times_isOrdered (h : ∀ max ∈ max?, min ≤ max) (hr : r.IsOrdered) : (times r min max?).IsOrdered := by
  unfold times
  split_ifs
  · trivial
  · exact ⟨h, hr⟩

/-- What is left of expressions, each with `s` behind it. -/
theorem exists_map_seq_iff {ds : List Regex} :
    (∃ d ∈ ds.map (·.seq s), d.Matches before w after) ↔
      ∃ u v, w = u ++ v ∧ (∃ d ∈ ds, d.Matches before u (v.head?.or after)) ∧ s.Matches (u.getLast?.or before) v after := by
  simp only [List.mem_map, exists_exists_and_eq_and, seq_matches_iff, Span.seq]
  constructor
  · rintro ⟨d, hd, u, v, hw, hu, hv⟩
    exact ⟨u, v, hw, ⟨d, hd, hu⟩, hv⟩
  · rintro ⟨u, v, hw, ⟨d, hd, hu⟩, hv⟩
    exact ⟨d, hd, u, v, hw, hu, hv⟩

/-- The turns that are due behind the turn that takes a character: none of them if empty turns can make up for them. -/
def due (r : Regex) (before : Option Char) (c : Char) (min : Nat) : Nat :=
  if r.nullable before (some c) then 0 else min - 1

theorem derive_rep (hmax : max? ≠ some 0) :
    (rep r min max?).derive before c =
      (r.derive before c).map (·.seq (times r (r.due before c min) (max?.map (· - 1)))) := by
  rw [derive, if_neg hmax]
  rfl

theorem due_le (r : Regex) (before : Option Char) (c : Char) (min : Nat) : r.due before c min ≤ min - 1 := by
  unfold due
  split_ifs <;> omega

theorem due_le_max (h : ∀ max ∈ max?, min ≤ max) : ∀ max ∈ max?.map (· - 1), r.due before c min ≤ max := by
  intro max hmax
  obtain ⟨m, hm, rfl⟩ := Option.map_eq_some_iff.mp hmax
  have hle := h m hm
  have hdue := r.due_le before c min
  omega

/-- A repetition describes a text that starts with a character if one turn takes that character and as many turns follow
as are due. -/
theorem rep_matches_cons_iff (hr : r.IsOrdered) (h : ∀ max ∈ max?, min ≤ max) (hmax : max? ≠ some 0) :
    (rep r min max?).Matches before (c :: w) after ↔
      ∃ u v, w = u ++ v ∧ r.Matches before (c :: u) (v.head?.or after) ∧
        (rep r (r.due before c min) (max?.map (· - 1))).Matches (u.getLast?.or (some c)) v after := by
  constructor
  · rintro ⟨n, hmin, hn, hturns⟩
    obtain ⟨k, u, v, hk, hempty, rfl, hu, hv⟩ := Span.turns_cons hturns
    refine ⟨u, v, rfl, hu, k, ?_, ?_, hv⟩
    · rcases hempty with hkn | hempty
      · have hdue := r.due_le before c min
        omega
      · rw [due, if_pos ((nullable_iff hr).mpr hempty)]
        exact Nat.zero_le k
    · intro max hmax
      obtain ⟨m, hm, rfl⟩ := Option.map_eq_some_iff.mp hmax
      have hnm := hn m hm
      omega
  · rintro ⟨u, v, rfl, hu, n, hdue, hn, hv⟩
    have hturns : r.Matches.turns (n + 1) before (c :: (u ++ v)) after := by
      refine ⟨c :: u, v, rfl, hu, ?_⟩
      rwa [getLast?_cons_or]
    have hsucc : ∀ max ∈ max?, n + 1 ≤ max := by
      intro max hmem
      have hne : max ≠ 0 := by
        rintro rfl
        exact hmax hmem
      have hle := hn (max - 1) (Option.map_eq_some_iff.mpr ⟨max, hmem, rfl⟩)
      omega
    by_cases hnull : r.nullable before (some c) = true
    · -- turns that are missing can be empty ones before the one that takes the character
      have hempty := (nullable_iff hr).mp hnull
      refine ⟨n + 1 + (min - (n + 1)), by omega, fun max hmem => ?_, Span.turns_pad hempty hturns⟩
      have hle := h max hmem
      have hlt := hsucc max hmem
      omega
    · rw [due, if_neg hnull] at hdue
      exact ⟨n + 1, by omega, hsucc, hturns⟩

/-- What is left behind a character describes what follows it if and only if the expression describes both. -/
theorem exists_derive_iff (h : r.IsOrdered) :
    (∃ d ∈ r.derive before c, d.Matches (some c) w after) ↔ r.Matches before (c :: w) after := by
  induction r generalizing w after with
  | empty => simp [derive, Matches, Span.nothing]
  | chars s => by_cases hc : s.has c = true <;> simp [derive, Matches, Span.nothing, hc]
  | look l word => simp [derive, Matches]
  | alt r s ihr ihs => simp only [derive, List.mem_append, or_and_right, exists_or, ihr h.1, ihs h.2, Matches]
  | cat r s ihr ihs =>
    simp only [derive, List.mem_append, or_and_right, exists_or, exists_map_seq_iff, ihr h.1]
    rw [Matches, Span.seq_cons_iff, or_comm]
    refine or_congr ?_ Iff.rfl
    rw [← nullable_iff h.1]
    split_ifs with hnull
    · rw [ihs h.2]
      exact ⟨fun hs => ⟨hnull, hs⟩, And.right⟩
    · exact iff_of_false (by simp) fun hs => hnull hs.1
  | rep r min max? ih =>
    by_cases hmax : max? = some 0
    · subst hmax
      refine iff_of_false (by simp [derive]) ?_
      rintro ⟨n, -, hn, hturns⟩
      obtain rfl := Nat.le_zero.mp (hn 0 rfl)
      cases hturns
    · rw [derive_rep hmax, exists_map_seq_iff, rep_matches_cons_iff h.2 h.1 hmax]
      simp only [ih h.2, times_matches_iff (due_le_max h.1)]

theorem derive_isOrdered (h : r.IsOrdered) : ∀ d ∈ r.derive before c, d.IsOrdered := by
  induction r with
  | empty | look => simp [derive]
  | chars s =>
    intro d hd
    by_cases hc : s.has c = true
    · rw [derive, if_pos hc, List.mem_singleton] at hd
      subst hd
      trivial
    · simp [derive, hc] at hd
  | alt r s ihr ihs =>
    intro d hd
    rcases List.mem_append.mp hd with hd | hd
    · exact ihr h.1 d hd
    · exact ihs h.2 d hd
  | cat r s ihr ihs =>
    intro d hd
    rcases List.mem_append.mp hd with hd | hd
    · obtain ⟨e, he, rfl⟩ := List.mem_map.mp hd
      exact seq_isOrdered (ihr h.1 e he) h.2
    · split_ifs at hd
      · exact ihs h.2 d hd
      · cases hd
  | rep r min max? ih =>
    intro d hd
    by_cases hmax : max? = some 0
    · simp [derive, hmax] at hd
    · rw [derive_rep hmax] at hd
      obtain ⟨e, he, rfl⟩ := List.mem_map.mp hd
      exact seq_isOrdered (ih h.2 e he) (times_isOrdered (due_le_max h.1) h.2)

/-! ## Searching -/

theorem mem_addNew {rs : List Regex} {d : Regex} : d ∈ addNew rs r ↔ d = r ∨ d ∈ rs := by
  unfold addNew
  split_ifs with hr
  · exact ⟨Or.inr, fun h => h.elim (fun h => h ▸ hr) id⟩
  · exact List.mem_cons

theorem mem_foldl_addNew {rs ds : List Regex} {d : Regex} : d ∈ ds.foldl addNew rs ↔ d ∈ ds ∨ d ∈ rs := by
  induction ds generalizing rs with
  | nil => simp
  | cons e ds ih => rw [List.foldl_cons, ih, mem_addNew, List.mem_cons, or_assoc, or_left_comm]

theorem mem_step {rs : List Regex} {d : Regex} : d ∈ step before c rs ↔ ∃ r ∈ rs, d ∈ r.derive before c := by
  rw [step, mem_foldl_addNew, List.mem_flatMap]
  simp

/-- The expression describes a part of the text that starts here. -/
def MatchesHere (r : Regex) (before : Option Char) (cs : List Char) : Prop :=
  ∃ u v, cs = u ++ v ∧ r.Matches before u v.head?

/-- The expression describes a part of the text that starts here or later. -/
def Occurs (r : Regex) (before : Option Char) (cs : List Char) : Prop :=
  ∃ passed u v, cs = passed ++ u ++ v ∧ r.Matches (passed.getLast?.or before) u v.head?

theorem matchesHere_nil (h : r.IsOrdered) : r.MatchesHere before [] ↔ r.nullable before none = true := by
  rw [nullable_iff h]
  constructor
  · rintro ⟨u, v, hnil, hr⟩
    obtain ⟨rfl, rfl⟩ := List.append_eq_nil_iff.mp hnil.symm
    exact hr
  · exact fun hr => ⟨[], [], rfl, hr⟩

theorem matchesHere_cons (h : r.IsOrdered) {cs : List Char} :
    r.MatchesHere before (c :: cs) ↔
      r.nullable before (some c) = true ∨ ∃ d ∈ r.derive before c, d.MatchesHere (some c) cs := by
  rw [nullable_iff h]
  constructor
  · rintro ⟨u, v, hcs, hr⟩
    cases u with
    | nil =>
      rw [List.nil_append] at hcs
      subst hcs
      exact Or.inl hr
    | cons d u =>
      obtain ⟨rfl, rfl⟩ := List.cons.inj hcs
      obtain ⟨d, hd, hmatch⟩ := (exists_derive_iff h).mpr hr
      exact Or.inr ⟨d, hd, u, v, rfl, hmatch⟩
  · rintro (hr | ⟨d, hd, u, v, rfl, hmatch⟩)
    · exact ⟨[], c :: cs, rfl, hr⟩
    · exact ⟨c :: u, v, rfl, (exists_derive_iff h).mp ⟨d, hd, hmatch⟩⟩

theorem occurs_nil : r.Occurs before [] ↔ r.MatchesHere before [] := by
  constructor
  · rintro ⟨passed, u, v, hnil, hr⟩
    obtain ⟨hu, rfl⟩ := List.append_eq_nil_iff.mp hnil.symm
    obtain ⟨rfl, rfl⟩ := List.append_eq_nil_iff.mp hu
    exact ⟨[], [], rfl, hr⟩
  · rintro ⟨u, v, hnil, hr⟩
    exact ⟨[], u, v, hnil, hr⟩

theorem occurs_cons {cs : List Char} :
    r.Occurs before (c :: cs) ↔ r.MatchesHere before (c :: cs) ∨ r.Occurs (some c) cs := by
  constructor
  · rintro ⟨passed, u, v, hcs, hr⟩
    cases passed with
    | nil => exact Or.inl ⟨u, v, hcs, hr⟩
    | cons d passed =>
      obtain ⟨rfl, rfl⟩ := List.cons.inj hcs
      rw [getLast?_cons_or] at hr
      exact Or.inr ⟨passed, u, v, rfl, hr⟩
  · rintro (⟨u, v, hcs, hr⟩ | ⟨passed, u, v, rfl, hr⟩)
    · exact ⟨[], u, v, hcs, hr⟩
    · refine ⟨c :: passed, u, v, rfl, ?_⟩
      rwa [getLast?_cons_or]

theorem exists_addNew_iff {rs : List Regex} {p : Regex → Prop} : (∃ d ∈ addNew rs r, p d) ↔ (∃ d ∈ rs, p d) ∨ p r := by
  simp only [mem_addNew, or_and_right, exists_or, exists_eq_left]
  exact or_comm

theorem addNew_isOrdered {rs : List Regex} (hr : r.IsOrdered) (hrs : ∀ d ∈ rs, d.IsOrdered) :
    ∀ d ∈ addNew rs r, d.IsOrdered := by
  intro d hd
  rcases mem_addNew.mp hd with rfl | hd
  · exact hr
  · exact hrs d hd

theorem step_isOrdered {rs : List Regex} (h : ∀ d ∈ rs, d.IsOrdered) : ∀ d ∈ step before c rs, d.IsOrdered := by
  intro d hd
  obtain ⟨e, he, hd⟩ := mem_step.mp hd
  exact derive_isOrdered (h e he) d hd

/-- A step keeps what may be left of the matches in progress. -/
theorem exists_matchesHere_cons {rs : List Regex} (h : ∀ d ∈ rs, d.IsOrdered) {cs : List Char} :
    (∃ d ∈ rs, d.MatchesHere before (c :: cs)) ↔
      (∃ d ∈ rs, d.nullable before (some c) = true) ∨ ∃ d ∈ step before c rs, d.MatchesHere (some c) cs := by
  simp only [mem_step]
  constructor
  · rintro ⟨d, hd, hmatch⟩
    rcases (matchesHere_cons (h d hd)).mp hmatch with hnull | ⟨e, he, hmatch⟩
    · exact Or.inl ⟨d, hd, hnull⟩
    · exact Or.inr ⟨e, ⟨d, hd, he⟩, hmatch⟩
  · rintro (⟨d, hd, hnull⟩ | ⟨e, ⟨d, hd, he⟩, hmatch⟩)
    · exact ⟨d, hd, (matchesHere_cons (h d hd)).mpr (Or.inl hnull)⟩
    · exact ⟨d, hd, (matchesHere_cons (h d hd)).mpr (Or.inr ⟨e, he, hmatch⟩)⟩

/-- A search succeeds if and only if a match in progress can be ended or a new one is found. -/
theorem search_iff (hr : r.IsOrdered) {rs : List Regex} (hrs : ∀ d ∈ rs, d.IsOrdered) (cs : List Char) :
    r.search before rs cs = true ↔ (∃ d ∈ rs, d.MatchesHere before cs) ∨ r.Occurs before cs := by
  induction cs generalizing before rs with
  | nil =>
    have hall := addNew_isOrdered hr hrs
    rw [search, List.any_eq_true, occurs_nil, ← exists_addNew_iff]
    exact exists_congr fun d => and_congr_right fun hd => (matchesHere_nil (hall d hd)).symm
  | cons c cs ih =>
    have hall := addNew_isOrdered hr hrs
    rw [search, Bool.or_eq_true, List.any_eq_true, ih (step_isOrdered hall), occurs_cons, ← or_assoc,
      ← exists_matchesHere_cons hall, exists_addNew_iff, or_assoc]

/-- An expression matches a text if and only if it describes some part of it. -/
theorem isMatch_iff (hr : r.IsOrdered) (text : String) :
    r.isMatch text = true ↔
      ∃ before within behind, text.toList = before ++ within ++ behind ∧
        r.Matches before.getLast? within behind.head? := by
  rw [isMatch, search_iff hr (List.forall_mem_nil _)]
  simp [Occurs]

end Regex

end ImportLint
