import ImportLint.Proofs.Pattern.Matching
import ImportLint.Rule.Pattern

/-!
# The limits of repetitions

A pattern is refused if it asks for more turns of a repetition than it allows, so the limits of every repetition are in
order in the expression that a pattern stands for (`Regex.parse_isOrdered`). Hence a path pattern matches an id if and
only if it describes some part of it (`PathPattern.isMatch_iff`).
-/

namespace ImportLint

namespace Regex

theorem seqAll_isOrdered {rs : List Regex} (h : ∀ r ∈ rs, r.IsOrdered) : (seqAll rs).IsOrdered := by
  induction rs with
  | nil => trivial
  | cons r rs ih =>
    obtain ⟨hr, hrs⟩ := List.forall_mem_cons.mp h
    cases rs with
    | nil => exact hr
    | cons s rs => exact seq_isOrdered hr (ih hrs)

theorem altAll_isOrdered {rs : List Regex} (h : ∀ r ∈ rs, r.IsOrdered) : (altAll rs).IsOrdered := by
  induction rs with
  | nil => trivial
  | cons r rs ih =>
    obtain ⟨hr, hrs⟩ := List.forall_mem_cons.mp h
    cases rs with
    | nil => exact hr
    | cons s rs => exact ⟨hr, ih hrs⟩

end Regex

namespace Pattern

/-! ## Pieces and levels -/

/-- The limits of all repetitions are in order. -/
def Piece.IsOrdered (x : Piece) : Prop := x.regex.IsOrdered

theorem Piece.ofSequence_isOrdered {ps : List Piece} (h : ∀ x ∈ ps, x.IsOrdered) : (ofSequence ps).IsOrdered := by
  refine Regex.seqAll_isOrdered fun r hr => ?_
  obtain ⟨x, hx, rfl⟩ := List.mem_map.mp hr
  exact h x (List.mem_reverse.mp hx)

theorem Piece.ofAlternatives_isOrdered {ps : List Piece} (h : ∀ x ∈ ps, x.IsOrdered) :
    (ofAlternatives ps).IsOrdered := by
  refine Regex.altAll_isOrdered fun r hr => ?_
  obtain ⟨x, hx, rfl⟩ := List.mem_map.mp hr
  exact h x (List.mem_reverse.mp hx)

namespace Level

/-- The limits of all repetitions on the level are in order. -/
structure IsOrdered (l : Level) : Prop where
  alternatives : ∀ x ∈ l.alternatives, x.IsOrdered
  pieces : ∀ x ∈ l.pieces, x.IsOrdered

theorem empty_isOrdered : empty.IsOrdered := ⟨List.forall_mem_nil _, List.forall_mem_nil _⟩

variable {l : Level} {x : Piece}

theorem IsOrdered.add (h : l.IsOrdered) (hx : x.IsOrdered) : (l.add x).IsOrdered :=
  ⟨h.alternatives, List.forall_mem_cons.mpr ⟨hx, h.pieces⟩⟩

theorem IsOrdered.next (h : l.IsOrdered) : l.next.IsOrdered :=
  ⟨List.forall_mem_cons.mpr ⟨Piece.ofSequence_isOrdered h.pieces, h.alternatives⟩, List.forall_mem_nil _⟩

theorem IsOrdered.piece (h : l.IsOrdered) : l.piece.IsOrdered := Piece.ofAlternatives_isOrdered h.next.alternatives

end Level

namespace Place

/-! ## Places -/

/-- The limits of all repetitions read so far are in order. -/
structure IsOrdered (p : Place) : Prop where
  level : p.level.IsOrdered
  outer : ∀ x ∈ p.outer, x.level.IsOrdered

theorem start_isOrdered : start.IsOrdered := ⟨Level.empty_isOrdered, List.forall_mem_nil _⟩

variable {p q : Place}

theorem IsOrdered.add (h : p.IsOrdered) {x : Piece} (hx : x.IsOrdered) : (p.add x).IsOrdered :=
  ⟨h.level.add hx, h.outer⟩

theorem IsOrdered.addAtom (h : p.IsOrdered) (a : Atom) : (p.addAtom a).IsOrdered := by
  cases a with
  | char c => exact h.add trivial
  | set s => exact h.add trivial
  | look l => exact h.add trivial

theorem IsOrdered.openGroup (h : p.IsOrdered) (flags : Flags) : (p.openGroup flags).IsOrdered :=
  ⟨Level.empty_isOrdered, List.forall_mem_cons.mpr ⟨h.level, h.outer⟩⟩

theorem IsOrdered.openCapture (h : p.IsOrdered) : p.openCapture.IsOrdered :=
  ⟨Level.empty_isOrdered, List.forall_mem_cons.mpr ⟨h.level, h.outer⟩⟩

theorem IsOrdered.setFlags (h : p.IsOrdered) (flags : Flags) : (p.setFlags flags).IsOrdered :=
  ⟨⟨h.level.alternatives, List.forall_mem_cons.mpr ⟨trivial, h.level.pieces⟩⟩, h.outer⟩

theorem IsOrdered.closeGroup (h : p.IsOrdered) (hq : p.closeGroup = some q) : q.IsOrdered := by
  obtain ⟨flags, names, captures, level, outer⟩ := p
  cases outer with
  | nil => cases hq
  | cons x outer =>
    cases hq
    obtain ⟨hx, houter⟩ := List.forall_mem_cons.mp h.outer
    exact ⟨hx.add h.level.piece, houter⟩

theorem IsOrdered.repeatLast (h : p.IsOrdered) {min : Nat} {max? : Option Nat} {marked : Bool}
    (hlimits : ∀ max ∈ max?, min ≤ max) (hq : p.repeatLast min max? marked = some q) : q.IsOrdered := by
  unfold Place.repeatLast at hq
  split at hq
  · next x pieces hpieces =>
    split_ifs at hq
    cases hq
    have hall := h.level.pieces
    rw [hpieces] at hall
    obtain ⟨hx, hothers⟩ := List.forall_mem_cons.mp hall
    exact ⟨⟨h.level.alternatives, List.forall_mem_cons.mpr ⟨Regex.times_isOrdered hlimits hx, hothers⟩⟩, h.outer⟩
  · cases hq

end Place

/-! ## Reading -/

variable {p q : Place} {cs rest : List Char}

theorem openNamed_isOrdered (h : p.IsOrdered) (hq : openNamed p cs = some (q, rest)) : q.IsOrdered := by
  unfold openNamed at hq
  dsimp only at hq
  split at hq
  · split_ifs at hq
    cases hq
    exact ⟨Level.empty_isOrdered, List.forall_mem_cons.mpr ⟨h.level, h.outer⟩⟩
  · cases hq

theorem openParenthesis_isOrdered (h : p.IsOrdered) (hq : openParenthesis p cs = some (q, rest)) : q.IsOrdered := by
  unfold openParenthesis at hq
  split at hq
  · cases hq
  · cases hq
  · cases hq
  · cases hq
  · exact openNamed_isOrdered h hq
  · exact openNamed_isOrdered h hq
  · obtain ⟨⟨flags, given, c, tail⟩, -, hq⟩ := Option.bind_eq_some_iff.mp hq
    dsimp only at hq
    split_ifs at hq
    · cases hq
      exact h.openGroup flags
    · cases hq
      exact h.setFlags flags
  · cases hq
    exact h.openCapture

/-- Limits are only read if they are in order. -/
theorem readLimits_le {f : Flags} {min : Nat} {max? : Option Nat} (h : readLimits f cs = some (min, max?, rest)) :
    ∀ max ∈ max?, min ≤ max := by
  unfold readLimits at h
  obtain ⟨⟨min?, tail⟩, -, h⟩ := Option.bind_eq_some_iff.mp h
  obtain ⟨n, -, h⟩ := Option.bind_eq_some_iff.mp h
  split at h
  · split at h
    · cases h
      simp
    · obtain ⟨⟨max?, tail⟩, -, h⟩ := Option.bind_eq_some_iff.mp h
      obtain ⟨m, -, h⟩ := Option.bind_eq_some_iff.mp h
      split at h
      · split_ifs at h with hle
        cases h
        simpa using hle
      · cases h
  · cases h
    simp
  · cases h

theorem isOrdered_of_map {α : Type} {a? : Option α} {f : α → Place × List Char}
    (hf : ∀ a, a? = some a → (f a).1.IsOrdered) (hq : a?.map f = some (q, rest)) : q.IsOrdered := by
  obtain ⟨a, ha, hfa⟩ := Option.map_eq_some_iff.mp hq
  have hordered := hf a ha
  rwa [hfa] at hordered

theorem repeatMarked_isOrdered (h : p.IsOrdered) {min : Nat} {max? : Option Nat} (hlimits : ∀ max ∈ max?, min ≤ max)
    (hq : p.repeatMarked min max? cs = some (q, rest)) : q.IsOrdered :=
  isOrdered_of_map (fun _ => h.repeatLast hlimits) hq

/-- One part of a pattern leaves the limits in order. -/
theorem readPart_isOrdered (h : p.IsOrdered) {c : Char} (hq : readPart p c cs = some (q, rest)) : q.IsOrdered := by
  unfold readPart at hq
  split at hq
  · exact openParenthesis_isOrdered h hq
  · exact isOrdered_of_map (fun _ => h.closeGroup) hq
  · cases hq
    exact ⟨h.level.next, h.outer⟩
  · refine isOrdered_of_map (fun _ _ => ?_) hq
    exact h.add trivial
  -- repetitions: the limits of the first three are fixed
  · exact repeatMarked_isOrdered h (by simp) hq
  · exact repeatMarked_isOrdered h (by simp) hq
  · exact repeatMarked_isOrdered h (by simp) hq
  · obtain ⟨⟨min, max?, tail⟩, hlimits, hq⟩ := Option.bind_eq_some_iff.mp hq
    exact repeatMarked_isOrdered h (readLimits_le hlimits) hq
  · exact isOrdered_of_map (fun x _ => h.addAtom x.1) hq
  · refine isOrdered_of_map (fun _ _ => ?_) hq
    exact h.add trivial
  · cases hq
    exact h.add trivial
  · cases hq
    exact h.add trivial
  · cases hq
    exact h.add trivial

theorem readPattern_isOrdered {fuel : Nat} (h : p.IsOrdered) (hq : readPattern fuel p cs = some q) : q.IsOrdered := by
  induction fuel generalizing p cs with
  | zero => cases hq
  | succ fuel ih =>
    rw [readPattern] at hq
    split at hq
    · cases hq
      exact h
    · obtain ⟨⟨p', rest⟩, hpart, hq⟩ := Option.bind_eq_some_iff.mp hq
      exact ih (readPart_isOrdered h hpart) hq

end Pattern

/-- In the expression that a pattern stands for, the limits of every repetition are in order. -/
theorem Regex.parse_isOrdered {text : String} {r : Regex} (h : parse text = some r) : r.IsOrdered := by
  obtain ⟨p, hp, h⟩ := Option.bind_eq_some_iff.mp h
  dsimp only at h
  split_ifs at h
  cases h
  exact (Pattern.readPattern_isOrdered Pattern.Place.start_isOrdered hp).level.piece

/-- A path pattern matches an id if and only if its expression describes some part of the id. -/
theorem PathPattern.isMatch_iff {p : PathPattern} {r : Regex} (h : Regex.parse p.text = some r) (id : String) :
    p.isMatch id = true ↔
      ∃ before within behind, id.toList = before ++ within ++ behind ∧
        r.Matches before.getLast? within behind.head? := by
  have haccepts : some r.isMatch = some p.accepts := by
    rw [← p.reads]
    exact (congrArg (Option.map Regex.isMatch) h).symm
  rw [isMatch, ← Option.some.inj haccepts]
  exact Regex.isMatch_iff (Regex.parse_isOrdered h) id

end ImportLint
