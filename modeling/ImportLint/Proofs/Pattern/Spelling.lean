import ImportLint.Proofs.Pattern.Limits

/-!
# Patterns that spell out texts

Many patterns describe a few texts only, each of them anywhere, at the start or at the end of an id. `Regex.spellings?`
lists these texts, and such a pattern matches an id if and only if one of them is where it has to be
(`PathPattern.isMatch_iff_of_spellings`).
-/

namespace ImportLint

/-- A text to be found, and whether it must be found at the start or at the end. -/
structure Spelling where
  atStart : Bool
  text : List Char
  atEnd : Bool
  deriving DecidableEq, Repr

namespace Spelling

/-- The part of a text is the one to be found, at a place where it may be. -/
def Describes (x : Spelling) : Span := fun before w after =>
  w = x.text ∧ (x.atStart = true → before = none) ∧ (x.atEnd = true → after = none)

/-- The text is found in another one. -/
def OccursIn (x : Spelling) (cs : List Char) : Prop :=
  ∃ before behind, cs = before ++ x.text ++ behind ∧ (x.atStart = true → before = []) ∧ (x.atEnd = true → behind = [])

/-- One text and right behind it another. -/
def append (x y : Spelling) : Spelling := ⟨x.atStart, x.text ++ y.text, y.atEnd⟩

variable {text cs : List Char}

theorem occursIn_start_iff : (Spelling.mk true text false).OccursIn cs ↔ text <+: cs := by
  constructor
  · rintro ⟨before, behind, rfl, hstart, -⟩
    rw [hstart rfl]
    exact List.prefix_append _ _
  · rintro ⟨behind, rfl⟩
    exact ⟨[], behind, rfl, fun _ => rfl, nofun⟩

theorem occursIn_end_iff : (Spelling.mk false text true).OccursIn cs ↔ text <:+ cs := by
  constructor
  · rintro ⟨before, behind, rfl, -, hend⟩
    rw [hend rfl, List.append_nil]
    exact List.suffix_append _ _
  · rintro ⟨before, rfl⟩
    exact ⟨before, [], (List.append_nil _).symm, nofun, fun _ => rfl⟩

end Spelling

namespace Regex

/-- The texts that an expression describes, if it spells them out. Anchors must be at the ends. -/
def spellings? : Regex → Option (List Spelling)
  | empty => some [⟨false, [], false⟩]
  | chars (.range lo hi) => if lo = hi then some [⟨false, [lo], false⟩] else none
  | look .textStart _ => some [⟨true, [], false⟩]
  | look .textEnd _ => some [⟨false, [], true⟩]
  | cat r s => do
    let xs ← r.spellings?
    let ys ← s.spellings?
    if xs.any Spelling.atEnd || ys.any Spelling.atStart then none
    else some (xs.flatMap fun x => ys.map x.append)
  | alt r s => do
    let xs ← r.spellings?
    let ys ← s.spellings?
    some (xs ++ ys)
  | _ => none

variable {r s : Regex} {before after : Option Char} {w : List Char} {xs ys : List Spelling}

/-- Texts without an anchor between them are put together. -/
theorem exists_append_iff (hends : xs.any Spelling.atEnd = false) (hstarts : ys.any Spelling.atStart = false) :
    (∃ u v, w = u ++ v ∧ (∃ x ∈ xs, x.Describes before u (v.head?.or after)) ∧
        ∃ y ∈ ys, y.Describes (u.getLast?.or before) v after) ↔
      ∃ z ∈ xs.flatMap fun x => ys.map x.append, z.Describes before w after := by
  rw [List.any_eq_false] at hends hstarts
  constructor
  · rintro ⟨_, _, rfl, ⟨x, hx, rfl, hstart, -⟩, y, hy, rfl, -, hend⟩
    exact ⟨x.append y, List.mem_flatMap.mpr ⟨x, hx, List.mem_map_of_mem hy⟩, rfl, hstart, hend⟩
  · rintro ⟨z, hz, rfl, hstart, hend⟩
    obtain ⟨x, hx, hz⟩ := List.mem_flatMap.mp hz
    obtain ⟨y, hy, rfl⟩ := List.mem_map.mp hz
    exact ⟨x.text, y.text, rfl, ⟨x, hx, rfl, hstart, fun h => absurd h (hends x hx)⟩, y, hy, rfl,
      fun h => absurd h (hstarts y hy), hend⟩

/-- An expression describes what it spells out, and nothing else. -/
theorem matches_iff_of_spellings (h : r.spellings? = some xs) :
    r.Matches before w after ↔ ∃ x ∈ xs, x.Describes before w after := by
  induction r generalizing before w after xs with
  | empty =>
    cases h
    simp [Matches, Span.nothing, Spelling.Describes]
  | chars s =>
    cases s with
    | range lo hi =>
      rw [spellings?] at h
      split_ifs at h with hlo
      cases h
      subst hlo
      have hsingle : ∀ c, (CharSet.range lo lo).has c = true ↔ c = lo := fun c => CharSet.has_single_iff
      simp [Matches, hsingle, Spelling.Describes]
    | _ => cases h
  | look l word =>
    cases l with
    | textStart =>
      cases h
      simp [Matches, Look.holds, Spelling.Describes]
    | textEnd =>
      cases h
      simp [Matches, Look.holds, Spelling.Describes]
    | _ => cases h
  | cat r s ihr ihs =>
    obtain ⟨xs', hxs, h⟩ := Option.bind_eq_some_iff.mp h
    obtain ⟨ys', hys, h⟩ := Option.bind_eq_some_iff.mp h
    split_ifs at h with hanchors
    cases h
    rw [Bool.or_eq_true, not_or, Bool.not_eq_true, Bool.not_eq_true] at hanchors
    rw [← exists_append_iff hanchors.1 hanchors.2]
    simp only [Matches, Span.seq, ihr hxs, ihs hys]
  | alt r s ihr ihs =>
    obtain ⟨xs', hxs, h⟩ := Option.bind_eq_some_iff.mp h
    obtain ⟨ys', hys, h⟩ := Option.bind_eq_some_iff.mp h
    cases h
    simp only [Matches, ihr hxs, ihs hys, List.mem_append, or_and_right, exists_or]
  | rep r min max? => cases h

end Regex

/-- A pattern that spells out texts matches an id if and only if one of them is found in it. -/
theorem PathPattern.isMatch_iff_of_spellings {p : PathPattern} {xs : List Spelling}
    (h : (Regex.parse p.text).bind Regex.spellings? = some xs) (id : String) :
    p.isMatch id = true ↔ ∃ x ∈ xs, x.OccursIn id.toList := by
  obtain ⟨r, hr, hspelt⟩ := Option.bind_eq_some_iff.mp h
  simp only [isMatch_iff hr, Regex.matches_iff_of_spellings hspelt]
  constructor
  · rintro ⟨before, _, behind, hid, x, hx, rfl, hstart, hend⟩
    exact ⟨x, hx, before, behind, hid, fun h => List.getLast?_eq_none_iff.mp (hstart h),
      fun h => List.head?_eq_none_iff.mp (hend h)⟩
  · rintro ⟨x, hx, before, behind, hid, hstart, hend⟩
    exact ⟨before, x.text, behind, hid, x, hx, rfl, fun h => List.getLast?_eq_none_iff.mpr (hstart h),
      fun h => List.head?_eq_none_iff.mpr (hend h)⟩

end ImportLint
