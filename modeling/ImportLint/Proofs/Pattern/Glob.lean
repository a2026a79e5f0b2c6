import ImportLint.Rule.Pattern
import Mathlib.Data.List.Basic
import Mathlib.Tactic.Common

/-!
# What globs match

`Glob.Matches` says which texts a glob describes, part by part. A glob is matched row by row, one truth value for each
suffix of the text, and the rows tell just that (`Glob.accepts_iff`). A pattern that ends in `/**` behind a plain
directory can be read and describes what lies below that directory, at any depth (`GlobPattern.isMatch_directory`).
-/

namespace ImportLint

namespace Glob

/-- A glob describes a text. -/
inductive Matches : Glob → List Char → Prop
  | nil : Matches [] []
  | one {s : CharSet} {g : Glob} {c : Char} {cs : List Char} (hc : s.has c = true) (h : Matches g cs) :
      Matches (.one s :: g) (c :: cs)
  | sequence {g : Glob} (skipped : List Char) {cs : List Char} (h : Matches g cs) :
      Matches (.sequence :: g) (skipped ++ cs)
  /-- No component is skipped. -/
  | here {g : Glob} {cs : List Char} (h : Matches g cs) : Matches (.components :: g) cs
  /-- Some components are skipped, each with the slash behind it. -/
  | behind {g : Glob} (skipped : List Char) {cs : List Char} (h : Matches g cs) :
      Matches (.components :: g) (skipped ++ '/' :: cs)
  /-- All components that are left are skipped. -/
  | rest {g : Glob} (cs : List Char) (h : Matches g []) : Matches (.components :: g) cs

variable {g : Glob} {s : CharSet} {cs : List Char} {c : Char}

/-! ## Rows -/

/-- A row tells of which suffixes of a text something holds, the text itself first. -/
inductive Tells (P : List Char → Prop) : List Char → List Bool → Prop
  | nil {b : Bool} (h : b = true ↔ P []) : Tells P [] [b]
  | cons {c : Char} {cs : List Char} {b : Bool} {row : List Bool} (h : b = true ↔ P (c :: cs)) (hrow : Tells P cs row) :
      Tells P (c :: cs) (b :: row)

theorem Tells.headD_iff {P : List Char → Prop} {row : List Bool} (h : Tells P cs row) :
    row.headD false = true ↔ P cs := by
  cases h with
  | nil h => exact h
  | cons h _ => exact h

theorem lastRow_tells (cs : List Char) : Tells (Matches []) cs (lastRow cs) := by
  induction cs with
  | nil => exact .nil (iff_of_true rfl .nil)
  | cons c cs ih => exact .cons (iff_of_false Bool.false_ne_true nofun) ih

theorem setRow_tells {next : List Bool} (h : Tells (Matches g) cs next) :
    Tells (Matches (.one s :: g)) cs (setRow s cs next) := by
  induction h with
  | nil _ => exact .nil (iff_of_false Bool.false_ne_true nofun)
  | @cons c cs b next _ hnext ih =>
    refine .cons ?_ ih
    rw [Bool.and_eq_true, hnext.headD_iff]
    constructor
    · rintro ⟨hc, h⟩
      exact .one hc h
    · rintro (_ | ⟨hc, h⟩)
      exact ⟨hc, h⟩

theorem matches_sequence_iff : Matches (.sequence :: g) cs ↔ ∃ skipped rest, cs = skipped ++ rest ∧ Matches g rest := by
  constructor
  · intro h
    cases h with
    | sequence skipped h => exact ⟨skipped, _, rfl, h⟩
  · rintro ⟨skipped, rest, rfl, h⟩
    exact .sequence skipped h

/-- A star matches nothing here, or a character and then what it matches behind it. -/
theorem matches_sequence_cons :
    Matches (.sequence :: g) (c :: cs) ↔ Matches g (c :: cs) ∨ Matches (.sequence :: g) cs := by
  simp only [matches_sequence_iff]
  constructor
  · rintro ⟨skipped, rest, hcs, h⟩
    cases skipped with
    | nil =>
      rw [List.nil_append] at hcs
      exact Or.inl (hcs ▸ h)
    | cons d skipped =>
      obtain ⟨-, rfl⟩ := List.cons.inj hcs
      exact Or.inr ⟨skipped, rest, rfl, h⟩
  · rintro (h | ⟨skipped, rest, rfl, h⟩)
    · exact ⟨[], c :: cs, rfl, h⟩
    · exact ⟨c :: skipped, rest, rfl, h⟩

theorem sequenceRow_tells {next : List Bool} (h : Tells (Matches g) cs next) :
    Tells (Matches (.sequence :: g)) cs (sequenceRow next) := by
  induction h with
  | nil h =>
    refine .nil ?_
    have hnil : Matches (.sequence :: g) [] ↔ Matches g [] := by simp [matches_sequence_iff]
    rw [hnil, ← h]
    simp [sequenceRow]
  | cons h _ ih =>
    refine .cons ?_ ih
    rw [Bool.or_eq_true, h, ih.headD_iff, matches_sequence_cons]

/-- The glob describes what stands behind a slash ahead, or the end of the text. -/
def Ahead (g : Glob) (cs : List Char) : Prop :=
  (∃ skipped rest, cs = skipped ++ '/' :: rest ∧ Matches g rest) ∨ Matches g []

theorem ahead_cons : Ahead g (c :: cs) ↔ (c = '/' ∧ Matches g cs) ∨ Ahead g cs := by
  constructor
  · rintro (⟨skipped, rest, hcs, h⟩ | h)
    · cases skipped with
      | nil =>
        obtain ⟨rfl, rfl⟩ := List.cons.inj hcs
        exact Or.inl ⟨rfl, h⟩
      | cons d skipped =>
        obtain ⟨-, rfl⟩ := List.cons.inj hcs
        exact Or.inr (Or.inl ⟨skipped, rest, rfl, h⟩)
    · exact Or.inr (Or.inr h)
  · rintro (⟨rfl, h⟩ | ⟨skipped, rest, rfl, h⟩ | h)
    · exact Or.inl ⟨[], cs, rfl, h⟩
    · exact Or.inl ⟨c :: skipped, rest, rfl, h⟩
    · exact Or.inr h

theorem aheadRow_tells {next : List Bool} (h : Tells (Matches g) cs next) : Tells (Ahead g) cs (aheadRow cs next) := by
  induction h with
  | nil h =>
    refine .nil (h.trans ⟨Or.inr, ?_⟩)
    rintro (⟨skipped, rest, hnil, -⟩ | h)
    · simp at hnil
    · exact h
  | cons _ hnext ih =>
    refine .cons ?_ ih
    rw [Bool.or_eq_true, Bool.and_eq_true, beq_iff_eq, hnext.headD_iff, ih.headD_iff, ahead_cons]

/-- The wildcard for components skips none, some or all of them. -/
theorem matches_components_iff : Matches (.components :: g) cs ↔ Matches g cs ∨ Ahead g cs := by
  constructor
  · intro h
    cases h with
    | here h => exact Or.inl h
    | behind skipped h => exact Or.inr (Or.inl ⟨skipped, _, rfl, h⟩)
    | rest _ h => exact Or.inr (Or.inr h)
  · rintro (h | ⟨skipped, rest, rfl, h⟩ | h)
    · exact .here h
    · exact .behind skipped h
    · exact .rest cs h

theorem componentsRow_tells {P Q : List Char → Prop} {next ahead : List Bool} (hnext : Tells P cs next)
    (hahead : Tells Q cs ahead) : Tells (fun ds => P ds ∨ Q ds) cs (List.zipWith (· || ·) next ahead) := by
  induction hnext generalizing ahead with
  | nil hb =>
    cases hahead with
    | nil hd => exact .nil (by rw [Bool.or_eq_true, hb, hd])
  | cons hb _ ih =>
    cases hahead with
    | cons hd hahead => exact .cons (by rw [Bool.or_eq_true, hb, hd]) (ih hahead)

theorem tokenRow_tells (t : GlobToken) {next : List Bool} (h : Tells (Matches g) cs next) :
    Tells (Matches (t :: g)) cs (tokenRow cs t next) := by
  cases t with
  | one s => exact setRow_tells h
  | sequence => exact sequenceRow_tells h
  | components =>
    have hrow := componentsRow_tells h (aheadRow_tells h)
    simp only [← matches_components_iff] at hrow
    exact hrow

/-- A glob accepts the texts that it describes. -/
theorem accepts_iff (g : Glob) (text : String) : g.accepts text = true ↔ Matches g text.toList := by
  have hrows : Tells (Matches g) text.toList (g.foldr (tokenRow text.toList) (lastRow text.toList)) := by
    induction g with
    | nil => exact lastRow_tells _
    | cons t g ih => exact tokenRow_tells t ih
  exact hrows.headD_iff

/-! ## Plain characters -/

/-- A character that stands for itself wherever it is in a glob. -/
def IsPlain (c : Char) : Prop := c ≠ '*' ∧ c ≠ '?' ∧ c ≠ '['

instance (c : Char) : Decidable (IsPlain c) := inferInstanceAs (Decidable (_ ∧ _))

/-- The parts for characters that stand for themselves. -/
def literal (cs : List Char) : Glob := cs.map fun c => .one (.single c)

/-- Plain characters describe themselves. -/
theorem matches_literal_append {ds : List Char} :
    Matches (literal cs ++ g) ds ↔ ∃ rest, ds = cs ++ rest ∧ Matches g rest := by
  induction cs generalizing ds with
  | nil => simp [literal]
  | cons c cs ih =>
    constructor
    · intro h
      cases h with
      | one hc h =>
        obtain ⟨rest, rfl, hrest⟩ := ih.mp h
        exact ⟨rest, by rw [CharSet.has_single_iff.mp hc, List.cons_append], hrest⟩
    · rintro ⟨rest, rfl, h⟩
      exact .one (CharSet.has_single_iff.mpr rfl) (ih.mpr ⟨rest, rfl, h⟩)

theorem readFrom_plain {fuel n : Nat} {before? : Option Char} {tokens : List GlobToken} (hc : IsPlain c) :
    readFrom (fuel + 1) n before? tokens (c :: cs) =
      readFrom fuel (n + 1) (some c) (.one (.single c) :: tokens) cs := by
  obtain ⟨hstar, hmark, hbracket⟩ := hc
  rw [readFrom] <;> simp_all

/-- Plain characters are read one by one as parts of their own. -/
theorem readFrom_plain_append (hcs : ∀ c ∈ cs, IsPlain c) (rest : List Char) (fuel n : Nat) (before? : Option Char)
    (tokens : List GlobToken) :
    ∃ last?, readFrom (cs.length + fuel) n before? tokens (cs ++ rest) =
      readFrom fuel (n + cs.length) last? ((literal cs).reverse ++ tokens) rest := by
  induction cs generalizing n before? tokens with
  | nil => exact ⟨before?, by simp [literal]⟩
  | cons c cs ih =>
    obtain ⟨hc, hcs⟩ := List.forall_mem_cons.mp hcs
    obtain ⟨last?, hread⟩ := ih hcs (n + 1) (some c) (.one (.single c) :: tokens)
    have hfuel : (c :: cs).length + fuel = cs.length + fuel + 1 := by
      rw [List.length_cons]
      omega
    have hposition : n + (c :: cs).length = n + 1 + cs.length := by
      rw [List.length_cons]
      omega
    refine ⟨last?, ?_⟩
    rw [hfuel, List.cons_append, readFrom_plain hc, hread, hposition]
    simp [literal]

/-- A plain directory with `/**` behind it is read as its characters, the slash and the wildcard for components. -/
theorem ofChars_directory {dir : List Char} (h : ∀ c ∈ dir, IsPlain c) :
    ofChars (dir ++ ['/', '*', '*']) = .ok (literal (dir ++ ['/']) ++ [.components]) := by
  have hlength : (dir ++ ['/', '*', '*']).length + 1 = dir.length + 4 := by simp
  obtain ⟨last?, hread⟩ := readFrom_plain_append h ['/', '*', '*'] 4 0 none []
  rw [ofChars, hlength, hread, readFrom_plain (by decide)]
  -- the slash is a part before the wildcard, which is therefore kept
  simp [readFrom, addComponents, literal]

/-- It describes what starts with the directory and a slash. -/
theorem matches_directory_iff {dir : List Char} :
    Matches (literal (dir ++ ['/']) ++ [.components]) cs ↔ dir ++ ['/'] <+: cs := by
  rw [matches_literal_append]
  constructor
  · rintro ⟨rest, rfl, -⟩
    exact List.prefix_append _ _
  · rintro ⟨rest, rfl⟩
    exact ⟨rest, rfl, .rest rest .nil⟩

end Glob

namespace GlobPattern

theorem ofText_eq_ok [PatternLanguage] {text : String} {accepts : String → Bool} (hne : text ≠ "")
    (h : PatternLanguage.glob text = .ok accepts) :
    ofText text = .ok { text := text, accepts := accepts, reads := h } := by
  unfold ofText
  rw [if_neg hne]
  split
  · next accepts' h' =>
    cases Except.ok.inj (h.symm.trans h')
    rfl
  · next reason h' => cases h.symm.trans h'

/-- A directory without a slash at its end is kept as it is. -/
theorem trimSlashes_eq {dir : List Char} (h : dir.getLast? ≠ some '/') : trimSlashes dir = dir := by
  rw [trimSlashes]
  cases hdir : dir.reverse with
  | nil => simp_all
  | cons c cs =>
    have hc : c ≠ '/' := by
      rintro rfl
      rw [← List.head?_reverse, hdir] at h
      exact h rfl
    rw [List.dropWhile_cons_of_neg (by simpa using hc), ← hdir, List.reverse_reverse]

/-- A directory whose name has no wildcards, with `/**` behind it, is a glob. It matches an id if and only if the id
starts with the directory and a slash. -/
theorem isMatch_directory {dir : String} (hplain : ∀ c ∈ dir.toList, c ≠ '*' ∧ c ≠ '?' ∧ c ≠ '[')
    (hend : dir.toList.getLast? ≠ some '/') :
    ∃ p, ofText (dir ++ "/**") = .ok p ∧ ∀ id : String, p.isMatch id = true ↔ (dir ++ "/").toList <+: id.toList := by
  have htext : (dir ++ "/**").toList = dir.toList ++ ['/', '*', '*'] := String.toList_append
  have hbelow : (dir ++ "/").toList = dir.toList ++ ['/'] := String.toList_append
  have hne : dir ++ "/**" ≠ "" := fun h => by
    rw [h] at htext
    simp at htext
  have hreads : PatternLanguage.glob (dir ++ "/**") =
      .ok (Glob.accepts (Glob.literal (dir.toList ++ ['/']) ++ [.components])) := by
    show ((Glob.ofChars (dir ++ "/**").toList).map Glob.accepts).mapError GlobError.message = _
    rw [htext, Glob.ofChars_directory hplain]
    rfl
  have hdirectory : directory? (dir ++ "/**") = some dir.toList := by
    rw [directory?, htext]
    simp [trimSlashes_eq hend]
  refine ⟨_, ofText_eq_ok hne hreads, fun id => ?_⟩
  -- both ways to match come to the same
  rw [isMatch, hdirectory, Option.any_some, isBelow, Bool.or_eq_true, Glob.accepts_iff, Glob.matches_directory_iff,
    List.isPrefixOf_iff_prefix, or_self, hbelow]

/-- The generated modules of a package. -/
theorem isMatch_generated :
    (∀ c ∈ "src/générés".toList, c ≠ '*' ∧ c ≠ '?' ∧ c ≠ '[') ∧ "src/générés".toList.getLast? ≠ some '/' ∧
      ∃ p, ofText "src/générés/**" = .ok p ∧ p.isMatch "src/générés/.cache/a.ts" = true ∧
        p.isMatch "src/générés-new/a.ts" = false ∧ p.isMatch "src/générés" = false := by
  have hplain : ∀ c ∈ "src/générés".toList, c ≠ '*' ∧ c ≠ '?' ∧ c ≠ '[' := by simp
  have hend : "src/générés".toList.getLast? ≠ some '/' := by decide
  obtain ⟨p, hp, hmatch⟩ := isMatch_directory hplain hend
  refine ⟨hplain, hend, p, hp, (hmatch _).mpr (by decide), ?_, ?_⟩
  · rw [← Bool.not_eq_true, hmatch]
    decide
  · rw [← Bool.not_eq_true, hmatch]
    decide

end GlobPattern

end ImportLint
