import ImportLint.Pattern.Regex
import ImportLint.Unicode.Encoding

/-!
# Outlines

The form in which a pattern is compiled: adjacent characters are one literal, alternatives that are single characters or
classes are one class, and what all alternatives begin with stands before them. Groups are kept if they capture.
An outline only tells how large the automaton is (`ImportLint.Pattern.Size`); what a pattern matches is told by its
`Regex`.
-/

namespace ImportLint.Pattern

open Unicode (Ranges)

/-- The form of a pattern that is compiled. `cat` and `alt` are nested to the right. -/
inductive Outline
  | empty
  | literal (cs : List Char)
  /-- One of the characters in some ranges. -/
  | chars (rs : Ranges)
  | look (l : Look) (word : CharSet)
  | rep (r : Outline) (min : Nat) (max? : Option Nat) (greedy : Bool)
  /-- The capturing group with a number. -/
  | capture (index : Nat) (r : Outline)
  | cat (r s : Outline)
  | alt (r s : Outline)
  deriving DecidableEq, Repr

/-- Ranges without the surrogates. -/
def scalars (rs : Ranges) : Ranges :=
  rs.flatMap fun (lo, hi) =>
    if hi < 0xD800 ∨ 0xDFFF < lo then [(lo, hi)]
    else (if lo < 0xD800 then [(lo, 0xD7FF)] else []) ++ if 0xDFFF < hi then [(0xE000, hi)] else []

/-- The sum of the sizes of the members of a list. -/
def totalOf {α : Type} (size : α → Nat) (xs : List α) : Nat := xs.foldl (fun n x => n + size x) 0

namespace Outline

/-- A character of some ranges. -/
def ofRanges : Ranges → Outline
  | [(lo, hi)] => if lo = hi then literal [Char.ofNat lo] else chars [(lo, hi)]
  | rs => chars rs

/-- A character of a set. -/
def ofSet (s : CharSet) : Outline := ofRanges (scalars s.ranges)

/-- Whether no match takes a character. -/
def isZeroWidth : Outline → Bool
  | empty | look .. => true
  | literal _ | chars _ => false
  | rep r .. | capture _ r => r.isZeroWidth
  | cat r s | alt r s => r.isZeroWidth && s.isZeroWidth

/-- The least number of bytes in a match; not known where a class without characters stands. -/
def minLength? : Outline → Option Nat
  | empty | look .. => some 0
  | literal cs => some (totalOf Char.utf8Size cs)
  | chars [] => none
  | chars ((lo, _) :: _) => some (Char.ofNat lo).utf8Size
  | rep r min .. => r.minLength?.map (min * ·)
  | capture _ r => r.minLength?
  | cat r s => do pure ((← r.minLength?) + (← s.minLength?))
  | alt r s => do pure (min (← r.minLength?) (← s.minLength?))

/-- A repetition. What takes no character is repeated at most once. -/
def repeated (r : Outline) (lo : Nat) (hi? : Option Nat) (greedy : Bool) : Outline :=
  let (lo, hi?) := if r.isZeroWidth then (min lo 1, some (min (hi?.getD 1) 1)) else (lo, hi?)
  if hi? = some 0 then empty
  else if lo = 1 ∧ hi? = some 1 then r
  else rep r lo hi? greedy

/-! ## Sequences -/

/-- What stands one after the other. -/
def parts : Outline → List Outline
  | empty => []
  | cat r s => r :: s.parts
  | r => [r]

/-- Puts a part before others. -/
def consPart : Outline → List Outline → List Outline
  | literal cs, literal ds :: rest => literal (cs ++ ds) :: rest
  | r, rest => r :: rest

def ofParts : List Outline → Outline
  | [] => empty
  | [r] => r
  | r :: rs => cat r (ofParts rs)

/-- One after the other. -/
def catAll (rs : List Outline) : Outline := ofParts ((rs.flatMap parts).foldr consPart [])

/-! ## Alternatives -/

def alternatives : Outline → List Outline
  | alt r s => r :: s.alternatives
  | r => [r]

def ofAlternatives : List Outline → Outline
  | [] => chars []
  | [r] => r
  | r :: rs => alt r (ofAlternatives rs)

/-- The ranges that a single character stands for. -/
def single? : Outline → Option Ranges
  | literal [c] => some [(c.toNat, c.toNat)]
  | _ => none

/-- The ranges of a class. -/
def ranges? : Outline → Option Ranges
  | chars rs => some rs
  | _ => none

/-- The parts of an expression that has several. -/
def manyParts : Outline → List Outline
  | cat r s => (cat r s).parts
  | _ => []

/-- What both lists begin with. -/
def commonPrefix : List Outline → List Outline → List Outline
  | r :: rs, s :: ss => if r = s then r :: commonPrefix rs ss else []
  | _, _ => []

/-- The parts that all expressions begin with. -/
def commonParts : List Outline → List Outline
  | [] => []
  | [r] => r.manyParts
  | r :: rs => commonPrefix r.manyParts (commonParts rs)

/-- One of several, a class if each is a character or each a class. -/
def altOrClass (rs : List Outline) : Outline :=
  match rs.mapM single? <|> rs.mapM ranges? with
  | some rss => ofRanges (rss.foldr Ranges.union [])
  | none => ofAlternatives rs

/-- One of several. Common parts are moved in front; what is left of the alternatives begins differently then. -/
def altAll (rs : List Outline) : Outline :=
  match rs.flatMap alternatives with
  | [r] => r
  | rs =>
    match commonParts rs with
    | [] => altOrClass rs
    | ps => catAll (ps ++ [altOrClass (rs.flatMap fun r => (ofParts (r.parts.drop ps.length)).alternatives)])

end Outline

end ImportLint.Pattern
