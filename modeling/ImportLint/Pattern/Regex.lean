import ImportLint.Pattern.CharSet

/-!
# Regular expressions

Patterns over characters with assertions about the place they stand at. A pattern is matched by derivatives:
`nullable` says whether it matches nothing at a place, `derive` what is left of it behind a character. `search`
looks for a match anywhere in a text; it keeps the set of all that may be left of a match in progress.
-/

namespace ImportLint

/-- A condition on the characters on both sides of a place. -/
inductive Look
  | textStart
  | textEnd
  | lineStart
  | lineEnd
  /-- The same where a carriage return with a line feed ends one line. -/
  | lineStartCRLF
  | lineEndCRLF
  /-- A place where a word begins or ends. -/
  | wordBoundary
  | notWordBoundary
  | wordStart
  | wordEnd
  /-- A place with no character of a word before it. -/
  | wordStartHalf
  /-- A place with no character of a word behind it. -/
  | wordEndHalf
  deriving DecidableEq, Repr

namespace Look

/-- Whether the condition holds between two characters, if there are any; `word` tells the characters of
words. -/
def holds (word : Char → Bool) (before after : Option Char) : Look → Bool
  | textStart => before.isNone
  | textEnd => after.isNone
  | lineStart => before.all (· == '\n')
  | lineEnd => after.all (· == '\n')
  | lineStartCRLF => before.all fun c => c == '\n' || (c == '\r' && after != some '\n')
  | lineEndCRLF => after.all fun c => c == '\r' || (c == '\n' && before != some '\r')
  | wordBoundary => before.any word != after.any word
  | notWordBoundary => before.any word == after.any word
  | wordStart => !before.any word && after.any word
  | wordEnd => before.any word && !after.any word
  | wordStartHalf => !before.any word
  | wordEndHalf => !after.any word

end Look

/-- A regular expression. -/
inductive Regex
  /-- Matches nothing at any place. -/
  | empty
  /-- Matches one character of a set. -/
  | chars (s : CharSet)
  /-- Matches nothing at a place where a condition holds; `word` is the set of the characters of words. -/
  | look (l : Look) (word : CharSet)
  | cat (r s : Regex)
  | alt (r s : Regex)
  /-- Matches `r` repeatedly, from `min` to `max?` times. -/
  | rep (r : Regex) (min : Nat) (max? : Option Nat)
  deriving DecidableEq, Repr

namespace Regex

/-- One after the other, without an empty first part. -/
def seq : Regex → Regex → Regex
  | empty, s => s
  | cat r t, s => cat r (t.seq s)
  | r, s => cat r s

/-- One after the other, for a list. -/
def seqAll : List Regex → Regex
  | [] => empty
  | [r] => r
  | r :: rs => r.seq (seqAll rs)

/-- One of several. -/
def altAll : List Regex → Regex
  | [] => empty
  | [r] => r
  | r :: rs => alt r (altAll rs)

/-- What is left of a repetition when its turns are used up. -/
def times (r : Regex) (min : Nat) (max? : Option Nat) : Regex :=
  if max? = some 0 then empty else rep r min max?

/-- Whether the expression matches nothing at a place. -/
def nullable (before after : Option Char) : Regex → Bool
  | empty => true
  | chars _ => false
  | look l word => l.holds word.has before after
  | cat r s => r.nullable before after && s.nullable before after
  | alt r s => r.nullable before after || s.nullable before after
  | rep r min _ => min == 0 || r.nullable before after

/-- What may be left of the expression behind the character `c`. If one turn of a repetition can match
nothing here, any number of the turns due can. -/
def derive (before : Option Char) (c : Char) : Regex → List Regex
  | empty => []
  | chars s => if s.has c then [empty] else []
  | look _ _ => []
  | cat r s =>
    (r.derive before c).map (·.seq s) ++
      if r.nullable before (some c) then s.derive before c else []
  | alt r s => r.derive before c ++ s.derive before c
  | rep r min max? =>
    if max? = some 0 then []
    else
      let due := if r.nullable before (some c) then 0 else min - 1
      (r.derive before c).map (·.seq (times r due (max?.map (· - 1))))

/-- Adds an expression to a list unless it is there. -/
def addNew (rs : List Regex) (r : Regex) : List Regex :=
  if r ∈ rs then rs else r :: rs

/-- What may be left of a list of expressions behind a character. -/
def step (before : Option Char) (c : Char) (rs : List Regex) : List Regex :=
  (rs.flatMap (derive before c)).foldl addNew []

/-- Whether a match of `r`, or of one of the expressions in progress, ends somewhere in the text. -/
def search (r : Regex) : Option Char → List Regex → List Char → Bool
  | before, rs, [] => (addNew rs r).any (nullable before none)
  | before, rs, c :: cs =>
    (addNew rs r).any (nullable before (some c)) ||
      search r (some c) (step before c (addNew rs r)) cs

/-- Whether the expression matches some part of a text. -/
def isMatch (r : Regex) (text : String) : Bool :=
  r.search none [] text.toList

end Regex

end ImportLint
