import ImportLint.Pattern.CharSet

/-!
# Globs

Patterns for paths: `?` stands for one character, `*` for any number of them, `[...]` for one of a list, and `**`
as a whole component for any number of components. `Glob.ofChars` reads a pattern and says where and why it is
malformed; `Glob.accepts` tells which texts it describes. All of a text must be matched, and a slash is a
character like any other except to `**`.
-/

namespace ImportLint

/-- What can be wrong with a glob. -/
inductive GlobFault
  /-- Three stars in a row. -/
  | manyStars
  /-- Two stars that are not a whole component. -/
  | partialComponent
  /-- A bracket that does not close. -/
  | badRange
  deriving DecidableEq, Repr

/-- A fault and the number of characters before the place where it shows. -/
structure GlobError where
  position : Nat
  fault : GlobFault
  deriving DecidableEq, Repr

namespace GlobFault

def message : GlobFault → String
  | manyStars => "wildcards are either regular `*` or recursive `**`"
  | partialComponent => "recursive wildcards must form a single path component"
  | badRange => "invalid range pattern"

end GlobFault

namespace GlobError

def message (e : GlobError) : String :=
  "Pattern syntax error near position " ++ toString e.position ++ ": " ++ e.fault.message

end GlobError

/-- A part of a glob. -/
inductive GlobToken
  /-- One character of a set. -/
  | one (s : CharSet)
  /-- Any number of characters. -/
  | sequence
  /-- Any number of whole components with their slashes. -/
  | components
  deriving DecidableEq, Repr

/-- A glob as the list of its parts. -/
abbrev Glob := List GlobToken

namespace Glob

/-- The characters and ranges of a bracket. -/
def specifiers : List Char → CharSet
  | a :: '-' :: b :: cs => .union (.range a b) (specifiers cs)
  | a :: cs => .union (.single a) (specifiers cs)
  | [] => .empty

/-- Splits at the first closing bracket behind the first character, which may be a closing bracket itself. -/
def splitBracket : List Char → Option (List Char × List Char)
  | [] => none
  | c :: cs =>
    match cs.dropWhile (· != ']') with
    | [] => none
    | _ :: rest => some (c :: cs.takeWhile (· != ']'), rest)

/-- A bracket, behind its opening. An exclamation mark at the start excludes what follows. -/
def readBracket : List Char → Option (CharSet × List Char)
  | '!' :: cs => (splitBracket cs).map fun (text, rest) => (.compl (specifiers text), rest)
  | cs => (splitBracket cs).map fun (text, rest) => (specifiers text, rest)

/-- Adds the wildcard for components; one in a row is enough. -/
def addComponents (tokens : List GlobToken) : List GlobToken :=
  match tokens with
  | .components :: _ :: _ => tokens
  | _ => .components :: tokens

/-- Reads a glob behind `position` characters, the last of which is `before?`; `tokens` are the parts so far, in
reverse. Every step takes a character, so `fuel` is enough if it exceeds their number. -/
def readFrom : Nat → Nat → Option Char → List GlobToken → List Char → Except GlobError Glob
  | 0, _, _, tokens, _ => .ok tokens.reverse
  | _ + 1, _, _, tokens, [] => .ok tokens.reverse
  | fuel + 1, n, before?, tokens, c :: cs =>
    match c, cs with
    | '?', cs => readFrom fuel (n + 1) (some c) (.one .all :: tokens) cs
    | '*', '*' :: '*' :: _ => .error ⟨n + 2, .manyStars⟩
    | '*', '*' :: cs =>
      if before?.any (· != '/') then .error ⟨n - 1, .partialComponent⟩
      else
        match cs with
        | [] => readFrom fuel (n + 2) (some '*') (addComponents tokens) []
        | '/' :: cs => readFrom fuel (n + 3) (some '/') (addComponents tokens) cs
        | _ :: _ => .error ⟨n + 2, .partialComponent⟩
    | '*', cs => readFrom fuel (n + 1) (some c) (.sequence :: tokens) cs
    | '[', cs =>
      match readBracket cs with
      | some (s, rest) => readFrom fuel (n + 1 + (cs.length - rest.length)) (some ']') (.one s :: tokens) rest
      | none => .error ⟨n, .badRange⟩
    | c, cs => readFrom fuel (n + 1) (some c) (.one (.single c) :: tokens) cs

/-- The glob that a list of characters writes. -/
def ofChars (cs : List Char) : Except GlobError Glob :=
  readFrom (cs.length + 1) 0 none [] cs

/-! For a text, the suffixes that a glob matches are kept as a row of truth values, one for the text, one for
each of its proper suffixes, and the last one for the empty text. -/

/-- The row for the glob without parts. -/
def lastRow : List Char → List Bool
  | [] => [true]
  | _ :: cs => false :: lastRow cs

/-- The row for a set before the glob with the row `next`. -/
def setRow (s : CharSet) : List Char → List Bool → List Bool
  | c :: cs, _ :: next => (s.has c && next.headD false) :: setRow s cs next
  | _, _ => [false]

/-- The row for `*` before the glob with the row `next`. -/
def sequenceRow : List Bool → List Bool
  | [] => []
  | b :: next =>
    let row := sequenceRow next
    (b || row.headD false) :: row

/-- The row that tells where the glob with the row `next` matches behind a slash somewhere ahead, or at the end
of the text. -/
def aheadRow : List Char → List Bool → List Bool
  | c :: cs, _ :: next =>
    let row := aheadRow cs next
    ((c == '/' && next.headD false) || row.headD false) :: row
  | _, next => next

/-- The row for a part before the glob with the row `next`. -/
def tokenRow (cs : List Char) (t : GlobToken) (next : List Bool) : List Bool :=
  match t with
  | .one s => setRow s cs next
  | .sequence => sequenceRow next
  | .components => List.zipWith (· || ·) next (aheadRow cs next)

/-- Whether the glob matches a text. -/
def accepts (g : Glob) (text : String) : Bool :=
  let cs := text.toList
  (g.foldr (tokenRow cs) (lastRow cs)).headD false

end Glob

end ImportLint
