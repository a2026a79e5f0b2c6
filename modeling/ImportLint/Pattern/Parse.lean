import ImportLint.Pattern.Bracket
import ImportLint.Pattern.Size

/-!
# Reading regular expressions

`Regex.parse` reads a whole pattern. Groups, alternatives and repetitions are put together here; the groups open
around the current place are kept on a stack. A pattern is refused if it is malformed, nested too deeply or
too large once it is compiled.
-/

namespace ImportLint.Pattern

/-- A piece of a pattern: its meaning, the form in which it is compiled, the depth of its nesting, and whether a
repetition may follow it. -/
structure Piece where
  regex : Regex
  outline : Outline
  depth : Nat
  repeatable : Bool

/-- The alternatives of the pattern or of a group: those complete and the pieces of the current one, both in
reverse. -/
structure Level where
  alternatives : List Piece
  pieces : List Piece

/-- What surrounds an open group: the flags and the level there, and the number of the group if it captures. -/
structure Surroundings where
  flags : Flags
  level : Level
  index? : Option Nat

/-- The place inside a pattern: the flags in force, the names of groups and the number of capturing groups so far, the
current level, and what surrounds the open groups. -/
structure Place where
  flags : Flags
  names : List String
  captures : Nat
  level : Level
  outer : List Surroundings

namespace Piece

/-- A piece that stands for one character of a set. -/
def chars (s : CharSet) (depth : Nat) : Piece :=
  { regex := .chars s, outline := .ofSet s, depth := depth, repeatable := true }

/-- The depth of a list of pieces with something around them, if there is more than one. -/
def depthOfAll (ps : List Piece) : Nat :=
  match ps with
  | [] => 0
  | [p] => p.depth
  | ps => (ps.map Piece.depth).foldl max 0 + 1

/-- Pieces one after the other, given in reverse. -/
def ofSequence (ps : List Piece) : Piece :=
  { regex := Regex.seqAll (ps.reverse.map Piece.regex), outline := .catAll (ps.reverse.map Piece.outline),
    depth := depthOfAll ps, repeatable := true }

/-- One of several pieces, given in reverse. -/
def ofAlternatives (ps : List Piece) : Piece :=
  { regex := Regex.altAll (ps.reverse.map Piece.regex), outline := .altAll (ps.reverse.map Piece.outline),
    depth := depthOfAll ps, repeatable := true }

/-- A piece repeatedly. -/
def repeated (x : Piece) (min : Nat) (max? : Option Nat) (greedy : Bool) : Piece :=
  { regex := Regex.times x.regex min max?, outline := x.outline.repeated min max? greedy, depth := x.depth + 1,
    repeatable := true }

/-- A piece in parentheses, with a number if they capture. -/
def grouped (x : Piece) (index? : Option Nat) : Piece :=
  { x with outline := index?.elim x.outline fun i => .capture i x.outline, depth := x.depth + 1 }

end Piece

namespace Level

def empty : Level := ⟨[], []⟩

/-- Adds a piece to the current alternative. -/
def add (l : Level) (p : Piece) : Level := { l with pieces := p :: l.pieces }

/-- Starts the next alternative. -/
def next (l : Level) : Level := ⟨Piece.ofSequence l.pieces :: l.alternatives, []⟩

/-- The piece that the level stands for. -/
def piece (l : Level) : Piece := Piece.ofAlternatives l.next.alternatives

end Level

namespace Place

def start : Place := { flags := .standard, names := [], captures := 0, level := .empty, outer := [] }

/-- Adds a piece. -/
def add (p : Place) (x : Piece) : Place := { p with level := p.level.add x }

/-- Adds a piece that stands for one character of a set. -/
def addChars (p : Place) (s : CharSet) : Place := p.add (.chars s 0)

/-- Adds a condition. -/
def addLook (p : Place) (l : Look) : Place :=
  p.add { regex := .look l p.flags.word, outline := .look l p.flags.word, depth := 0, repeatable := true }

/-- Opens a group that does not capture, with flags of its own. -/
def openGroup (p : Place) (flags : Flags) : Place :=
  { p with flags := flags, level := .empty, outer := ⟨p.flags, p.level, none⟩ :: p.outer }

/-- Opens a group that captures. -/
def openCapture (p : Place) : Place :=
  { p with
    captures := p.captures + 1, level := .empty, outer := ⟨p.flags, p.level, some (p.captures + 1)⟩ :: p.outer }

/-- Closes the innermost group. -/
def closeGroup (p : Place) : Option Place :=
  match p.outer with
  | [] => none
  | s :: outer =>
    some { p with flags := s.flags, level := s.level.add (p.level.piece.grouped s.index?), outer := outer }

/-- Repeats the last piece; `marked` tells that the repetition has the mark for the other preference. -/
def repeatLast (p : Place) (min : Nat) (max? : Option Nat) (marked : Bool) : Option Place :=
  match p.level.pieces with
  | x :: pieces =>
    if x.repeatable then
      some { p with level := { p.level with pieces := x.repeated min max? (marked == p.flags.swapGreed) :: pieces } }
    else none
  | [] => none

/-- Sets the flags for the rest of the group. -/
def setFlags (p : Place) (flags : Flags) : Place :=
  { p.add { regex := .empty, outline := .empty, depth := 0, repeatable := false } with flags := flags }

end Place

/-- Reads flags up to a colon or a closing parenthesis: those behind a hyphen are cleared. Nothing may be
given twice, and something must follow the hyphen. The result has the flags, whether any were given, and the
character at the end. -/
def readFlags : Flags → List Char → List Char → Option (Flags × Bool × Char × List Char)
  | _, _, [] => none
  | f, given, c :: cs =>
    if c = ':' ∨ c = ')' then
      if given.head? = some '-' then none else some (f, !given.isEmpty, c, cs)
    else if given.contains c then none
    else if c = '-' then readFlags f ('-' :: given) cs
    else do readFlags (← f.put? c (!given.contains '-')) (c :: given) cs

/-- Whether a character may stand in the name of a group. -/
def isNameChar (first : Bool) (c : Char) : Bool :=
  if first then c == '_' || Unicode.isAlphabetic c
  else c == '_' || c == '.' || c == '[' || c == ']' || Unicode.isAlphanumeric c

/-- Opens a group with a name, behind the angle bracket. -/
def openNamed (p : Place) (cs : List Char) : Option (Place × List Char) :=
  let name := cs.takeWhile (· != '>')
  match name, cs.dropWhile (· != '>') with
  | c :: rest, _ :: cs =>
    let text := String.ofList name
    if isNameChar true c && rest.all (isNameChar false) && !p.names.contains text then
      some ({ p with names := text :: p.names }.openCapture, cs)
    else none
  | _, _ => none

/-- Opens a group or sets flags, behind the parenthesis. -/
def openParenthesis (p : Place) (cs : List Char) : Option (Place × List Char) :=
  match p.flags.skip cs with
  | '?' :: '=' :: _ => none
  | '?' :: '!' :: _ => none
  | '?' :: '<' :: '=' :: _ => none
  | '?' :: '<' :: '!' :: _ => none
  | '?' :: 'P' :: '<' :: cs => openNamed p cs
  | '?' :: '<' :: cs => openNamed p cs
  | '?' :: cs => do
    let (flags, some?, c, cs) ← readFlags p.flags [] cs
    if c = ':' then pure (p.openGroup flags, cs)
    else if some? then pure (p.setFlags flags, cs)
    else none
  | cs => some (p.openCapture, cs)

/-- The mark behind a repetition that prefers few turns, if it is there. -/
def readMark : List Char → Bool × List Char
  | '?' :: cs => (true, cs)
  | cs => (false, cs)

/-- Repeats the last piece, behind the limits of the repetition. -/
def Place.repeatMarked (p : Place) (min : Nat) (max? : Option Nat) (cs : List Char) : Option (Place × List Char) :=
  let (marked, cs) := readMark cs
  (p.repeatLast min max? marked).map fun p => (p, cs)

/-- The digits of a number; blanks between them count only where blanks have meaning. -/
def readDigits (f : Flags) : Nat → List Nat → List Char → List Nat × List Char
  | 0, ds, cs => (ds, cs)
  | fuel + 1, ds, cs =>
    match cs with
    | c :: rest => if c.isDigit then readDigits f fuel ((c.toNat - '0'.toNat) :: ds) (f.skip rest) else (ds, cs)
    | [] => (ds, [])

/-- A number with blanks around it, below `2 ^ 32`; the outer option tells whether it is too large, the inner
one whether it is missing. -/
def readCount (f : Flags) (cs : List Char) : Option (Option Nat × List Char) :=
  let cs := cs.dropWhile Unicode.isBlank
  let (ds, cs) := readDigits f cs.length [] cs
  let cs := f.skip (cs.dropWhile Unicode.isBlank)
  match ds with
  | [] => some (none, cs)
  | ds =>
    let n := ds.foldr (fun d n => 10 * n + d) 0
    if n < 0x100000000 then some (some n, cs) else none

/-- The limits of a repetition between braces, behind the opening brace. -/
def readLimits (f : Flags) (cs : List Char) : Option (Nat × Option Nat × List Char) := do
  let (min?, cs) ← readCount f (f.skip cs)
  let min ← min?
  match cs with
  | ',' :: cs =>
    match f.skip cs with
    | '\x7d' :: cs => pure (min, none, cs)
    | cs =>
      let (max?, cs) ← readCount f cs
      let max ← max?
      match cs with
      | '\x7d' :: cs => if min ≤ max then pure (min, some max, cs) else none
      | _ => none
  | '\x7d' :: cs => pure (min, some min, cs)
  | _ => none

/-- Adds the atom of an escape. -/
def Place.addAtom (p : Place) : Atom → Place
  | .char c => p.addChars (p.flags.literal c)
  | .set s => p.addChars s
  | .look l => p.addLook l

/-- Reads the next part of a pattern, whose first character is given. -/
def readPart (p : Place) (c : Char) (cs : List Char) : Option (Place × List Char) :=
  match c with
  | '(' => openParenthesis p cs
  | ')' => p.closeGroup.map fun p => (p, cs)
  | '|' => some ({ p with level := p.level.next }, cs)
  | '[' => (bracket p.flags cs).map fun (x, cs) =>
      (p.add (.chars x.set x.depth), cs)
  | '?' => p.repeatMarked 0 (some 1) cs
  | '*' => p.repeatMarked 0 none cs
  | '+' => p.repeatMarked 1 none cs
  | '\x7b' => do
    let (min, max?, cs) ← readLimits p.flags cs
    p.repeatMarked min max? (p.flags.skip cs)
  | '\\' => (escape p.flags cs).map fun (a, cs) => (p.addAtom a, cs)
  | '.' => p.flags.dot?.map fun s => (p.addChars s, cs)
  | '^' => some (p.addLook p.flags.start, cs)
  | '$' => some (p.addLook p.flags.stop, cs)
  | c => some (p.addChars (p.flags.literal c), cs)

/-- Reads a pattern to its end. Every step takes at least one character, so `fuel` is enough if it exceeds the
number of characters. -/
def readPattern : Nat → Place → List Char → Option Place
  | 0, _, _ => none
  | fuel + 1, p, cs =>
    match p.flags.skip cs with
    | [] => some p
    | c :: cs => do
      let (p, cs) ← readPart p c cs
      readPattern fuel p cs

end ImportLint.Pattern

namespace ImportLint.Regex

/-- How deeply the parts of a pattern may be nested. -/
def depthLimit : Nat := 250

/-- The regular expression that a pattern stands for. -/
def parse (pattern : String) : Option Regex := do
  let cs := pattern.toList
  let p ← Pattern.readPattern (cs.length + 1) .start cs
  let x := p.level.piece
  if p.outer.isEmpty && x.depth ≤ depthLimit && x.outline.fits then some x.regex else none

end ImportLint.Regex
