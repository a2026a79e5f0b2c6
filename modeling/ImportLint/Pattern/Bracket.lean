import ImportLint.Pattern.Escape

/-!
# Bracketed classes

Classes such as `[a-z&&[^aeiou]]`: characters, ranges, escapes, named ASCII classes and nested classes, joined
by union or by one of three operators, which group from the left. `bracket` reads a class from its opening
bracket on; the brackets open around the current place are kept on a stack.
-/

namespace ImportLint.Pattern

open Unicode (isBlank)

/-- An operator between the parts of a class. -/
inductive SetOp
  | inter
  | diff
  | symmDiff
  deriving DecidableEq, Repr

/-- A part of a class with the depth of its nesting. -/
structure Part where
  set : CharSet
  depth : Nat

/-- An open bracket: whether its class is negated, the operator with its left side that waits for the right
side, and the members of the current union in reverse. -/
structure Bracket where
  negated : Bool
  left? : Option (SetOp × Part)
  members : List Part

namespace Bracket

/-- The union of the current members. -/
def current (b : Bracket) : Part where
  set := CharSet.unionAll (b.members.reverse.map Part.set)
  depth :=
    match b.members with
    | [] => 0
    | [p] => p.depth
    | ps => (ps.map Part.depth).foldl max 0 + 1

/-- What is in the bracket so far, the operator that waits applied. -/
def value (f : Flags) (b : Bracket) : Part :=
  match b.left? with
  | none => b.current
  | some (op, left) =>
    let right := b.current
    let make := match op with
      | .inter => CharSet.inter
      | .diff => CharSet.diff
      | .symmDiff => CharSet.symmDiff
    { set := make (f.fold left.set) (f.fold right.set), depth := max left.depth right.depth + 1 }

/-- The class of the whole bracket. -/
def close (f : Flags) (b : Bracket) : Option Part :=
  let v := b.value f
  (f.complement? b.negated (f.fold v.set)).map fun s => { set := s, depth := v.depth + 1 }

/-- Starts the right side of an operator. -/
def operate (f : Flags) (op : SetOp) (b : Bracket) : Bracket :=
  { b with left? := some (op, b.value f), members := [] }

/-- Adds a member. -/
def add (p : Part) (b : Bracket) : Bracket :=
  { b with members := p :: b.members }

/-- Adds a set. -/
def addSet (s : CharSet) (b : Bracket) : Bracket := b.add { set := s, depth := 0 }

end Bracket

/-- Reads the hyphens that stand for themselves at the start of a class. -/
def leadingHyphens (f : Flags) : Nat → Bracket → List Char → Bracket × List Char
  | 0, b, cs => (b, cs)
  | fuel + 1, b, cs =>
    match f.skip cs with
    | '-' :: cs => leadingHyphens f fuel (b.addSet (.single '-')) cs
    | cs => (b, cs)

/-- Opens a class, behind its bracket. -/
def openBracket (f : Flags) (cs : List Char) : Bracket × List Char :=
  let (negated, cs) := match f.skip cs with
    | '^' :: cs => (true, cs)
    | cs => (false, cs)
  let (b, cs) := leadingHyphens f cs.length { negated := negated, left? := none, members := [] } cs
  match b.members, cs with
  | [], ']' :: cs => (b.addSet (.single ']'), f.skip cs)
  | _, cs => (b, cs)

/-- A named class of ASCII such as `[:alpha:]`, behind its first bracket. -/
def asciiClass? (f : Flags) (cs : List Char) : Option (Option CharSet × List Char) :=
  match cs with
  | ':' :: cs =>
    let (negated, cs) := match cs with
      | '^' :: cs => (true, cs)
      | cs => (false, cs)
    match cs.dropWhile (· != ':') with
    | ':' :: ']' :: rest =>
      (CharSet.ascii? (String.ofList (cs.takeWhile (· != ':')))).map fun s =>
        (f.complement? negated (f.fold s), rest)
    | _ => none
  | _ => none

/-- The first character that matters behind a hyphen; a comment there hides only blanks. -/
def peekBlanks : Bool → List Char → Option Char
  | _, [] => none
  | inComment, c :: cs =>
    if isBlank c then peekBlanks inComment cs
    else if !inComment && c == '#' then peekBlanks true cs
    else some c

namespace Flags

/-- The first character that matters behind a hyphen. -/
def peek (f : Flags) (cs : List Char) : Option Char :=
  if f.spaced then peekBlanks false cs else cs.head?

end Flags

/-- One member of a class: an escape or the character itself. -/
def member (f : Flags) : List Char → Option (Atom × List Char)
  | [] => none
  | '\\' :: cs => escape f cs
  | c :: cs => some (.char c, cs)

/-- A character as a member; without Unicode it must be of ASCII. -/
def memberChar? (f : Flags) (c : Char) : Option Char :=
  if f.unicode || c.toNat < 0x80 then some c else none

/-- The set that a member stands for. -/
def Atom.set? (f : Flags) : Atom → Option CharSet
  | .char c => (memberChar? f c).map .single
  | .set s => some s
  | .look _ => none

/-- A member or a range of characters. -/
def memberOrRange (f : Flags) (cs : List Char) : Option (CharSet × List Char) := do
  let (first, cs) ← member f cs
  match f.skip cs with
  | [] => none
  | '-' :: rest =>
    let next := f.peek rest
    if next = some ']' ∨ next = some '-' then pure (← first.set? f, '-' :: rest)
    else
      let (last, cs) ← member f (f.skip rest)
      match first, last with
      | .char lo, .char hi =>
        let lo ← memberChar? f lo
        let hi ← memberChar? f hi
        if lo ≤ hi then pure (.range lo hi, cs) else none
      | _, _ => none
  | cs => pure (← first.set? f, cs)

/-- Reads on inside the innermost of the open brackets. -/
def readBracket (f : Flags) : Nat → Bracket → List Bracket → List Char → Option (Part × List Char)
  | 0, _, _, _ => none
  | fuel + 1, b, outer, cs =>
    match f.skip cs with
    | [] => none
    | '[' :: cs =>
      match asciiClass? f cs with
      | some (none, _) => none
      | some (some s, cs) => readBracket f fuel (b.addSet s) outer cs
      | none =>
        let (inner, cs) := openBracket f cs
        readBracket f fuel inner (b :: outer) cs
    | ']' :: cs => do
      let p ← b.close f
      match outer with
      | [] => pure (p, cs)
      | parent :: outer => readBracket f fuel (parent.add p) outer cs
    | '&' :: '&' :: cs => readBracket f fuel (b.operate f .inter) outer cs
    | '-' :: '-' :: cs => readBracket f fuel (b.operate f .diff) outer cs
    | '~' :: '~' :: cs => readBracket f fuel (b.operate f .symmDiff) outer cs
    | cs => do
      let (s, cs) ← memberOrRange f cs
      readBracket f fuel (b.addSet s) outer cs

/-- Reads a class, behind its opening bracket. Every step takes at least one character. -/
def bracket (f : Flags) (cs : List Char) : Option (Part × List Char) :=
  let (b, rest) := openBracket f cs
  readBracket f (cs.length + 1) b [] rest

end ImportLint.Pattern
