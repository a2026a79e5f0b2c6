import ImportLint.Pattern.Regex
import ImportLint.Text.Hex

/-!
# Atoms of regular expressions

The parts of a pattern that stand for one character or one condition: characters, escapes and named classes.
What they mean depends on the flags in force, `Flags`. Every reader takes the characters of the pattern that
are left and gives back those behind what it has read, or nothing if the pattern is malformed.
-/

namespace ImportLint.Pattern

open Text (hexValue? scalar?)
open Unicode (Category Property isBlank)

/-- The flags in force at a place of a pattern. -/
structure Flags where
  ignoreCase : Bool
  /-- Anchors stand for the ends of lines too. -/
  multiLine : Bool
  /-- The dot matches the ends of lines too. -/
  dotAll : Bool
  /-- Classes are those of Unicode, not of ASCII. -/
  unicode : Bool
  /-- A carriage return ends a line too. -/
  crlf : Bool
  /-- Repetitions prefer few turns, and many if they are marked. -/
  swapGreed : Bool
  /-- Blanks and comments in the pattern have no meaning. -/
  spaced : Bool
  deriving DecidableEq, Repr

namespace Flags

/-- The flags at the start of a pattern. -/
def standard : Flags :=
  { ignoreCase := false, multiLine := false, dotAll := false, unicode := true, crlf := false, swapGreed := false,
    spaced := false }

/-- Sets or clears the flag with a letter. -/
def put? (f : Flags) (letter : Char) (on : Bool) : Option Flags :=
  match letter with
  | 'i' => some { f with ignoreCase := on }
  | 'm' => some { f with multiLine := on }
  | 's' => some { f with dotAll := on }
  | 'U' => some { f with swapGreed := on }
  | 'u' => some { f with unicode := on }
  | 'R' => some { f with crlf := on }
  | 'x' => some { f with spaced := on }
  | _ => none

/-- The characters of words. -/
def word (f : Flags) : CharSet :=
  if f.unicode then .named .word else .asciiWord

/-- A set with the case variants of its characters, if case is ignored. -/
def fold (f : Flags) (s : CharSet) : CharSet :=
  if !f.ignoreCase then s else if f.unicode then .fold s else .foldAscii s

/-- The complement of a set, if it is asked for; without Unicode it would reach beyond ASCII and is
refused. -/
def complement? (f : Flags) (negated : Bool) (s : CharSet) : Option CharSet :=
  if !negated then some s else if f.unicode then some (.compl s) else none

/-- The dot. -/
def dot? (f : Flags) : Option CharSet :=
  if !f.unicode then none
  else if f.dotAll then some .all
  else if f.crlf then some (.compl (.ofList ['\r', '\n']))
  else some (.compl (.single '\n'))

/-- A character outside brackets. -/
def literal (f : Flags) (c : Char) : CharSet :=
  if !f.ignoreCase then .single c
  else if f.unicode then
    match Unicode.caseVariants c with
    | [] => .single c
    | cs => .ofList cs
  else if c.isAlpha then .ofList [c, swapCase c]
  else .single c

/-- The start of the text or of a line. -/
def start (f : Flags) : Look :=
  if !f.multiLine then .textStart else if f.crlf then .lineStartCRLF else .lineStart

/-- The end of the text or of a line. -/
def stop (f : Flags) : Look :=
  if !f.multiLine then .textEnd else if f.crlf then .lineEndCRLF else .lineEnd

end Flags

/-- A part of a pattern that stands for one character or one condition. -/
inductive Atom
  | char (c : Char)
  | set (s : CharSet)
  | look (l : Look)

/-- Skips blanks and comments; inside a comment everything up to the end of the line. -/
def skipBlanks : Bool → List Char → List Char
  | _, [] => []
  | true, c :: cs => skipBlanks (c != '\n') cs
  | false, c :: cs =>
    if isBlank c then skipBlanks false cs
    else if c = '#' then skipBlanks true cs
    else c :: cs

namespace Flags

/-- Skips what has no meaning. -/
def skip (f : Flags) (cs : List Char) : List Char :=
  if f.spaced then skipBlanks false cs else cs

end Flags

/-- Exactly `count` hexadecimal digits. -/
def fixedHex (f : Flags) : Nat → Nat → List Char → Option (Nat × List Char)
  | 0, n, cs => some (n, f.skip cs)
  | count + 1, n, cs =>
    match f.skip cs with
    | [] => none
    | c :: cs => do fixedHex f count (16 * n + (← hexValue? c)) cs

/-- Hexadecimal digits up to a closing brace, at least one. -/
def bracedHex (f : Flags) : Nat → Option Nat → List Char → Option (Nat × List Char)
  | 0, _, _ => none
  | fuel + 1, n?, cs =>
    match f.skip cs with
    | [] => none
    | '\x7d' :: cs => n?.map fun n => (n, f.skip cs)
    | c :: cs => do bracedHex f fuel (some (min (16 * n?.getD 0 + (← hexValue? c)) 0x110000)) cs

/-- The character of an escape by number, behind its letter. Without Unicode two digits stand for a byte, and
bytes beyond ASCII are refused. -/
def hexEscape (f : Flags) (digits : Nat) (cs : List Char) : Option (Char × List Char) :=
  match f.skip cs with
  | '\x7b' :: cs => do
    let (n, cs) ← bracedHex f (cs.length + 1) none cs
    pure (← scalar? n, cs)
  | cs => do
    let (n, cs) ← fixedHex f digits 0 cs
    let c ← scalar? n
    if !f.unicode && digits == 2 && 0x7f < n then none else pure (c, cs)

/-- The name of a class as it is compared: in lower case, without blanks, hyphens, underscores, characters
beyond ASCII and the word `is` at its start. -/
def plainName (name : List Char) : String :=
  let (isNamed, rest) := match name with
    | i :: s :: rest =>
      if (i = 'i' ∨ i = 'I') ∧ (s = 's' ∨ s = 'S') then (true, rest) else (false, name)
    | _ => (false, name)
  let keep (c : Char) : Option Char :=
    if c = ' ' ∨ c = '_' ∨ c = '-' ∨ 0x7f < c.toNat then none else some c.toLower
  let plain := String.ofList (rest.filterMap keep)
  if isNamed && plain == "c" then "isc" else plain

/-- The class of the general category with a name, or one of the three that go with them. -/
def categoryNamed? (name : String) : Option CharSet :=
  match name with
  | "any" => some .all
  | "assigned" => some (.compl (.named (.categories [.unassigned])))
  | "ascii" => some (.range '\x00' '\x7f')
  | name => (Category.named? name).map fun gs => .named (.categories gs)

/-- The class, if it is known. -/
def known? (k : NamedClass) : Option CharSet :=
  k.set?.map fun _ => .named k

/-- The class with a name: a property, a general category or a script. Three short names belong to categories
although properties share them. -/
def classNamed? (name : String) : Option CharSet :=
  let property? :=
    if ["cf", "sc", "lc"].contains name then none
    else (Property.named? name).map fun p => CharSet.named (.property p)
  property? <|> categoryNamed? name <|> known? (.script name)

/-- Splits the text of a class at its first sign of equality: `!=` first, then `:`, then `=`. -/
def splitAtEquals (text : List Char) : Option (List Char × List Char) :=
  let bang := (List.range text.length).find? fun i => (text.drop i).take 2 == ['!', '=']
  match bang, text.idxOf? ':', text.idxOf? '=' with
  | some i, _, _ => some (text.take i, text.drop (i + 2))
  | none, some i, _ => some (text.take i, text.drop (i + 1))
  | none, none, some i => some (text.take i, text.drop (i + 1))
  | none, none, none => none

/-- The class that a text between braces stands for: a name, or a kind of class and a name. -/
def classText? (text : List Char) : Option CharSet :=
  match splitAtEquals text with
  | none => classNamed? (plainName text)
  | some (kind, name) =>
    let name := plainName name
    match plainName kind with
    | "gc" | "generalcategory" => categoryNamed? name
    | "sc" | "script" => known? (.script name)
    | "scx" | "scriptextensions" => known? (.usedBy name)
    | "age" => known? (.edition name)
    | "gcb" | "graphemeclusterbreak" => known? (.graphemeBreak name)
    | "wb" | "wordbreak" => known? (.wordBreak name)
    | "sb" | "sentencebreak" => known? (.sentenceBreak name)
    | _ => none

/-- The text up to a closing brace. -/
def bracedText (f : Flags) : Nat → List Char → List Char → Option (List Char × List Char)
  | 0, _, _ => none
  | fuel + 1, text, cs =>
    match f.skip cs with
    | [] => none
    | '\x7d' :: cs => some (text.reverse, cs)
    | c :: cs => bracedText f fuel (c :: text) cs

/-- A class of Unicode, behind its letter. -/
def unicodeClass (f : Flags) (negated : Bool) (cs : List Char) : Option (CharSet × List Char) :=
  if !f.unicode then none
  else do
    let (s, cs) ← match f.skip cs with
      | [] => none
      | '\x7b' :: cs => do
        let (text, cs) ← bracedText f (cs.length + 1) [] cs
        pure (← classText? text, cs)
      | c :: cs => if c = '\\' then none else do pure (← classNamed? (plainName [c]), f.skip cs)
    pure (← f.complement? negated (f.fold s), cs)

/-- One of the classes with a letter of their own. -/
def letterClass? (f : Flags) (letter : Char) : Option CharSet :=
  let pick (unicode ascii : CharSet) : CharSet := if f.unicode then unicode else ascii
  match letter with
  | 'd' | 'D' => f.complement? (letter == 'D') (pick (.named .digit) .asciiDigit)
  | 's' | 'S' => f.complement? (letter == 'S') (pick (.named .blank) .asciiBlank)
  | _ => f.complement? (letter == 'W') (pick (.named .word) .asciiWord)

/-- The letters of a condition between braces, up to the closing brace. -/
def conditionName (f : Flags) : Nat → List Char → List Char → Option (String × List Char)
  | 0, _, _ => none
  | fuel + 1, name, cs =>
    match f.skip cs with
    | '\x7d' :: cs => some (String.ofList name.reverse, cs)
    | c :: cs => if c.isAlpha ∨ c = '-' then conditionName f fuel (c :: name) cs else none
    | [] => none

/-- A word boundary, behind its letter. Braces with letters say which one is meant; other braces do not
belong to it. -/
def boundary (f : Flags) (cs : List Char) : Option (Look × List Char) :=
  match cs with
  | '\x7b' :: inner =>
    match f.skip inner with
    | [] => none
    | c :: rest =>
      if !(c.isAlpha || c == '-') then some (.wordBoundary, cs)
      else do
        let (name, cs) ← conditionName f (rest.length + 2) [] (c :: rest)
        match name with
        | "start" => some (.wordStart, cs)
        | "end" => some (.wordEnd, cs)
        | "start-half" => some (.wordStartHalf, cs)
        | "end-half" => some (.wordEndHalf, cs)
        | _ => none
  | _ => some (.wordBoundary, cs)

/-- Whether a backslash before the character leaves it as it is: so with every character of ASCII but
letters, digits and angle brackets. -/
def isPlainEscape (c : Char) : Bool :=
  c.toNat < 0x80 && !c.isAlphanum && c != '<' && c != '>'

/-- The character of an escape by a single letter. -/
def controlEscape? : Char → Option Char
  | 'a' => some '\x07'
  | 'f' => some '\x0c'
  | 't' => some '\t'
  | 'n' => some '\n'
  | 'r' => some '\r'
  | 'v' => some '\x0b'
  | _ => none

/-- The condition of an escape by a single letter. -/
def lookEscape? : Char → Option Look
  | 'A' => some .textStart
  | 'z' => some .textEnd
  | 'B' => some .notWordBoundary
  | '<' => some .wordStart
  | '>' => some .wordEnd
  | _ => none

/-- An escape, behind its backslash. -/
def escape (f : Flags) : List Char → Option (Atom × List Char)
  | [] => none
  | c :: cs =>
    match c with
    | 'x' => (hexEscape f 2 cs).map fun (c, cs) => (.char c, cs)
    | 'u' => (hexEscape f 4 cs).map fun (c, cs) => (.char c, cs)
    | 'U' => (hexEscape f 8 cs).map fun (c, cs) => (.char c, cs)
    | 'p' => (unicodeClass f false cs).map fun (s, cs) => (.set s, cs)
    | 'P' => (unicodeClass f true cs).map fun (s, cs) => (.set s, cs)
    | 'd' | 's' | 'w' | 'D' | 'S' | 'W' => (letterClass? f c).map fun s => (.set s, cs)
    | 'b' => (boundary f cs).map fun (l, cs) => (.look l, cs)
    | c =>
      if isPlainEscape c then some (.char c, cs)
      else
        (controlEscape? c).map (fun x => (Atom.char x, cs)) <|>
          (lookEscape? c).map fun l => (.look l, cs)

end ImportLint.Pattern
