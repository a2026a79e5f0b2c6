import ImportLint.Unicode.Boundary
import ImportLint.Unicode.CaseFold
import ImportLint.Unicode.Edition

/-!
# Sets of characters

Sets as patterns write them: ranges, named classes, and what can be made of those by union, intersection,
difference, complement and closure under case. `CharSet.has` says which characters are in a set, `CharSet.ranges`
lists them.
-/

namespace ImportLint

/-- A class of characters with a name. -/
inductive NamedClass
  /-- Decimal digits of any script. -/
  | digit
  /-- Blanks of any script. -/
  | blank
  /-- Characters of words of any script. -/
  | word
  | property (p : Unicode.Property)
  | categories (gs : List Unicode.Category)
  /-- The characters of the script with a name. -/
  | script (name : String)
  /-- The characters that the script with a name uses, be they its own or not. -/
  | usedBy (name : String)
  /-- The characters of the edition of the standard with a name and of those before it. -/
  | edition (name : String)
  /-- The classes of characters by which texts are split, with their names. -/
  | graphemeBreak (name : String)
  | wordBreak (name : String)
  | sentenceBreak (name : String)
  deriving DecidableEq, Repr

namespace NamedClass

/-- The code points of the class; none if it is unknown. -/
def set? : NamedClass → Option Unicode.CodeSet
  | digit => some (Unicode.Category.set .decimalNumber)
  | blank => some (Unicode.Property.set .whiteSpace)
  | word => some Unicode.wordSet
  | property p => some p.set
  | categories gs => some (Unicode.Category.setOf gs)
  | script name => (Unicode.Script.named? name).map fun s => .table s.codes
  | usedBy name => (Unicode.Script.named? name).map Unicode.Script.usedSet
  | edition name => Unicode.Edition.setNamed? name
  | graphemeBreak name => Unicode.graphemeBreak? name
  | wordBreak name => Unicode.wordBreak? name
  | sentenceBreak name => Unicode.sentenceBreak? name

/-- Whether a character is in the class. -/
def has (k : NamedClass) (c : Char) : Bool := k.set?.any fun s => s.has c.toNat

/-- The code points of the class. -/
def ranges (k : NamedClass) : Unicode.Ranges := k.set?.elim [] Unicode.CodeSet.ranges

end NamedClass

/-- A set of characters. -/
inductive CharSet
  | empty
  /-- The characters from `lo` to `hi`, both included. -/
  | range (lo hi : Char)
  | named (k : NamedClass)
  | union (a b : CharSet)
  | inter (a b : CharSet)
  | diff (a b : CharSet)
  | symmDiff (a b : CharSet)
  | compl (a : CharSet)
  /-- The characters that differ from one of the set in case only. -/
  | fold (a : CharSet)
  /-- The same among the letters of ASCII. -/
  | foldAscii (a : CharSet)
  deriving DecidableEq, Repr

/-- A letter of ASCII in the other case; any other character as it is. -/
def swapCase (c : Char) : Char :=
  if c.isUpper then c.toLower else if c.isLower then c.toUpper else c

namespace CharSet

/-- Whether a character is in the set. -/
def has : CharSet → Char → Bool
  | empty, _ => false
  | range lo hi, c => lo ≤ c && c ≤ hi
  | named k, c => k.has c
  | union a b, c => a.has c || b.has c
  | inter a b, c => a.has c && b.has c
  | diff a b, c => a.has c && !b.has c
  | symmDiff a b, c => a.has c != b.has c
  | compl a, c => !a.has c
  | fold a, c => a.has c || (Unicode.caseVariants c).any a.has
  | foldAscii a, c => a.has c || a.has (swapCase c)

/-- The set of one character. -/
def single (c : Char) : CharSet := range c c

theorem has_single_iff {c d : Char} : (single c).has d = true ↔ d = c := by
  rw [single, has, Bool.and_eq_true, decide_eq_true_eq, decide_eq_true_eq]
  constructor
  · rintro ⟨hle, hge⟩
    exact Char.le_antisymm hge hle
  · rintro rfl
    exact ⟨Char.le_refl d, Char.le_refl d⟩

/-- The set of the characters in a list. -/
def ofList : List Char → CharSet
  | [] => empty
  | [c] => single c
  | c :: cs => union (single c) (ofList cs)

/-- The union of a list of sets. -/
def unionAll : List CharSet → CharSet
  | [] => empty
  | [a] => a
  | a :: as => union a (unionAll as)

/-- Every character. -/
def all : CharSet := compl empty

/-- The digits of ASCII. -/
def asciiDigit : CharSet := range '0' '9'

/-- The blanks of ASCII. -/
def asciiBlank : CharSet := union (range '\t' '\r') (single ' ')

/-- The letters and digits of ASCII and the underscore. -/
def asciiWord : CharSet :=
  unionAll [range '0' '9', range 'A' 'Z', single '_', range 'a' 'z']

/-- The classes of ASCII characters that have a name in brackets. -/
def ascii? : String → Option CharSet
  | "alnum" => some (unionAll [range '0' '9', range 'A' 'Z', range 'a' 'z'])
  | "alpha" => some (union (range 'A' 'Z') (range 'a' 'z'))
  | "ascii" => some (range '\x00' '\x7f')
  | "blank" => some (ofList ['\t', ' '])
  | "cntrl" => some (union (range '\x00' '\x1f') (single '\x7f'))
  | "digit" => some asciiDigit
  | "graph" => some (range '!' '~')
  | "lower" => some (range 'a' 'z')
  | "print" => some (range ' ' '~')
  | "punct" => some (unionAll [range '!' '/', range ':' '@', range '[' '\x60', range '\x7b' '~'])
  | "space" => some asciiBlank
  | "upper" => some (range 'A' 'Z')
  | "word" => some asciiWord
  | "xdigit" => some (unionAll [range '0' '9', range 'A' 'F', range 'a' 'f'])
  | _ => none

/-- The letters of ASCII, each with the other case. -/
def asciiCases : List (List Char) :=
  (List.range 26).map fun i => [Char.ofNat (0x41 + i), Char.ofNat (0x61 + i)]

/-- Adds to ranges all classes with a member in them. -/
def foldBy (classes : List (List Char)) (rs : Unicode.Ranges) : Unicode.Ranges :=
  (classes.filter fun cs => cs.any fun c => rs.contains c.toNat).foldr
    (fun cs rs => .union (cs.map fun c => (c.toNat, c.toNat)) rs) rs

/-- The code points of the set, surrogates perhaps among them. -/
def ranges : CharSet → Unicode.Ranges
  | empty => []
  | range lo hi => if lo ≤ hi then [(lo.toNat, hi.toNat)] else []
  | named k => k.ranges
  | union a b => a.ranges.union b.ranges
  | inter a b => a.ranges.inter b.ranges
  | diff a b => a.ranges.diff b.ranges
  | symmDiff a b => a.ranges.symmDiff b.ranges
  | compl a => a.ranges.compl
  | fold a => foldBy Unicode.caseClasses a.ranges
  | foldAscii a => foldBy asciiCases a.ranges

end CharSet

end ImportLint
