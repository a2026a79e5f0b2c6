/-!
# Ranges of code points

Sets of code points given as ascending ranges, and the text form in which the tables of this library are
written: hexadecimal numbers and pairs of them, `41-5A 5F 61-7A`. A `CodeSet` is put together from such tables;
`CodeSet.has` decides one code point and leaves alone the tables it does not need, `CodeSet.ranges` lists them all.
-/

namespace ImportLint.Unicode

/-- Ranges of code points, both ends included, in ascending order. -/
abbrev Ranges := List (Nat × Nat)

/-- The value of a hexadecimal digit written with a capital letter; any other character counts as zero. -/
def hexDigit (c : Char) : Nat :=
  if '0' ≤ c ∧ c ≤ '9' then c.toNat - '0'.toNat
  else if 'A' ≤ c ∧ c ≤ 'F' then c.toNat - 'A'.toNat + 10
  else 0

namespace Ranges

/-- Reads on inside an entry: `start?` is the number before its hyphen, `n?` the number being read. Blanks and
line ends part the entries. -/
def readFrom : List Char → Option Nat → Option Nat → Ranges
  | [], start?, n? => (n?.map fun n => (start?.getD n, n)).toList
  | c :: cs, start?, n? =>
    if c = ' ' ∨ c = '\n' then
      match n? with
      | some n => (start?.getD n, n) :: readFrom cs none none
      | none => readFrom cs start? none
    else if c = '-' then readFrom cs n? none
    else readFrom cs start? (some (16 * n?.getD 0 + hexDigit c))

/-- The ranges that a table text lists. -/
def ofText (text : String) : Ranges :=
  readFrom text.toList none none

/-- Whether a code point lies in one of the ranges; the search ends at the first range above it. -/
def contains : Ranges → Nat → Bool
  | [], _ => false
  | (lo, hi) :: rest, n => if n < lo then false else n ≤ hi || contains rest n

/-- Puts a range among others, behind those that start below it; `next` has those to come. -/
def mergeAt (r : Nat × Nat) (next : Ranges → Ranges) : Ranges → Ranges
  | [] => r :: next []
  | s :: rest => if s.1 < r.1 then s :: mergeAt r next rest else r :: next (s :: rest)

/-- The ranges of both lists in the order of their starts. -/
def merge : Ranges → Ranges → Ranges
  | [], ss => ss
  | r :: rs, ss => mergeAt r (merge rs) ss

/-- Joins a range with those behind it that it touches or overlaps. -/
def joinTo : Nat × Nat → Ranges → Ranges
  | r, [] => [r]
  | r, s :: rest => if s.1 ≤ r.2 + 1 then joinTo (r.1, max r.2 s.2) rest else r :: joinTo s rest

/-- Joins ranges that touch or overlap, given in the order of their starts. -/
def join : Ranges → Ranges
  | [] => []
  | r :: rest => joinTo r rest

/-- The gaps between ranges from a code point on. -/
def gapsFrom (n : Nat) : Ranges → Ranges
  | [] => if n < 0x110000 then [(n, 0x10FFFF)] else []
  | (lo, hi) :: rest => if n < lo then (n, lo - 1) :: gapsFrom (hi + 1) rest else gapsFrom (hi + 1) rest

def union (rs ss : Ranges) : Ranges := (merge rs ss).join

/-- The code points outside the ranges. -/
def compl (rs : Ranges) : Ranges := rs.gapsFrom 0

def inter (rs ss : Ranges) : Ranges := (rs.compl.union ss.compl).compl

def diff (rs ss : Ranges) : Ranges := (rs.compl.union ss).compl

def symmDiff (rs ss : Ranges) : Ranges := (rs.diff ss).union (ss.diff rs)

end Ranges

/-- A set of code points put together from tables. -/
inductive CodeSet
  | table (rs : Ranges)
  | union (a b : CodeSet)
  | inter (a b : CodeSet)
  | diff (a b : CodeSet)
  | symmDiff (a b : CodeSet)
  | compl (a : CodeSet)

namespace CodeSet

/-- Whether a code point is in the set. -/
def has : CodeSet → Nat → Bool
  | table rs, n => rs.contains n
  | union a b, n => a.has n || b.has n
  | inter a b, n => a.has n && b.has n
  | diff a b, n => a.has n && !b.has n
  | symmDiff a b, n => a.has n != b.has n
  | compl a, n => !a.has n

/-- The code points of the set. -/
def ranges : CodeSet → Ranges
  | table rs => rs
  | union a b => a.ranges.union b.ranges
  | inter a b => a.ranges.inter b.ranges
  | diff a b => a.ranges.diff b.ranges
  | symmDiff a b => a.ranges.symmDiff b.ranges
  | compl a => a.ranges.compl

/-- The union of a list of sets. -/
def unionAll (as : List CodeSet) : CodeSet := as.foldr union (table [])

end CodeSet

end ImportLint.Unicode
