import ImportLint.Pattern.Outline

/-!
# Sizes of automata

How many bytes the automata for a pattern take: one reads a text forwards and keeps the ends of groups, the other reads
it backwards. A state takes 32 bytes, with 8 for each range of bytes and 4 for each way on where it has a list of them.
A pattern is refused if one of its automata is larger than `sizeLimit` (`Outline.fits`).
-/

namespace ImportLint.Pattern

open Unicode (Ranges)

/-- How large an automaton may be, in bytes. -/
def sizeLimit : Nat := 10 * 1024 * 1024

/-- The direction in which an automaton reads. -/
inductive Direction
  | forward
  | backward
  deriving DecidableEq, Repr

/-- The size of an automaton for one of the characters in some ranges. States with the same left to read are shared. One
that reads forwards has a list of ranges in each state; one that reads backwards has a state for each range. -/
def classSize (d : Direction) (rs : Ranges) : Nat :=
  if rs.all fun r => r.2 < 0x80 then 64 + 8 * rs.length
  else
    let ss := Unicode.sequences rs
    match d with
    | .forward =>
      32 + totalOf (fun s => 32 + 8 * (Unicode.branches s).length) (Unicode.states 4 ss).eraseDups
    | .backward => 64 + 4 * ss.length + 32 * Unicode.unsharedFrom [] ss

/-- The bytes of a literal in the order in which they are read. -/
def literalBytes (d : Direction) (cs : List Char) : List Nat :=
  let bytes := cs.flatMap fun c => Unicode.encode (c.utf8Size - 1) c.toNat
  match d with
  | .forward => bytes
  | .backward => bytes.reverse

/-- The size of the states that choose between words with the same beginning, of which the rest is given; `fuel` exceeds
the length of the longest. A word that ends here parts the words before it from those behind. -/
def trieSize : Nat → List (List Nat) → Nat
  | 0, _ => 0
  | fuel + 1, words =>
    if words.all List.isEmpty then 0
    else
      let chunks := words.splitOnP List.isEmpty
      let chunkSize (chunk : List (List Nat)) : Nat :=
        let firsts := (chunk.filterMap List.head?).eraseDups
        let behind (b : Nat) := (chunk.filter fun w => w.head? == some b).map List.tail
        (if firsts.length ≤ 1 then 32 * firsts.length else 32 + 8 * firsts.length) +
          totalOf (fun b => trieSize fuel (behind b)) firsts
      32 + 4 * ((chunks.filter fun chunk => !chunk.isEmpty).length + (chunks.length - 1)) + totalOf chunkSize chunks

/-- The size of a repetition of something of size `n`; `consumes` tells that it takes a character. -/
def repSize (n : Nat) (consumes : Bool) (min : Nat) (max? : Option Nat) : Nat :=
  match max? with
  | none => if min = 0 then n + (if consumes then 40 else 112) else min * n + 40
  | some max =>
    if min = 0 ∧ max = 1 then n + 72
    else if min = max then min * n
    else (if min = 0 then 32 else min * n) + 32 + (max - min) * (n + 40)

namespace Outline

/-- The characters of a literal. -/
def literal? : Outline → Option (List Char)
  | literal cs => some cs
  | _ => none

/-- The literals of an expression that is one of several literals. -/
def literals? (r : Outline) : Option (List (List Char)) :=
  if r.alternatives.length ≤ 1 then none else r.alternatives.mapM literal?

/-- The size of an expression whose alternatives have the sizes `ns`. -/
def sizeFrom (d : Direction) (r : Outline) (ns : List Nat) : Nat :=
  match r.literals? with
  | some ls =>
    let words := ls.map (literalBytes d)
    32 + trieSize ((words.map List.length).foldl max 0 + 1) words
  | none =>
    match ns with
    | [n] => n
    | ns => 64 + 4 * ns.length + totalOf id ns

/-- The sizes of the alternatives of an expression. -/
def sizes (d : Direction) : Outline → List Nat
  | empty | look .. => [32]
  | literal cs => [32 * (literalBytes d cs).length]
  | chars rs => [classSize d rs]
  | rep r min max? _ => [repSize (r.sizeFrom d (r.sizes d)) (r.minLength?.any (0 < ·)) min max?]
  | capture _ r => [r.sizeFrom d (r.sizes d) + if d = .forward then 64 else 0]
  | cat r s => [r.sizeFrom d (r.sizes d) + s.sizeFrom d (s.sizes d)]
  | alt r s => r.sizeFrom d (r.sizes d) :: s.sizes d

/-- Whether every match has the condition where an automaton begins to read. -/
def beginsWith (d : Direction) (l : Look) : Outline → Bool
  | look l' _ => l == l'
  | rep r min .. => 0 < min && r.beginsWith d l
  | capture _ r => r.beginsWith d l
  | cat r s =>
    match d with
    | .forward => r.beginsWith d l || r.isZeroWidth && s.beginsWith d l
    | .backward => s.beginsWith d l || s.isZeroWidth && r.beginsWith d l
  | alt r s => r.beginsWith d l && s.beginsWith d l
  | _ => false

/-- The size of the automaton for a whole pattern: the loop before it, the pattern and its end. -/
def automatonSize (d : Direction) (r : Outline) : Nat :=
  let size := r.sizeFrom d (r.sizes d)
  match d with
  | .forward => (if r.beginsWith d .textStart then 32 else 112) + 64 + size + 32
  | .backward => (if r.beginsWith d .textEnd then 32 else 112) + size + 32

/-- Whether a pattern is small enough. Many literals need no automaton of this kind, however long they are. -/
def fits (r : Outline) : Bool :=
  (r.literals?.any fun ls => 3000 ≤ ls.length) ||
    r.automatonSize .forward ≤ sizeLimit && r.automatonSize .backward ≤ sizeLimit

end Outline

end ImportLint.Pattern
