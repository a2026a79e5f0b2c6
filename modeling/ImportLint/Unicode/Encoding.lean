import ImportLint.Unicode.Ranges

/-!
# Encoded ranges

Ranges of characters as an automaton over the bytes of UTF-8 sees them: sequences with one range of bytes for each
byte of a character. A range of characters is split until each part is all that one such sequence stands for.
-/

namespace ImportLint.Unicode

/-- The ranges of the first, second and further bytes of characters. -/
abbrev ByteRanges := List (Nat × Nat)

/-- The last `k` bytes of a character of more than `k` bytes. -/
def continuation : Nat → Nat → List Nat
  | 0, _ => []
  | k + 1, n => (0x80 + n >>> (6 * k) % 64) :: continuation k n

/-- The bytes of a character whose first byte has `k` others behind it. -/
def encode (k n : Nat) : List Nat :=
  let lead := match k with
    | 0 => 0
    | 1 => 0xC0
    | 2 => 0xE0
    | _ => 0xF0
  (lead + n >>> (6 * k)) :: continuation k n

/-- Splits a range that reaches into several blocks of `size` code points: the blocks that lie within it stay together,
what it has of the blocks at its ends comes before and behind. -/
def splitBlocks (size : Nat) (r : Nat × Nat) : Ranges :=
  let first := (r.1 + size - 1) / size * size
  let last := (r.2 + 1) / size * size
  if r.1 / size = r.2 / size then [r]
  else
    (if r.1 < first then [(r.1, first - 1)] else []) ++
      (if first < last then [(first, last - 1)] else []) ++
        if last ≤ r.2 then [(last, r.2)] else []

/-- The sequences of a range of characters whose first bytes have `k` others behind them. -/
def sequencesOf (k : Nat) (r : Nat × Nat) : List ByteRanges :=
  let parts := (List.range k).foldl (fun rs i => rs.flatMap (splitBlocks (64 <<< (6 * i)))) [r]
  parts.map fun r => (encode k r.1).zip (encode k r.2)

/-- The characters by the number of bytes behind their first byte; the surrogates are left out. -/
def encodedRanges : List (Nat × Nat × Nat) :=
  [(0, 0, 0x7F), (1, 0x80, 0x7FF), (2, 0x800, 0xD7FF), (2, 0xE000, 0xFFFF), (3, 0x10000, 0x10FFFF)]

/-- The sequences of all characters in the ranges, in ascending order. -/
def sequences (rs : Ranges) : List ByteRanges :=
  rs.flatMap fun r => encodedRanges.flatMap fun (k, lo, hi) =>
    if max lo r.1 ≤ min hi r.2 then sequencesOf k (max lo r.1, min hi r.2) else []

/-- The sequences by their first range, which is taken away from them. -/
def branches : List ByteRanges → List ((Nat × Nat) × List ByteRanges)
  | [] => []
  | [] :: ss => branches ss
  | (r :: s) :: ss =>
    match branches ss with
    | [] => [(r, [s])]
    | (r', ss) :: bs => if r = r' then (r, s :: ss) :: bs else (r, [s]) :: (r', ss) :: bs

/-- The states in which an automaton reads sequences from their first byte on, each told by what is left to read; `depth`
is the greatest number of bytes. -/
def states : Nat → List ByteRanges → List (List ByteRanges)
  | 0, _ => []
  | depth + 1, ss =>
    match branches ss with
    | [] => []
    | bs => ss :: bs.flatMap fun b => states depth b.2

/-- How many ranges there are in sequences when those shared with the sequence before are not counted again. -/
def unsharedFrom : ByteRanges → List ByteRanges → Nat
  | _, [] => 0
  | before, s :: ss =>
    s.length - ((before.zip s).takeWhile fun p => p.1 == p.2).length + unsharedFrom s ss

end ImportLint.Unicode
