import ImportLint.Document.Tree
import ImportLint.Text.Decimal
import ImportLint.Toml.Text

/-!
# Numbers and dates of TOML

Integers of sixty-four bits in four bases, binary64 numbers, and dates with their times. A date is a table with
a single member.
-/

namespace ImportLint.Toml

open Document (Tree)
open Text (Binary64)

/-- The value of a digit, if it is one in the base. -/
def digit? (base : Nat) (c : Char) : Option Nat :=
  (Text.hexValue? c).filter (· < base)

/-- Digits with single underscores between them, as far as they go. -/
def digitRun (base : Nat) : List Char → List Nat × List Char
  | '_' :: c :: cs =>
    match digit? base c with
    | some d => let (ds, rest) := digitRun base cs; (d :: ds, rest)
    | none => ([], '_' :: c :: cs)
  | c :: cs =>
    match digit? base c with
    | some d => let (ds, rest) := digitRun base cs; (d :: ds, rest)
    | none => ([], c :: cs)
  | [] => ([], [])

/-- At least one digit, with single underscores between digits. -/
def digits (base : Nat) : List Char → Option (List Nat × List Char)
  | c :: cs => do
    let d ← digit? base c
    let (ds, rest) := digitRun base cs
    pure (d :: ds, rest)
  | [] => none

/-- Digits of a decimal integer: a lone zero, or digits of which the first is not zero. -/
def wholeDigits : List Char → Option (List Nat × List Char)
  | '0' :: cs => some ([0], cs)
  | cs => digits 10 cs

/-- The number that digits write. -/
def ofDigits (base : Nat) (ds : List Nat) : Nat := ds.foldl (fun n d => base * n + d) 0

/-- An integer, if it fits sixty-four bits. -/
def int? (n : Int) : Option Tree :=
  if -0x8000000000000000 ≤ n ∧ n ≤ 0x7fffffffffffffff then some (.int n) else none

/-- An integer in another base, behind its prefix. -/
def prefixedInt (base : Nat) (cs : List Char) : Option (Tree × List Char) := do
  let (ds, cs) ← digits base cs
  pure (← int? (ofDigits base ds), cs)

/-- The text of a binary64 number as messages show it; beyond the largest number only negative ones are
accepted. -/
def float? (negative : Bool) (significand : Nat) (exponent : Int) : Option Tree :=
  let places : Int := (Nat.toDigits 10 significand).length + exponent
  let x? : Option Binary64 :=
    if significand = 0 ∨ places < -400 then some Binary64.zero
    else if 400 < places then none
    else Binary64.ofDecimal ⟨significand, exponent⟩
  let sign := if negative then ['-'] else []
  match x? with
  | some x => some (.float (String.ofList (sign ++ x.shortest.positional)))
  | none => if negative then some (.float "-inf") else none

/-- A sign. -/
def takeSign : List Char → Bool × List Char
  | '+' :: cs => (false, cs)
  | '-' :: cs => (true, cs)
  | cs => (false, cs)

/-- An exponent, behind its letter. -/
def exponent (cs : List Char) : Option (Int × List Char) := do
  let (negative, cs) := takeSign cs
  let (ds, cs) ← digits 10 cs
  let n : Int := ofDigits 10 ds
  pure (if negative then -n else n, cs)

/-- What follows the digits before the point: an optional exponent. -/
def takeExponent : List Char → Option (Int × List Char)
  | 'e' :: cs => exponent cs
  | 'E' :: cs => exponent cs
  | cs => some (0, cs)

/-- A decimal number, behind its sign. -/
def decimal (negative : Bool) (cs : List Char) : Option (Tree × List Char) := do
  let (whole, cs) ← wholeDigits cs
  match cs with
  | '.' :: cs => do
    let (fraction, cs) ← digits 10 cs
    let (e, cs) ← takeExponent cs
    pure (← float? negative (ofDigits 10 (whole ++ fraction)) (e - fraction.length), cs)
  | 'e' :: cs => do
    let (e, cs) ← exponent cs
    pure (← float? negative (ofDigits 10 whole) e, cs)
  | 'E' :: cs => do
    let (e, cs) ← exponent cs
    pure (← float? negative (ofDigits 10 whole) e, cs)
  | cs =>
    let n : Int := ofDigits 10 whole
    pure (← int? (if negative then -n else n), cs)

/-- A number. -/
def number : List Char → Option (Tree × List Char)
  | '0' :: 'x' :: cs => prefixedInt 16 cs
  | '0' :: 'o' :: cs => prefixedInt 8 cs
  | '0' :: 'b' :: cs => prefixedInt 2 cs
  | cs =>
    let (negative, cs) := takeSign cs
    match cs with
    | 'i' :: 'n' :: 'f' :: cs => some (.float (if negative then "-inf" else "inf"), cs)
    | 'n' :: 'a' :: 'n' :: cs => some (.float "NaN", cs)
    | cs => decimal negative cs

/-- Exactly `count` decimal digits, between two limits. -/
def fixedDigits (count low high : Nat) (cs : List Char) : Option (Nat × List Char) :=
  let ds := cs.take count
  if ds.length = count ∧ ds.all Char.isDigit then
    let n := ofDigits 10 (ds.map fun c => c.toNat - '0'.toNat)
    if low ≤ n ∧ n ≤ high then some (n, cs.drop count) else none
  else none

/-- Takes a character. -/
def expect? (c : Char) : List Char → Option (List Char)
  | x :: cs => if x = c then some cs else none
  | [] => none

/-- The number of days of a month. -/
def daysOf (year month : Nat) : Nat :=
  if month = 2 then if year % 4 = 0 ∧ (year % 100 ≠ 0 ∨ year % 400 = 0) then 29 else 28
  else if month = 4 ∨ month = 6 ∨ month = 9 ∨ month = 11 then 30
  else 31

/-- Takes a date. -/
def date? (cs : List Char) : Option (List Char) := do
  let (year, cs) ← fixedDigits 4 0 9999 cs
  let (month, cs) ← fixedDigits 2 1 12 (← expect? '-' cs)
  let (_, cs) ← fixedDigits 2 1 (daysOf year month) (← expect? '-' cs)
  pure cs

/-- Takes the fraction of a second, if there is one. -/
def fraction? : List Char → Option (List Char)
  | '.' :: c :: cs => if c.isDigit then some (cs.dropWhile Char.isDigit) else none
  | '.' :: [] => none
  | cs => some cs

/-- Takes a time. -/
def time? (cs : List Char) : Option (List Char) := do
  let (_, cs) ← fixedDigits 2 0 23 cs
  let (_, cs) ← fixedDigits 2 0 59 (← expect? ':' cs)
  let (_, cs) ← fixedDigits 2 0 60 (← expect? ':' cs)
  fraction? cs

/-- Takes an offset from universal time, if there is one. -/
def offset? : List Char → Option (List Char)
  | 'Z' :: cs => some cs
  | 'z' :: cs => some cs
  | c :: cs =>
    if c = '+' ∨ c = '-' then do
      let (_, cs) ← fixedDigits 2 0 23 cs
      let (_, cs) ← fixedDigits 2 0 59 (← expect? ':' cs)
      pure cs
    else some (c :: cs)
  | [] => some []

/-- Takes a date with a time, a date or a time. -/
def dateTime? (cs : List Char) : Option (List Char) :=
  match date? cs with
  | none => time? cs
  | some rest =>
    match rest with
    | c :: cs =>
      if c = 'T' ∨ c = 't' ∨ c = ' ' then (time? cs >>= offset?).or (some rest) else some rest
    | [] => some []

/-- The key of the only member of a date. -/
def dateKey : String := "$__toml_private_datetime"

/-- A date or time as a value. -/
def dateTime (cs : List Char) : Option (Tree × List Char) :=
  (dateTime? cs).map fun rest =>
    (.table [(.text dateKey, .text (String.ofList (cs.take (cs.length - rest.length))))] .closed, rest)

end ImportLint.Toml
