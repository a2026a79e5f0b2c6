/-!
# Decimal text of binary64 numbers

Non-negative binary64 numbers as `mantissa * 2 ^ exponent` in exact arithmetic: the nearest one to a ratio
(`nearest`), the shortest decimal that reads back (`shortest`), and two ways to write that decimal, always
positional (`positional`) or with an exponent where that is far shorter (`scientific`).
-/

namespace ImportLint.Text

/-- A finite non-negative binary64 number, `mantissa * 2 ^ exponent`. -/
structure Binary64 where
  mantissa : Nat
  exponent : Int
  deriving DecidableEq, Repr

/-- A decimal, `digits * 10 ^ exponent`. -/
structure Decimal where
  digits : Nat
  exponent : Int
  deriving DecidableEq, Repr

/-- Takes zeros off the end of the digits, as many as there are and at most `fuel`. -/
def Decimal.stripZeros : Nat → Decimal → Decimal
  | 0, x => x
  | fuel + 1, x =>
    if x.digits ≠ 0 ∧ x.digits % 10 = 0 then stripZeros fuel ⟨x.digits / 10, x.exponent + 1⟩ else x

/-- The same decimal without trailing zeros among its at most eighteen digits. -/
def Decimal.trim (x : Decimal) : Decimal := x.stripZeros 18

/-- The ratio `num / den` times `base ^ e`, as a ratio of naturals. -/
def scale (base : Nat) (num den : Nat) (e : Int) : Nat × Nat :=
  match e with
  | .ofNat k => (num * Nat.pow base k, den)
  | .negSucc k => (num, den * Nat.pow base (k + 1))

/-- The quotient rounded to the nearest natural, a half going to the even neighbour. -/
def roundHalfEven (num den : Nat) : Nat :=
  let q := num / den
  let r := num % den
  if 2 * r < den then q
  else if den < 2 * r then q + 1
  else if q % 2 = 0 then q else q + 1

namespace Binary64

def zero : Binary64 := ⟨0, 0⟩

/-- The number as a ratio. -/
def ratio (x : Binary64) : Nat × Nat :=
  scale 2 x.mantissa 1 x.exponent

/-- The exponent of the grid on which a positive ratio is rounded: fifty-three binary digits, fewer for the
smallest numbers. -/
def gridExponent (num den : Nat) : Int :=
  let e : Int := (num.log2 : Int) - (den.log2 : Int) - 52
  let (n, d) := scale 2 num den (-e)
  max (if n / d < Nat.pow 2 52 then e - 1 else e) (-1074)

/-- The nearest number to a ratio, a tie going to the even mantissa; `none` beyond the largest number. -/
def nearest (num den : Nat) : Option Binary64 :=
  if num = 0 then some zero
  else
    let e := gridExponent num den
    let (n, d) := scale 2 num den (-e)
    let m := roundHalfEven n d
    let (m, e) := if m = Nat.pow 2 53 then (Nat.pow 2 52, e + 1) else (m, e)
    if m = 0 then some zero
    else if 971 < e then none
    else some ⟨m, e⟩

/-- The nearest number to a product. -/
def mul (x y : Binary64) : Option Binary64 :=
  let (a, b) := x.ratio
  let (c, d) := y.ratio
  nearest (a * c) (b * d)

/-- The nearest number to a quotient; a zero divisor is never asked for. -/
def div (x y : Binary64) : Option Binary64 :=
  let (a, b) := x.ratio
  let (c, d) := y.ratio
  nearest (a * d) (b * c)

/-- The nearest number to a natural. -/
def ofNat (n : Nat) : Option Binary64 := nearest n 1

/-- The nearest number to a decimal. -/
def ofDecimal (x : Decimal) : Option Binary64 :=
  let (n, d) := scale 10 x.digits 1 x.exponent
  nearest n d

/-- How often a numerator below `den` can be multiplied by ten and stay below it; binary64 needs at most
324 steps. -/
def leadingZeros (den : Nat) : Nat → Nat → Nat
  | 0, _ => 0
  | fuel + 1, num => if den ≤ 10 * num then 0 else leadingZeros den fuel (10 * num) + 1

/-- The place of the leading digit: `10 ^ (magnitude - 1) ≤ x < 10 ^ magnitude` for a positive ratio. -/
def magnitude (num den : Nat) : Int :=
  if den ≤ num then (Nat.toDigits 10 (num / den)).length
  else -(leadingZeros den 324 num : Int)

/-- The decimals with `places` digits next to the number, lower one first. -/
def neighbours (x : Binary64) (places : Nat) : Decimal × Decimal × Bool :=
  let (num, den) := x.ratio
  let e := magnitude num den - places
  let (n, d) := scale 10 num den (-e)
  (⟨n / d, e⟩, ⟨n / d + 1, e⟩, 2 * (n % d) ≤ d)

/-- The first grid from `places` digits on that has a decimal next to the number that reads back; of two
such decimals the nearer one. -/
def searchShortest (x : Binary64) : Nat → Nat → Decimal
  | 0, places => (x.neighbours places).1
  | fuel + 1, places =>
    let (lo, hi, lowerIsNearer) := x.neighbours places
    let upperReads := ofDecimal hi == some x
    if ofDecimal lo == some x && (lowerIsNearer || !upperReads) then lo
    else if upperReads then hi
    else searchShortest x fuel (places + 1)

/-- The shortest decimal that reads back as the number; seventeen digits always do. -/
def shortest (x : Binary64) : Decimal :=
  if x.mantissa = 0 then ⟨0, 0⟩ else (x.searchShortest 17 1).trim

end Binary64

namespace Decimal

def zeros (n : Nat) : List Char := List.replicate n '0'

/-- Every digit in its place, with a point and a digit behind it in any case. -/
def positional (x : Decimal) : List Char :=
  let ds := Nat.toDigits 10 x.digits
  let point : Int := ds.length + x.exponent
  if x.digits = 0 then "0.0".toList
  else if 0 ≤ x.exponent then ds ++ zeros x.exponent.toNat ++ ".0".toList
  else if 0 < point then ds.take point.toNat ++ '.' :: ds.drop point.toNat
  else "0.".toList ++ zeros (-point).toNat ++ ds

/-- Positional from `0.00001` to below `10 ^ 16`, otherwise one digit, the point, the other digits and an
exponent. -/
def scientific (x : Decimal) : List Char :=
  let ds := Nat.toDigits 10 x.digits
  let point : Int := ds.length + x.exponent
  if x.digits = 0 ∨ (-5 < point ∧ point ≤ 16) then x.positional
  else
    let mantissa := match ds with
      | [d] => [d]
      | d :: rest => d :: '.' :: rest
      | [] => []
    let e := point - 1
    mantissa ++ 'e' :: (if e < 0 then ['-'] else []) ++ Nat.toDigits 10 e.natAbs

end Decimal

end ImportLint.Text
