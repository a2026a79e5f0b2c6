import ImportLint.Document.Tree
import ImportLint.Text.Decimal

/-!
# Numbers of JSON texts

The value of a number from its digits. Integers that fit sixty-four bits are exact. Any other number is a
binary64 number, made from as many leading digits as fit sixty-four bits and a power of ten by one or more
rounded steps, so the last place of a long number may be off.
-/

namespace ImportLint.Json

open Document (Tree)
open Text (Binary64)

/-- The digits of a number. Each part lists its digits in order; `fraction` and `power` are empty where the
number has no such part. -/
structure Digits where
  negative : Bool
  whole : List Nat
  fraction : List Nat
  powerNegative : Bool
  power : List Nat
  deriving Repr

/-- The largest natural in sixty-four bits. -/
def word64 : Nat := 0xffffffffffffffff

/-- Takes digits into the significand as long as it fits sixty-four bits. The result has the significand, the
number of digits taken, and the digits left over. -/
def takeDigits : List Nat → Nat → Nat → Nat × Nat × List Nat
  | [], significand, taken => (significand, taken, [])
  | d :: ds, significand, taken =>
    if word64 < 10 * significand + d then (significand, taken, d :: ds)
    else takeDigits ds (10 * significand + d) (taken + 1)

namespace Digits

/-- The value of a list of digits. -/
def value (ds : List Nat) : Nat := ds.foldl (fun n d => 10 * n + d) 0

/-- Whether the number is written as an integer. -/
def isInteger (n : Digits) : Bool := n.fraction.isEmpty && n.power.isEmpty

/-- The same digits read from back to front. -/
def reverse (n : Digits) : Digits :=
  { n with whole := n.whole.reverse, fraction := n.fraction.reverse, power := n.power.reverse }

/-- The significand and the power of ten before the written exponent. -/
def significand (n : Digits) : Nat × Int :=
  let (s, _, left) := takeDigits n.whole 0 0
  let (s, taken, _) := takeDigits n.fraction s 0
  (s, (left.length : Int) - taken)

end Digits

/-- `10 ^ k` as a binary64 number. -/
def powerOfTen (k : Nat) : Option Binary64 := Binary64.ofDecimal ⟨1, k⟩

/-- The quotient by `10 ^ k`, by several rounded divisions where `k` is above 308. -/
def divideByPower (fuel : Nat) (x : Binary64) (k : Nat) : Option Binary64 :=
  match fuel with
  | 0 => some Binary64.zero
  | fuel + 1 =>
    if k ≤ 308 then powerOfTen k >>= x.div
    else if x.mantissa = 0 then some x
    else do divideByPower fuel (← powerOfTen 308 >>= x.div) (k - 308)

/-- The binary64 number for a significand and a power of ten; `none` if it is too large. -/
def assemble (significand : Nat) (exponent : Int) : Option Binary64 := do
  let x ← Binary64.ofNat significand
  match exponent with
  | .ofNat k =>
    if k ≤ 308 then powerOfTen k >>= x.mul
    else if significand = 0 then some x
    else none
  | .negSucc k => divideByPower 4 x (k + 1)

/-- A number that is no integer, as messages show it. -/
def floatTree (negative : Bool) (x : Option Binary64) : Tree :=
  match x with
  | none => .overflow
  | some x => .float (String.ofList ((if negative then ['-'] else []) ++ x.shortest.scientific))

/-- The value of a number. -/
def Digits.tree (n : Digits) : Tree :=
  let (s, e) := n.significand
  if n.isInteger && e == 0 then
    if !n.negative then .int s
    else if s = 0 ∨ 0x8000000000000000 < s then floatTree true (Binary64.ofNat s)
    else .int (-(s : Int))
  else
    let power := Digits.value n.power
    if 0x80000000 ≤ power then
      if s = 0 ∨ n.powerNegative then floatTree n.negative (some Binary64.zero) else .overflow
    else floatTree n.negative (assemble s (if n.powerNegative then e - power else e + power))

end ImportLint.Json
