/-!
# Decimal numerals and the range of binary floating point

Document formats write numbers as decimal numerals of any size. A reader that
stores them in 64-bit binary floating point has to refuse those that become
infinite. Which ones these are depends on how often the reader rounds. This
module decides it for both ways in use, without any floating-point arithmetic.

## Main definitions

* `Decimal.isFinite` — the numeral is rounded once.
* `Decimal.isFiniteProduct` — its digits and its power of ten are rounded
  first, and then their product.
-/

namespace VulkanWire.Decimal

/-- The value of a digit in any base up to sixteen. -/
def digit? (c : Char) : Option Nat :=
  if '0' ≤ c ∧ c ≤ '9' then some (c.toNat - '0'.toNat)
  else if 'a' ≤ c ∧ c ≤ 'f' then some (c.toNat - 'a'.toNat + 10)
  else if 'A' ≤ c ∧ c ≤ 'F' then some (c.toNat - 'A'.toNat + 10)
  else none

/-- Whether a character is one of the ten decimal digits. -/
def isDigit (c : Char) : Bool := '0' ≤ c ∧ c ≤ '9'

/-- The number that a list of digits spells in a base; other characters count as zero. -/
def value (base : Nat) (digits : List Char) : Nat :=
  digits.foldl (fun n c => n * base + (digit? c).getD 0) 0

/-- The least magnitude that no longer rounds to a finite 64-bit float: half a unit in the last
place above the greatest one. -/
def overflowBound : Nat := Nat.pow 2 1024 - Nat.pow 2 970

/-- The number of decimal digits of a positive number. -/
def width (n : Nat) : Nat := (Nat.toDigits 10 n).length

/-- Whether `mantissa * 10 ^ exponent` rounds to a finite 64-bit float. Far from the bound the
digit count decides, so no huge power is ever formed. -/
def isFinite (mantissa : Nat) (exponent : Int) : Bool :=
  if mantissa = 0 then true
  else if exponent + width mantissa > 320 then false
  else if exponent + width mantissa < 300 then true
  else if 0 ≤ exponent then mantissa * Nat.pow 10 exponent.toNat < overflowBound
  else mantissa < overflowBound * Nat.pow 10 (-exponent).toNat

/-- The float nearest to a natural number, as a natural number: the 53 leading bits are kept, and a
half goes to the even neighbour. -/
def nearestFloat (n : Nat) : Nat :=
  let unit := Nat.pow 2 (n.log2 - 52)
  let kept := n / unit
  let rest := 2 * (n % unit)
  if unit < rest ∨ (rest = unit ∧ kept % 2 = 1) then (kept + 1) * unit else kept * unit

/-- Whether `mantissa * 10 ^ exponent` stays finite as the rounded product of the floats nearest to
both factors. The powers of ten end at the greatest one that is a finite float. -/
def isFiniteProduct (mantissa : Nat) (exponent : Int) : Bool :=
  if mantissa = 0 ∨ exponent < 0 then true
  else if exponent > 308 then false
  else nearestFloat mantissa * nearestFloat (Nat.pow 10 exponent.toNat) < overflowBound

/-- The leading digits of a number that fit 64 bits, and how many digits follow them. -/
def leadingWord (n : Nat) : Nat × Nat :=
  if n < UInt64.size then (n, 0)
  else
    let (kept, dropped) := leadingWord (n / 10)
    (kept, dropped + 1)
termination_by n
decreasing_by
  have hsize : 0 < UInt64.size := by decide
  omega

end VulkanWire.Decimal
