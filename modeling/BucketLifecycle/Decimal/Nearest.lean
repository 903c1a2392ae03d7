import BucketLifecycle.Decimal.Shortest
import BucketLifecycle.Text.Decimal

/-!
# The binary number nearest to a decimal

A decimal is rounded once to a 53-bit significand, with ties to the even one; below the smallest
exponent the significand has fewer bits.  All arithmetic is on natural numbers: the decimal is a
quotient, brought to the scale at which one unit is the last bit of the result.
-/

set_option autoImplicit false

namespace BucketLifecycle.Decimal

/-- A quotient rounded to the nearest whole number; a tie goes to the even one. -/
def roundQuotient (num den : Nat) : Nat :=
  let below := num / den
  let rest := num % den
  if den < 2 * rest ∨ (den = 2 * rest ∧ below % 2 = 1) then below + 1 else below

/-- The exponent of the last bit of a quotient's significand: it has 53 bits, or fewer where the
exponent would fall below its smallest value. -/
def lastBit (num den : Nat) : Int :=
  let guess : Int := (Nat.log2 num : Int) - Nat.log2 den - 52
  let fits := num * Nat.pow 2 (-guess).toNat < exponentUnit * (den * Nat.pow 2 guess.toNat)
  max (-1074) (if fits then guess - 1 else guess)

/-- The bits of infinity. -/
abbrev infinityBits : Nat := 0x7FF * exponentUnit

/-- The bits of the positive number nearest to a positive quotient.  A significand that rounds up
to 54 bits carries into the exponent. -/
def nearestBits (num den : Nat) : Nat :=
  let q := lastBit num den
  if 971 < q then infinityBits
  else (q + 1074).toNat * exponentUnit +
    roundQuotient (num * Nat.pow 2 (-q).toNat) (den * Nat.pow 2 q.toNat)

/-- The number nearest to a decimal `digits · 10^exponent`.  A decimal whose leading digit stands
far outside the range of the format is not expanded. -/
def nearest (negative : Bool) (digits : Nat) (exponent : Int) : Float :=
  let places : Int := (Text.writeNat digits).length + exponent
  let bits :=
    if digits = 0 ∨ places < -400 then 0
    else if 400 < places then infinityBits
    else nearestBits (digits * Nat.pow 10 exponent.toNat) (Nat.pow 10 (-exponent).toNat)
  Float.ofBits (UInt64.ofNat (if negative then signUnit + bits else bits))

end BucketLifecycle.Decimal
