import BucketLifecycle.Json.Basic
import BucketLifecycle.Text.Decimal

/-!
# What a number literal means

A literal without fraction and exponent is a whole number where it fits 64 bits, and a
floating-point number elsewhere; so is `-0`.  A floating-point number is computed from the leading
digits that fit 64 bits and a power of ten, with one rounding for each of the two steps.
-/

set_option autoImplicit false

namespace BucketLifecycle.Json

/-- A number that fits one of the three machine forms. -/
inductive Number where
  | natural (n : UInt64)
  | negative (n : Int64)
  | floating (x : Float)

/-- Takes digits as long as the number that they spell stays below `2^64`. -/
def takeSignificand : Nat → List Char → Nat × List Char
  | sig, [] => (sig, [])
  | sig, d :: ds =>
    let next := 10 * sig + (d.toNat - '0'.toNat)
    if next < UInt64.size then takeSignificand next ds else (sig, d :: ds)

/-- `x · 10^e`.  An exponent below the table of powers is reached in steps; `fuel` bounds them, and
three suffice because two bring any significand to zero. -/
def scaleFloat : (fuel : Nat) → (x : Float) → (e : Int) → Except GrammarError Float
  | 0, x, _ => .ok x
  | fuel + 1, x, e =>
    if e.natAbs ≤ 308 then
      if 0 ≤ e then
        let y := x * Float.ofScientific 1 false e.natAbs
        if y.isInf then .error .numberOutOfRange else .ok y
      else .ok (x / Float.ofScientific 1 false e.natAbs)
    else if x == 0 then .ok x
    else if 0 ≤ e then .error .numberOutOfRange
    else scaleFloat fuel (x / Float.ofScientific 1 false 308) (e + 308)

/-- Where exponents are too large to be counted. -/
abbrev maxExponent : Nat := 2147483648

/-- The floating-point number of a literal. -/
def NumberLit.float (lit : NumberLit) : Except GrammarError Float := do
  let (wholeSig, wholeRest) := takeSignificand 0 lit.whole
  let fraction := lit.fraction.getD []
  let (sig, fractionRest) := takeSignificand wholeSig fraction
  let shift : Int := wholeRest.length - (fraction.length - fractionRest.length : Nat)
  let magnitude ← match lit.exponent with
    | none => scaleFloat 3 (Float.ofNat sig) shift
    | some (negative, ds) =>
      let e := Text.digitsValue ds
      if e < maxExponent then
        scaleFloat 3 (Float.ofNat sig) (if negative then shift - e else shift + e)
      else if sig ≠ 0 ∧ ¬ negative then .error .numberOutOfRange
      else .ok 0
  return if lit.negative then -magnitude else magnitude

def NumberLit.value (lit : NumberLit) : Except GrammarError Number :=
  let n := Text.digitsValue lit.whole
  if lit.fraction.isSome || lit.exponent.isSome then lit.float.map .floating
  else if lit.negative then
    if 0 < n ∧ n ≤ Text.int64Limit then .ok (.negative (Int64.ofInt (-n)))
    else lit.float.map .floating
  else if n < UInt64.size then .ok (.natural (UInt64.ofNat n)) else lit.float.map .floating

end BucketLifecycle.Json
