import BucketLifecycle.Decimal.Nearest
import BucketLifecycle.Text.Segments

/-!
# Binary numbers from decimal text

A number has digits with a period in front of them, among them or behind them, and may have an
exponent behind the letter `e`.  Infinity and the number that is none are words, in capital or small
letters.  Every number takes a sign.
-/

set_option autoImplicit false

namespace BucketLifecycle.Decimal

/-- The digits of a number without sign and exponent, with the number of them behind the period.
One digit before or behind the period is enough. -/
def readMantissa (cs : List Char) : Option (List Char × Nat) :=
  let (whole, fraction) := match Text.cutAt '.' cs with
    | none => (cs, [])
    | some parts => parts
  let ds := whole ++ fraction
  if Text.isNumeral ds then some (ds, fraction.length) else none

/-- The number behind the letter of an exponent. -/
def readExponent : List Char → Option Int
  | [] => some 0
  | _ :: '-' :: ds => if Text.isNumeral ds then some (-(Text.digitsValue ds : Int)) else none
  | _ :: '+' :: ds => if Text.isNumeral ds then some (Text.digitsValue ds) else none
  | _ :: ds => if Text.isNumeral ds then some (Text.digitsValue ds) else none

def readMagnitude (negative : Bool) (cs : List Char) : Option Float :=
  let word := String.ofList (cs.map Char.toLower)
  if word = "inf" ∨ word = "infinity" then some (if negative then -1 / 0 else 1 / 0)
  else if word = "nan" then some (0 / 0)
  else do
    let mantissa := cs.takeWhile fun c => c != 'e' && c != 'E'
    let (ds, places) ← readMantissa mantissa
    let e ← readExponent (cs.drop mantissa.length)
    return nearest negative (Text.digitsValue ds) (e - places)

/-- The binary number nearest to the one that a text spells. -/
def readFloat : List Char → Option Float
  | '-' :: cs => readMagnitude true cs
  | '+' :: cs => readMagnitude false cs
  | cs => readMagnitude false cs

end BucketLifecycle.Decimal
