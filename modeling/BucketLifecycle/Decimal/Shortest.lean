import BucketLifecycle.Text.Decimal

/-!
# The shortest decimal that reads back

A finite positive binary number `m · 2^q` with a 53-bit significand stands for every real that
rounds to it.  Among the decimals in that interval, one with the fewest significant digits is
written, and of those the one nearest to the number; an exact tie goes to the even digit.

All arithmetic is on natural numbers: the number, the ends of its interval and the points of a
decimal grid are brought to one denominator and compared there.
-/

set_option autoImplicit false

namespace BucketLifecycle.Decimal

/-- A positive decimal `digits · 10^exponent`. -/
structure Scaled where
  digits : Nat
  exponent : Int
  deriving DecidableEq, Repr

/-- A number with the ends of the interval that rounds to it, as numerators over `den`. -/
structure Interval where
  low : Nat
  value : Nat
  high : Nat
  den : Nat
  closed : Bool

/-- The interval of `m · 2^q`.  Below a power of two the neighbours are half as far apart. -/
def Interval.ofBinary (m : Nat) (q : Int) (atPowerOfTwo : Bool) : Interval :=
  let scale := Nat.pow 2 (q - 2).toNat
  { low := (if atPowerOfTwo then 4 * m - 1 else 4 * m - 2) * scale
    value := 4 * m * scale
    high := (4 * m + 2) * scale
    den := Nat.pow 2 (2 - q).toNat
    closed := m % 2 == 0 }

/-- Whether the decimal `d · 10^e` lies in the interval. -/
def Interval.contains (i : Interval) (d : Nat) (e : Int) : Bool :=
  let point := d * Nat.pow 10 e.toNat * i.den
  let unit := Nat.pow 10 (-e).toNat
  if i.closed then i.low * unit ≤ point && point ≤ i.high * unit
  else i.low * unit < point && point < i.high * unit

/-- The number of digits in front of the decimal point of `num / den`; zero or negative where zeros
follow the point. -/
def magnitude (num den : Nat) : Int :=
  let guess : Int := (Nat.toDigits 10 num).length - (Nat.toDigits 10 den).length
  if Nat.pow 10 (-guess).toNat * num < Nat.pow 10 guess.toNat * den then guess else guess + 1

/-- The best point of the grid of step `10^e`: the neighbours of the number on the grid are tried,
the nearer first. -/
def Interval.onGrid (i : Interval) (e : Int) : Option Nat :=
  let num := i.value * Nat.pow 10 (-e).toNat
  let step := i.den * Nat.pow 10 e.toNat
  let below := num / step
  let rest := num % step
  let lower := below != 0 && i.contains below e
  let upper := i.contains (below + 1) e
  let preferUpper := step < 2 * rest || (step == 2 * rest && below % 2 == 1)
  if lower && upper then some (if preferUpper then below + 1 else below)
  else if lower then some below
  else if upper then some (below + 1)
  else none

/-- Grids of one digit, two digits and so on; seventeen digits always suffice. -/
def Interval.shortest (i : Interval) : Scaled :=
  let top := magnitude i.value i.den
  let tries := (List.range 17).filterMap fun n : Nat =>
    let e := top - (n + 1 : Nat)
    (i.onGrid e).map fun d => { digits := d, exponent := e : Scaled }
  tries.headD ⟨i.value / i.den, 0⟩

/-- Moves zeros at the end of the digits into the exponent. -/
def Scaled.withoutZeros (s : Scaled) : Scaled :=
  let kept := ((writeDigits s.digits).reverse.dropWhile (· == '0')).reverse
  ⟨Text.digitsValue kept, s.exponent + (((writeDigits s.digits).length - kept.length : Nat) : Int)⟩
where
  writeDigits := Text.writeNat

/-- The lowest bit of the exponent of a 64-bit binary number. -/
abbrev exponentUnit : Nat := 4503599627370496

/-- The sign bit of a 64-bit binary number. -/
abbrev signUnit : Nat := 9223372036854775808

/-- How binary floating-point numbers are spelled. -/
structure FloatStyle where
  /-- The decimal exponents of the leading digit that are written positionally; all if absent. -/
  positional : Option (Int × Int)
  /-- What a whole number carries after its digits. -/
  wholeSuffix : String

/-- Digits with a decimal point `places` digits from the left; zeros fill up on either side. -/
def positionalText (ds : List Char) (places : Int) (suffix : String) : List Char :=
  if places ≤ 0 then '0' :: '.' :: List.replicate (-places).toNat '0' ++ ds
  else if ds.length ≤ places.toNat then
    ds ++ List.replicate (places.toNat - ds.length) '0' ++ suffix.toList
  else ds.take places.toNat ++ '.' :: ds.drop places.toNat

/-- One digit, a point and the other digits if there are any, and the signed exponent. -/
def exponentText (ds : List Char) (exponent : Int) : List Char :=
  let sign := if exponent < 0 then '-' else '+'
  ds.take 1 ++ (if ds.length ≤ 1 then [] else '.' :: ds.drop 1) ++ 'e' :: sign ::
    Text.writeNat exponent.natAbs

/-- The text of a positive decimal. -/
def FloatStyle.writeScaled (style : FloatStyle) (s : Scaled) : List Char :=
  let s := s.withoutZeros
  let ds := Text.writeNat s.digits
  let places : Int := s.exponent + ds.length
  match style.positional with
  | none => positionalText ds places style.wholeSuffix
  | some (lo, hi) =>
    if lo ≤ places - 1 && places - 1 ≤ hi then positionalText ds places style.wholeSuffix
    else exponentText ds (places - 1)

/-- The text of a floating-point number.  Zero keeps its sign. -/
def FloatStyle.write (style : FloatStyle) (x : Float) : String :=
  let bits : Nat := x.toBits.toNat
  let negative := signUnit ≤ bits
  let biased : Nat := bits / exponentUnit % 2048
  let fraction : Nat := bits % exponentUnit
  let sign := if negative then "-" else ""
  if biased == 2047 then
    if fraction == 0 then sign ++ "inf" else "NaN"
  else if biased == 0 && fraction == 0 then sign ++ "0" ++ style.wholeSuffix
  else
    let interval :=
      if biased == 0 then Interval.ofBinary fraction (-1074) false
      else
        Interval.ofBinary (exponentUnit + fraction) ((biased : Int) - 1075)
          (fraction == 0 && 1 < biased)
    sign ++ String.ofList (style.writeScaled interval.shortest)

/-- Always positional, and a whole number has no point. -/
def FloatStyle.plain : FloatStyle := ⟨none, ""⟩

/-- Positional from a hundred-thousandth up to ten quadrillion, with a point in every positional
form. -/
def FloatStyle.pointed : FloatStyle := ⟨some (-5, 15), ".0"⟩

end BucketLifecycle.Decimal
