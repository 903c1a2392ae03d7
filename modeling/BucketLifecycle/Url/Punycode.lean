/-!
# Punycode

A label with characters outside ASCII is written in ASCII: the characters of ASCII, a hyphen, and a
number for each other character that says how far to move on in the list of all insertions.  The
numbers are written in base 36 with digits of growing weight, and how fast the weight grows adapts
to the distances seen so far.
-/

set_option autoImplicit false

namespace BucketLifecycle.Domain

def base : Nat := 36

def tmin : Nat := 1

def tmax : Nat := 26

/-- A digit of a number in base 36: the letters, then the digits. -/
def digitChar (d : Nat) : Char :=
  if d < 26 then Char.ofNat ('a'.toNat + d) else Char.ofNat ('0'.toNat + (d - 26))

/-- The value of such a digit. -/
def digitValue? (c : Char) : Option Nat :=
  if 'a' ≤ c ∧ c ≤ 'z' then some (c.toNat - 'a'.toNat)
  else if '0' ≤ c ∧ c ≤ '9' then some (c.toNat - '0'.toNat + 26)
  else none

/-- Divides a distance until it is small, counting the divisions.  The distance at least halves each
time, so its number of binary digits bounds them. -/
def reduce : (fuel distance steps : Nat) → Nat × Nat
  | 0, distance, steps => (distance, steps)
  | fuel + 1, distance, steps =>
    if ((base - tmin) * tmax) / 2 < distance then
      reduce fuel (distance / (base - tmin)) (steps + base)
    else (distance, steps)

/-- The next bias, from the distance just written and the number of characters so far. -/
def adapt (distance count : Nat) (first : Bool) : Nat :=
  let distance := if first then distance / 700 else distance / 2
  let distance := distance + distance / count
  let (distance, steps) := reduce (distance.log2 + 1) distance 0
  steps + (base - tmin + 1) * distance / (distance + 38)

/-- The threshold of the digit at a place. -/
def threshold (place bias : Nat) : Nat :=
  if place ≤ bias + tmin then tmin else if bias + tmax ≤ place then tmax else place - bias

/-- A number in digits of decreasing weight.  Each digit but the last divides the number by ten or
more, so its number of binary digits bounds them. -/
def writeNumber : (fuel place bias n : Nat) → List Char
  | 0, _, _, n => [digitChar n]
  | fuel + 1, place, bias, n =>
    let t := threshold place bias
    if n < t then [digitChar n]
    else digitChar (t + (n - t) % (base - t)) ::
      writeNumber fuel (place + base) bias ((n - t) / (base - t))

/-- Where the encoder stands between two code points. -/
structure EncodeState where
  distance : Nat
  bias : Nat
  /-- how many characters have been written -/
  count : Nat
  first : Bool
  output : List Char

/-- Passes over the characters of a label for one code point: those below it move on, and each equal
one is written. -/
def encodePass (codePoint : Nat) (st : EncodeState) (c : Char) : EncodeState :=
  if c.toNat < codePoint then { st with distance := st.distance + 1 }
  else if c.toNat = codePoint then
    { distance := 0
      bias := adapt st.distance (st.count + 1) st.first
      count := st.count + 1
      first := false
      output := st.output ++ writeNumber (st.distance.log2 + 1) base st.bias st.distance }
  else st

/-- The code points from `next` on, in increasing order, each followed by a pass over the label. -/
def encodeFrom (label : List Char) : (points : List Nat) → (next : Nat) → EncodeState → List Char
  | [], _, st => st.output
  | p :: rest, next, st =>
    let st := { st with distance := st.distance + (p - next) * (st.count + 1) }
    let st := label.foldl (encodePass p) st
    encodeFrom label rest (p + 1) { st with distance := st.distance + 1 }

/-- The Punycode form of a label. -/
def punycode (label : List Char) : List Char :=
  let plain := label.filter fun c => c.toNat < 0x80
  let points := ((label.filter fun c => 0x80 ≤ c.toNat).map Char.toNat).mergeSort.eraseDups
  let front := if plain.isEmpty then [] else plain ++ ['-']
  encodeFrom label points 0x80 ⟨0, 72, plain.length, true, front⟩

/-- Reads one number of a Punycode form: its value with the digits that are left. -/
def readNumber : (place bias weight value : Nat) → List Char → Option (Nat × List Char)
  | _, _, _, _, [] => none
  | place, bias, weight, value, c :: cs => do
    let d ← digitValue? c
    let value := value + d * weight
    let t := threshold place bias
    if UInt32.size ≤ value then none
    else if d < t then some (value, cs)
    else if UInt32.size ≤ weight * (base - t) then none
    else readNumber (place + base) bias (weight * (base - t)) value cs

/-- Puts the encoded characters into a label, `fuel` of them at most. -/
def decodeFrom : (fuel point place bias : Nat) → (first : Bool) → (label : List Char) →
    (digits : List Char) → Option (List Char)
  | _, _, _, _, _, label, [] => some label
  | 0, _, _, _, _, _, _ :: _ => none
  | fuel + 1, point, place, bias, first, label, digits => do
    let (distance, rest) ← readNumber base bias 1 0 digits
    let count := label.length + 1
    let next := place + distance
    let point := point + next / count
    if point > 0x10FFFF ∨ (0xD800 ≤ point ∧ point ≤ 0xDFFF) then none
    else
      let at_ := next % count
      decodeFrom fuel point (at_ + 1) (adapt distance count first) false
        (label.take at_ ++ Char.ofNat point :: label.drop at_) rest

/-- The label that a Punycode form stands for.  A hyphen at the front has no characters before it
and counts as a digit, which it is not. -/
def ofPunycode? (cs : List Char) : Option (List Char) :=
  let reversed := cs.reverse
  let digits := (reversed.takeWhile (· != '-')).reverse
  let plain := (reversed.drop (digits.length + 1)).reverse
  if plain.isEmpty ∧ digits.length < cs.length then none
  else decodeFrom digits.length 0x80 0 72 true plain digits

end BucketLifecycle.Domain
