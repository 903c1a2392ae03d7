import BucketLifecycle.Text.Decimal

/-!
# Spans of time

A duration is a whole number of nanoseconds up to just below `2^64` seconds.  Arithmetic that would
pass the largest duration gives the largest duration.
-/

set_option autoImplicit false

namespace BucketLifecycle

/-- The number of nanoseconds in the longest duration: `2^64 - 1` seconds and all but one of the
nanoseconds of a further second. -/
def maxNanoseconds : Nat := 18446744073709551615999999999

/-- A span of time. -/
structure Duration where
  nanoseconds : Nat
  bounded : nanoseconds ≤ maxNanoseconds
  deriving DecidableEq, Repr

namespace Duration

/-- The given number of nanoseconds, or the longest duration. -/
def saturate (n : Nat) : Duration :=
  ⟨min n maxNanoseconds, Nat.min_le_right _ _⟩

def zero : Duration :=
  ⟨0, Nat.zero_le _⟩

def ofMillis (n : UInt64) : Duration :=
  ⟨n.toNat * 1000000, by
    have h := n.toNat_lt
    simp only [maxNanoseconds]
    omega⟩

def ofSeconds (n : UInt64) : Duration :=
  ⟨n.toNat * 1000000000, by
    have h := n.toNat_lt
    simp only [maxNanoseconds]
    omega⟩

def seconds (d : Duration) : Nat :=
  d.nanoseconds / 1000000000

/-- The nanoseconds behind the whole seconds. -/
def subsecond (d : Duration) : Nat :=
  d.nanoseconds % 1000000000

/-- The whole milliseconds, at most `2^64 - 1` of them. -/
def millis (d : Duration) : UInt64 :=
  UInt64.ofNat (min (d.nanoseconds / 1000000) (UInt64.size - 1))

def times (d : Duration) (k : Nat) : Duration :=
  saturate (d.nanoseconds * k)

def shorter (a b : Duration) : Duration :=
  if a.nanoseconds ≤ b.nanoseconds then a else b

def longer (a b : Duration) : Duration :=
  if a.nanoseconds ≤ b.nanoseconds then b else a

/-- A whole part, and a fraction of `digits` digits without zeros at its end. -/
def showDecimal (whole fraction digits : Nat) (unit : String) : String :=
  let ds := Text.padZeros digits (Text.writeNat fraction)
  let kept := (ds.reverse.dropWhile (· == '0')).reverse
  let point := if fraction = 0 then [] else '.' :: kept
  String.ofList (Text.writeNat whole ++ point) ++ unit

/-- A duration in the largest unit of which it holds one, with the rest as a decimal fraction. -/
def toText (d : Duration) : String :=
  let n := d.nanoseconds
  if 1000000000 ≤ n then showDecimal (n / 1000000000) (n % 1000000000) 9 "s"
  else if 1000000 ≤ n then showDecimal (n / 1000000) (n % 1000000) 6 "ms"
  else if 1000 ≤ n then showDecimal (n / 1000) (n % 1000) 3 "µs"
  else showDecimal n 0 0 "ns"

/-- The shorter of two durations has the smaller number of nanoseconds. -/
theorem nanoseconds_shorter (a b : Duration) :
    (shorter a b).nanoseconds = min a.nanoseconds b.nanoseconds := by
  simp only [shorter]
  split <;> omega

/-- The longer of two durations has the larger number of nanoseconds. -/
theorem nanoseconds_longer (a b : Duration) :
    (longer a b).nanoseconds = max a.nanoseconds b.nanoseconds := by
  simp only [longer]
  split <;> omega

end Duration

end BucketLifecycle
