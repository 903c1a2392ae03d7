import BucketLifecycle.Timestamp.Basic
import BucketLifecycle.Text.Decimal

/-!
# Timestamps as text

The written form is `YYYY-MM-DDThh:mm:ssZ`, with three, six or nine digits of fraction where they
are needed.  A year outside 0 to 9999 carries a sign and at least four digits.
-/

set_option autoImplicit false

namespace BucketLifecycle

open Text (writeNat padZeros)

def writeTwo (n : Nat) : List Char :=
  padZeros 2 (writeNat n)

/-- A year: four digits, or a sign and at least four digits. -/
def writeYear (year : Int) : List Char :=
  let digits := padZeros 4 (writeNat year.natAbs)
  if 0 ≤ year ∧ year ≤ 9999 then digits else (if year < 0 then '-' else '+') :: digits

/-- The fraction of a second in milliseconds, microseconds or nanoseconds, whichever shows it
exactly; nothing for a whole second. -/
def writeFraction (nano : Nat) : List Char :=
  if nano = 0 then []
  else if nano % 1000000 = 0 then '.' :: padZeros 3 (writeNat (nano / 1000000))
  else if nano % 1000 = 0 then '.' :: padZeros 6 (writeNat (nano / 1000))
  else '.' :: padZeros 9 (writeNat nano)

def Date.write (d : Date) : List Char :=
  writeYear d.year ++ '-' :: writeTwo d.month ++ '-' :: writeTwo d.day

/-- The text of a timestamp.  A leap second is written as the second that comes next: the sixtieth
of its minute where it is proper, and otherwise one that a plain time has too. -/
def Timestamp.write (t : Timestamp) : List Char :=
  let leap := t.nano / 1000000000
  t.date.write ++ 'T' :: writeTwo (t.second / 3600) ++ ':' :: writeTwo (t.second / 60 % 60) ++
    ':' :: writeTwo (t.second % 60 + leap) ++ writeFraction (t.nano % 1000000000) ++ ['Z']

end BucketLifecycle
