import BucketLifecycle.Timestamp.Basic
import BucketLifecycle.Text.Blank
import BucketLifecycle.Text.Decimal

/-!
# Reading timestamps

The accepted form is the written one with some freedom: single digits for month, day, hour, minute
and second; blanks before any number, before the separators of date and time and around the zone;
`t` or a blank for `T`; any number of fraction digits, of which nine count; `Z`, `UTC` in any
case, or an offset in hours and minutes, with or without a colon.  A year of more than four digits
needs a sign.
-/

set_option autoImplicit false

namespace BucketLifecycle

open Text (trimStart digitsValue)

/-- Why a text is not a timestamp. -/
inductive TimestampError where
  | invalid
  | outOfRange
  | tooShort
  | trailing
  | impossible
  deriving DecidableEq, Repr

def TimestampError.message : TimestampError → String
  | .invalid => "input contains invalid characters"
  | .outOfRange => "input is out of range"
  | .tooShort => "premature end of input"
  | .trailing => "trailing input"
  | .impossible => "no possible date and time matching input"

/-- The digits at the front, at most `width` of them where a width is given. -/
def takeDigits (width : Option Nat) (cs : List Char) : List Char :=
  match width with
  | none => cs.takeWhile Char.isDigit
  | some w => (cs.take w).takeWhile Char.isDigit

def takeNumber (width : Option Nat) (cs : List Char) : Except TimestampError (Nat × List Char) :=
  let ds := takeDigits width cs
  if ds.isEmpty then .error (if cs.isEmpty then .tooShort else .invalid)
  else .ok (digitsValue ds, cs.drop ds.length)

/-- A number of one or two digits between bounds, after blanks. -/
def takeTwo (lo hi : Nat) (cs : List Char) : Except TimestampError (Nat × List Char) := do
  let (n, rest) ← takeNumber (some 2) (trimStart cs)
  if lo ≤ n ∧ n ≤ hi then .ok (n, rest) else .error .outOfRange

/-- A year: up to four digits, or a sign and any number of them, in 32 bits. -/
def takeYear (cs : List Char) : Except TimestampError (Int × List Char) := do
  let (year, rest) ← match trimStart cs with
    | '-' :: rest => (takeNumber none rest).map fun (n, rest) => (-(n : Int), rest)
    | '+' :: rest => (takeNumber none rest).map fun (n, rest) => ((n : Int), rest)
    | cs => (takeNumber (some 4) cs).map fun (n, rest) => ((n : Int), rest)
  if -2147483648 ≤ year ∧ year ≤ 2147483647 then .ok (year, rest) else .error .outOfRange

def takeChar (c : Char) : List Char → Except TimestampError (List Char)
  | [] => .error .tooShort
  | d :: rest => if d = c then .ok rest else .error .invalid

/-- The character between date and time. -/
def takeSeparator : List Char → Except TimestampError (List Char)
  | [] => .error .tooShort
  | c :: rest => if c = 'T' ∨ c = 't' ∨ c = ' ' then .ok rest else .error .invalid

/-- A fraction in nanoseconds: nine digits count and the rest are passed over. -/
def takeFraction (cs : List Char) : Except TimestampError (Nat × List Char) :=
  match cs with
  | '.' :: rest => do
    let ds := takeDigits (some 9) rest
    let (n, rest) ← takeNumber (some 9) rest
    .ok (n * Nat.pow 10 (9 - ds.length), rest.dropWhile Char.isDigit)
  | cs => .ok (0, cs)

/-- The first two characters; a single one counts as two where it is not ASCII. -/
def takePair : List Char → Except TimestampError (Char × Char × List Char)
  | a :: b :: rest => .ok (a, b, rest)
  | [a] => .error (if a.toNat < 0x80 then .tooShort else .invalid)
  | [] => .error .tooShort

/-- The sign of an offset, and whether it is a minus. -/
def takeSign : List Char → Except TimestampError (Bool × List Char)
  | '+' :: rest => .ok (false, rest)
  | '-' :: rest => .ok (true, rest)
  | '\u2212' :: rest => .ok (true, rest)
  | _ :: _ => .error .invalid
  | [] => .error .tooShort

def takeOffset (cs : List Char) : Except TimestampError (Int × List Char) := do
  let (negative, rest) ← takeSign cs
  let (h1, h2, rest) ← takePair rest
  if ¬ (h1.isDigit ∧ h2.isDigit) then .error .invalid
  let rest := rest.dropWhile fun c => c == ':' || Text.isBlank c
  let (m1, m2, rest) ← takePair rest
  if ¬ (m1.isDigit ∧ m2.isDigit) then .error .invalid
  if '6' ≤ m1 then .error .outOfRange
  let seconds : Int := digitsValue [h1, h2] * 3600 + digitsValue [m1, m2] * 60
  .ok (if negative then -seconds else seconds, rest)

/-- The zone of a time as an offset in seconds. -/
def takeZone (cs : List Char) : Except TimestampError (Int × List Char) :=
  match cs with
  | a :: b :: c :: rest =>
    if a.toUpper = 'U' ∧ b.toUpper = 'T' ∧ c.toUpper = 'C' then .ok (0, rest)
    else if a = 'Z' ∨ a = 'z' then .ok (0, b :: c :: rest)
    else takeOffset cs
  | a :: rest => if a = 'Z' ∨ a = 'z' then .ok (0, rest) else takeOffset cs
  | [] => .error .tooShort

def Timestamp.read (cs : List Char) : Except TimestampError Timestamp := do
  let (year, cs) ← takeYear cs
  let cs ← takeChar '-' (trimStart cs)
  let (month, cs) ← takeTwo 1 12 cs
  let cs ← takeChar '-' (trimStart cs)
  let (day, cs) ← takeTwo 1 31 cs
  let cs ← takeSeparator cs
  let (hour, cs) ← takeTwo 0 23 cs
  let cs ← takeChar ':' (trimStart cs)
  let (minute, cs) ← takeTwo 0 59 cs
  let cs ← takeChar ':' (trimStart cs)
  let (second, cs) ← takeTwo 0 60 cs
  let (fraction, cs) ← takeFraction cs
  let (offset, cs) ← takeZone (trimStart cs)
  if ¬ (trimStart cs).isEmpty then .error .trailing
  let some date := Date.mk? year month day | .error .outOfRange
  if ¬ (-86400 < offset ∧ offset < 86400) then .error .outOfRange
  let ofDay := hour * 3600 + minute * 60 + min second 59
  let nano := fraction + (if second = 60 then 1000000000 else 0)
  let some t := Timestamp.ofLocal? date ofDay nano offset | .error .impossible
  return t

end BucketLifecycle
