/-!
# Points in time

A timestamp is a date of the proleptic Gregorian calendar, a second of its day and a fraction in
nanoseconds, in Coordinated Universal Time.  A fraction of a whole second or more makes a leap
second of it.  Leap seconds belong behind the last second of a minute (`Timestamp.IsProper`), but a
timestamp can hold one behind any other second.  The years run from -262143 to 262142.

Times with an offset become timestamps by shifting the second of the day and, where that leaves the
day, the date by one.
-/

set_option autoImplicit false

namespace BucketLifecycle

/-- Whether a year has a 29th of February. -/
def isLeapYear (year : Int) : Bool :=
  year % 4 == 0 && (year % 100 != 0 || year % 400 == 0)

/-- The number of days of a month. -/
def daysInMonth (year : Int) (month : Nat) : Nat :=
  if month = 2 then if isLeapYear year then 29 else 28
  else if month = 4 ∨ month = 6 ∨ month = 9 ∨ month = 11 then 30
  else 31

/-- What makes three numbers a date. -/
def Date.Valid (year : Int) (month day : Nat) : Prop :=
  -262143 ≤ year ∧ year ≤ 262142 ∧ 1 ≤ month ∧ month ≤ 12 ∧ 1 ≤ day ∧ day ≤ daysInMonth year month

instance (year : Int) (month day : Nat) : Decidable (Date.Valid year month day) :=
  inferInstanceAs (Decidable (_ ∧ _))

/-- A day of the calendar. -/
structure Date where
  year : Int
  month : Nat
  day : Nat
  valid : Date.Valid year month day
  deriving DecidableEq, Repr

/-- The date with the given numbers, if there is one. -/
def Date.mk? (year : Int) (month day : Nat) : Option Date :=
  if h : Date.Valid year month day then some ⟨year, month, day, h⟩ else none

/-- The day after, unless the calendar ends there. -/
def Date.next? (d : Date) : Option Date :=
  if d.day < daysInMonth d.year d.month then Date.mk? d.year d.month (d.day + 1)
  else if d.month < 12 then Date.mk? d.year (d.month + 1) 1
  else Date.mk? (d.year + 1) 1 1

/-- The day before, unless the calendar begins there. -/
def Date.previous? (d : Date) : Option Date :=
  if 1 < d.day then Date.mk? d.year d.month (d.day - 1)
  else if 1 < d.month then Date.mk? d.year (d.month - 1) (daysInMonth d.year (d.month - 1))
  else Date.mk? (d.year - 1) 12 31

/-- What makes two numbers a time of the day. -/
def Timestamp.ValidTime (second nano : Nat) : Prop :=
  second < 86400 ∧ nano < 2000000000

instance (second nano : Nat) : Decidable (Timestamp.ValidTime second nano) :=
  inferInstanceAs (Decidable (_ ∧ _))

/-- A point in time. -/
structure Timestamp where
  date : Date
  /-- the second of the day -/
  second : Nat
  /-- the fraction in nanoseconds; from one second on it is that of a leap second -/
  nano : Nat
  valid : Timestamp.ValidTime second nano
  deriving DecidableEq, Repr

/-- A timestamp whose leap second, if it is one, stands behind the last second of a minute. -/
def Timestamp.IsProper (t : Timestamp) : Prop :=
  t.nano < 1000000000 ∨ t.second % 60 = 59

instance (t : Timestamp) : Decidable t.IsProper :=
  inferInstanceAs (Decidable (_ ∨ _))

/-- The timestamp of a time of day that is `offset` seconds ahead of Coordinated Universal Time. -/
def Timestamp.ofLocal? (date : Date) (second nano : Nat) (offset : Int) : Option Timestamp :=
  let total : Int := second - offset
  let day? :=
    if total < 0 then date.previous? else if 86400 ≤ total then date.next? else some date
  day?.bind fun day =>
    if h : ValidTime (total % 86400).toNat nano then some ⟨day, (total % 86400).toNat, nano, h⟩
    else none

end BucketLifecycle
