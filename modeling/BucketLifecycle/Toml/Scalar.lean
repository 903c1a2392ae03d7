import BucketLifecycle.Decimal.Nearest
import BucketLifecycle.Text.Segments
import BucketLifecycle.Timestamp.Writer
import BucketLifecycle.Toml.Basic
import BucketLifecycle.Toml.Text

/-!
# Numbers, truth values and times of a TOML document

These values end where a blank, a line end, a comment, a comma or a closing bracket begins, so the
longest run of other characters is looked at as a whole.  Only a date with a time has one blank
inside.
-/

set_option autoImplicit false

namespace BucketLifecycle.Toml

open Text (Reader digitsValue expect writeNat padZeros)

/-- A character of a number, a truth value or a time. -/
def isWordChar (c : Char) : Bool :=
  c.isAlphanum || c == '+' || c == '-' || c == '_' || c == '.' || c == ':'

/-- The digits of a run in which single underscores may stand between digits. -/
def digitRun (isDigit : Char → Bool) (cs : List Char) : Option (List Char) :=
  let pieces := Text.segments '_' cs
  if pieces.any List.isEmpty ∨ pieces.any (fun p => p.any fun c => !isDigit c) then none
  else some pieces.flatten

/-- A number in another base than ten, without a sign. -/
def basedInteger (base : Nat) (cs : List Char) : Option Int64 := do
  let ds ← digitRun (fun c => (Text.hexValue? c).any fun d => d < base) cs
  let n ← Text.numberInBase? base ds
  if n < Text.int64Limit then some (Int64.ofNat n) else none

/-- A sign, if one stands at the front: whether it is a minus sign, and the rest. -/
def splitSign : List Char → Bool × List Char
  | '+' :: rest => (false, rest)
  | '-' :: rest => (true, rest)
  | cs => (false, cs)

def wholeDigits (cs : List Char) : Option (List Char) := do
  let ds ← digitRun Char.isDigit cs
  if ds.length ≠ 1 ∧ ds.head? = some '0' then none else some ds

/-- A decimal number with an optional sign. -/
def decimalInteger (cs : List Char) : Option Int64 := do
  let (negative, cs) := splitSign cs
  let n := digitsValue (← wholeDigits cs)
  if negative then if n ≤ Text.int64Limit then some (Int64.ofInt (-n)) else none
  else if n < Text.int64Limit then some (Int64.ofNat n) else none

def integer : List Char → Option Int64
  | '0' :: 'x' :: cs => basedInteger 16 cs
  | '0' :: 'o' :: cs => basedInteger 8 cs
  | '0' :: 'b' :: cs => basedInteger 2 cs
  | cs => decimalInteger cs

def exponent (cs : List Char) : Option Int := do
  let (negative, cs) := splitSign cs
  let n := digitsValue (← digitRun Char.isDigit cs)
  return if negative then -(n : Int) else n

/-- The digits before the period of a number, and those behind it if there is one. -/
def mantissaDigits (cs : List Char) : Option (List Char × Option (List Char)) :=
  match Text.cutAt '.' cs with
  | none => (wholeDigits cs).map fun whole => (whole, none)
  | some (whole, fraction) => do
    let whole ← wholeDigits whole
    let fraction ← digitRun Char.isDigit fraction
    return (whole, some fraction)

/-- The exponent behind the mantissa of a number, if there is one. -/
def exponentPart : List Char → Option (Option Int)
  | [] => some none
  | _ :: cs => (exponent cs).map some

/-- A number with a fraction, an exponent or both.  A positive one must not be beyond the range. -/
def decimalFloat (cs : List Char) : Option Float := do
  let (negative, cs) := splitSign cs
  let mantissa := cs.takeWhile fun c => c != 'e' && c != 'E'
  let e ← exponentPart (cs.drop mantissa.length)
  let (whole, fraction) ← mantissaDigits mantissa
  if e.isNone ∧ fraction.isNone then none
  let fraction := fraction.getD []
  let x := Decimal.nearest negative (digitsValue (whole ++ fraction)) (e.getD 0 - fraction.length)
  if x == 1 / 0 then none else some x

/-- Infinity and the number that is none, with an optional sign. -/
def specialFloat (cs : List Char) : Option Float :=
  let (negative, cs) := splitSign cs
  if cs = "inf".toList then some (if negative then -1 / 0 else 1 / 0)
  else if cs = "nan".toList then some (0 / 0)
  else none

/-- A number of exactly so many digits between bounds. -/
def fixedNumber (width lo hi : Nat) : Reader Nat := fun cs =>
  let ds := cs.take width
  let n := digitsValue ds
  if ds.length = width ∧ ds.all Char.isDigit ∧ lo ≤ n ∧ n ≤ hi then some (n, cs.drop width)
  else none

def date : Reader (List Char) := fun cs => do
  let (year, rest) ← fixedNumber 4 0 9999 cs
  let (month, rest) ← fixedNumber 2 1 12 (← expect '-' rest)
  let (_, rest) ← fixedNumber 2 1 (daysInMonth year month) (← expect '-' rest)
  return (cs.take 10, rest)

/-- The fraction of a second behind a period: at most nine digits count, and zeros at the end are
not shown. -/
def fraction : Reader (List Char)
  | '.' :: cs =>
    let ds := cs.takeWhile Char.isDigit
    let kept := ((ds.take 9).reverse.dropWhile (· == '0')).reverse
    if ds.isEmpty then none
    else some (if kept.isEmpty then [] else '.' :: kept, cs.drop ds.length)
  | cs => some ([], cs)

/-- A time of the day up to some hour, as its text. -/
def timeOfDay (lastHour : Nat) : Reader (List Char) := fun cs => do
  let (_, rest) ← fixedNumber 2 0 lastHour cs
  let (_, rest) ← fixedNumber 2 0 59 (← expect ':' rest)
  let (_, rest) ← fixedNumber 2 0 60 (← expect ':' rest)
  let (fraction, rest) ← fraction rest
  return (cs.take 8 ++ fraction, rest)

/-- An offset of minutes behind its sign, as its text. -/
def offsetText (sign : Char) (minutes : Nat) : List Char :=
  (if minutes = 0 then '+' else sign) ::
    (padZeros 2 (writeNat (minutes / 60)) ++ ':' :: padZeros 2 (writeNat (minutes % 60)))

/-- The offset from Coordinated Universal Time with bounds for its hours and minutes, as its text.
-/
def offset (lastHour lastMinute : Nat) : List Char → Option (List Char)
  | [] => some []
  | ['Z'] => some ['Z']
  | ['z'] => some ['Z']
  | sign :: cs => do
    if sign ≠ '+' ∧ sign ≠ '-' then none
    let (hours, rest) ← fixedNumber 2 0 lastHour cs
    let (minutes, rest) ← fixedNumber 2 0 lastMinute (← expect ':' rest)
    if rest ≠ [] ∨ 24 * 60 < hours * 60 + minutes then none
    return offsetText sign (hours * 60 + minutes)

/-- The bounds of a time: the last hour of the day, and the last hour and minute of an offset. -/
structure MomentBounds where
  hour : Nat
  offsetHour : Nat
  offsetMinute : Nat

/-- A time of the day with an optional offset. -/
def timeAndOffset (b : MomentBounds) (cs : List Char) : Option (List Char) := do
  let (time, rest) ← timeOfDay b.hour cs
  return time ++ (← offset b.offsetHour b.offsetMinute rest)

/-- A date, a date with a time, or a time alone, in its usual form. -/
def momentWithin (b : MomentBounds) (cs : List Char) : Option String := do
  let text ← match date cs with
    | some (day, []) => some day
    | some (day, separator :: rest) =>
      if separator = 'T' ∨ separator = 't' ∨ separator = ' ' then
        (timeAndOffset b rest).map fun time => day ++ 'T' :: time
      else none
    | none => match timeOfDay b.hour cs with
      | some (time, []) => some time
      | _ => none
  return String.ofList text

/-- A date, a time or both as a document has it. -/
def moment (cs : List Char) : Option String :=
  momentWithin ⟨23, 23, 59⟩ cs

/-- A date, a time or both as a string has it: the day may have an hour more, and any number of
minutes makes an offset of up to a day. -/
def momentOfString (s : String) : Option String :=
  momentWithin ⟨24, 99, 99⟩ s.toList

def wordValue (cs : List Char) : Option Value :=
  if cs = "true".toList then some (.boolean true)
  else if cs = "false".toList then some (.boolean false)
  else
    (moment cs).map Value.moment <|>
    ((decimalFloat cs <|> specialFloat cs).map Value.floating <|>
    (integer cs).map Value.integer)

/-- The word at the front of a text.  A date is followed by its time where a single blank and the
first digits of a time stand behind it. -/
def splitWord (cs : List Char) : List Char × List Char :=
  let word := cs.takeWhile isWordChar
  match cs.drop word.length with
  | ' ' :: rest =>
    match date word, fixedNumber 2 0 23 rest with
    | some (_, []), some (_, ':' :: _) =>
      (word ++ ' ' :: rest.takeWhile isWordChar, rest.dropWhile isWordChar)
    | _, _ => (word, ' ' :: rest)
  | rest => (word, rest)

/-- A number, a truth value or a time. -/
def scalar : Reader Value := fun cs =>
  let (word, rest) := splitWord cs
  (wordValue word).map fun v => (v, rest)

end BucketLifecycle.Toml
