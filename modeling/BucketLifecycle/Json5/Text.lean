import BucketLifecycle.Decimal.Reader
import BucketLifecycle.Document.Datum
import BucketLifecycle.Text.Hexadecimal
import BucketLifecycle.Text.Letter
import BucketLifecycle.Text.Reader

/-!
# The text of a JSON5 document

Blanks and comments, strings between quotes of either kind, names, and numbers.
-/

set_option autoImplicit false

namespace BucketLifecycle.Json5

open Text (Reader expect splitRun)

/-- A character that ends a line. -/
def isLineEnd (c : Char) : Bool :=
  c == '\n' || c == '\r' || c == '\u2028' || c == '\u2029'

/-- A character that may stand between any two tokens. -/
def isSpace (c : Char) : Bool :=
  c == ' ' || c == '\t' || c == '\x0b' || c == '\x0c' || c == '\u00A0' || c == '\uFEFF' ||
    c == '\u1680' || ('\u2000' ≤ c && c ≤ '\u200A') || c == '\u202F' || c == '\u205F' ||
    c == '\u3000' || isLineEnd c

/-- The text behind blanks and comments; `fuel` bounds the number of comments. -/
def skipSpace : (fuel : Nat) → List Char → List Char
  | 0, cs => cs
  | fuel + 1, cs =>
    match cs.dropWhile isSpace with
    | '/' :: '/' :: rest => skipSpace fuel (rest.dropWhile fun c => !isLineEnd c)
    | '/' :: '*' :: rest =>
      match Text.cutAtSequence ['*', '/'] rest with
      | some (_, rest) => skipSpace fuel rest
      | none => '/' :: '*' :: rest
    | cs => cs

/-- The text behind blanks and comments. -/
def skip (cs : List Char) : List Char :=
  skipSpace (cs.length + 1) cs

/-- A number of exactly so many hexadecimal digits. -/
def hexDigits (width : Nat) : Reader Nat := fun cs => do
  if cs.length < width then none
  return (← Text.hexNumber? (cs.take width), cs.drop width)

/-- The character that an escape by number spells, given what follows its backslash and its letter.
A character beyond the first 65536 is spelled by a pair of escapes, the first for its upper half. -/
def unicodeEscape : Reader Char := fun cs => do
  let (n, rest) ← hexDigits 4 cs
  if 0xD800 ≤ n ∧ n < 0xDC00 then
    match rest with
    | '\\' :: 'u' :: rest =>
      let (low, rest) ← hexDigits 4 rest
      if 0xDC00 ≤ low ∧ low < 0xE000 then
        return (← Text.charOfNumber? (0x10000 + (n - 0xD800) * 0x400 + (low - 0xDC00)), rest)
      else none
    | _ => none
  else return (← Text.charOfNumber? n, rest)

/-- What an escape spells, given what follows its backslash.  An escaped line end spells nothing,
and a character without a meaning of its own spells itself. -/
def escape : Reader (List Char)
  | [] => none
  | 'b' :: rest => some (['\x08'], rest)
  | 'f' :: rest => some (['\x0c'], rest)
  | 'n' :: rest => some (['\n'], rest)
  | 'r' :: rest => some (['\r'], rest)
  | 't' :: rest => some (['\t'], rest)
  | 'v' :: rest => some (['\x0b'], rest)
  | '0' :: rest => some (['\x00'], rest)
  | 'x' :: rest => do
    let (n, rest) ← hexDigits 2 rest
    return ([← Text.charOfNumber? n], rest)
  | 'u' :: rest => (unicodeEscape rest).map fun (c, rest) => ([c], rest)
  | '\r' :: '\n' :: rest => some ([], rest)
  | c :: rest =>
    if isLineEnd c then some ([], rest)
    else if c.isDigit then none
    else some ([c], rest)

/-- The rest of a string up to its closing quote; `fuel` bounds its length. -/
def stringBody (quote : Char) : (fuel : Nat) → Reader (List Char)
  | 0, _ => none
  | _ + 1, [] => none
  | fuel + 1, c :: cs =>
    if c = quote then some ([], cs)
    else do
      let (part, rest) ←
        if c = '\\' then escape cs else if isLineEnd c then none else some ([c], cs)
      let (text, rest) ← stringBody quote fuel rest
      return (part ++ text, rest)

def string : Reader String
  | '"' :: rest => (stringBody '"' (rest.length + 1) rest).map fun (s, rest) =>
      (String.ofList s, rest)
  | '\'' :: rest => (stringBody '\'' (rest.length + 1) rest).map fun (s, rest) =>
      (String.ofList s, rest)
  | _ => none

/-- A character that may begin a name. -/
def isNameStart (c : Char) : Bool :=
  c == '$' || c == '_' || Text.isLetter c

/-- A character that a name may go on with. -/
def isNameChar (c : Char) : Bool :=
  isNameStart c || Text.isNamePart c || c == '\u200C' || c == '\u200D'

/-- The rest of a name, with escapes by number; `fuel` bounds its length. -/
def nameRest : (fuel : Nat) → Reader (List Char)
  | 0, _ => none
  | fuel + 1, '\\' :: 'u' :: cs => do
    let (c, rest) ← unicodeEscape cs
    let (text, rest) ← nameRest fuel rest
    return (c :: text, rest)
  | fuel + 1, c :: cs =>
    if isNameChar c then do
      let (text, rest) ← nameRest fuel cs
      return (c :: text, rest)
    else some ([], c :: cs)
  | _ + 1, [] => some ([], [])

/-- The key of a member: a name or a string. -/
def key (cs : List Char) : Option (String × List Char) :=
  match cs with
  | [] => none
  | c :: _ =>
    if c = '"' ∨ c = '\'' then string cs
    else if c = '\\' ∨ isNameStart c then do
      let (name, rest) ← nameRest (cs.length + 1) cs
      if name.isEmpty then none
      return (String.ofList name, rest)
    else none

/-- The exponent at the front of a text as it stands, or nothing where none stands there. -/
def exponentText : List Char → List Char
  | e :: cs =>
    if e = 'e' ∨ e = 'E' then
      let sign := cs.take 1 |>.filter fun c => c == '+' || c == '-'
      let ds := (cs.drop sign.length).takeWhile Char.isDigit
      if ds.isEmpty then [] else e :: sign ++ ds
    else []
  | [] => []

/-- The decimal number at the front of a text as it stands, without a sign. -/
def decimalText (cs : List Char) : Option (List Char) :=
  let whole := match cs with
    | '0' :: _ => ['0']
    | cs => cs.takeWhile Char.isDigit
  match cs.drop whole.length with
  | '.' :: rest =>
    let fraction := rest.takeWhile Char.isDigit
    if whole.isEmpty ∧ fraction.isEmpty then none
    else
      some (whole ++ '.' :: fraction ++ exponentText (rest.drop fraction.length))
  | rest => if whole.isEmpty then none else some (whole ++ exponentText rest)

/-- The value of a decimal number: whole where it has neither a period nor an exponent.  One that is
beyond the range of its type is none. -/
def decimalValue (negative : Bool) (text : List Char) : Option Datum :=
  if text.all Char.isDigit then
    let n := Text.digitsValue text
    if n < Text.int64Limit ∨ (negative ∧ n = Text.int64Limit) then
      some (.integer (Int64.ofInt (if negative then -n else n)))
    else none
  else do
    let x ← Decimal.readMagnitude negative text
    if x.isFinite then some (.floating x) else none

/-- The sign in front of a number. -/
inductive Sign where
  | none
  | plus
  | minus
  deriving DecidableEq, Repr

/-- The number behind a sign.  Hexadecimal digits take no sign and 32 bits, and the two words that
are numbers take no plus sign. -/
def magnitude (sign : Sign) (cs : List Char) : Option (Datum × List Char) :=
  let hex (rest : List Char) : Option (Datum × List Char) := do
    let (ds, rest) := splitRun Text.isHexDigit rest
    let n ← Text.hexNumber? ds
    if sign = .none ∧ n < UInt32.size then some (.integer (Int64.ofNat n), rest) else none
  let word (x : Float) (rest : List Char) : Option (Datum × List Char) :=
    if sign = .plus then none else some (.floating x, rest)
  match cs with
  | '0' :: x :: d :: rest =>
    if (x = 'x' ∨ x = 'X') ∧ Text.isHexDigit d then hex (d :: rest)
    else decimal ('0' :: x :: d :: rest)
  | cs =>
    match Text.dropStart? "Infinity".toList cs, Text.dropStart? "NaN".toList cs with
    | some rest, _ => word (if sign = .minus then -1 / 0 else 1 / 0) rest
    | _, some rest => word (0 / 0) rest
    | _, _ => decimal cs
where
  /-- A decimal number. -/
  decimal (cs : List Char) : Option (Datum × List Char) := do
    let text ← decimalText cs
    return (← decimalValue (sign = .minus) text, cs.drop text.length)

/-- A number with or without a sign. -/
def number : Reader Datum
  | '+' :: cs => magnitude .plus cs
  | '-' :: cs => magnitude .minus cs
  | cs => magnitude .none cs

end BucketLifecycle.Json5
