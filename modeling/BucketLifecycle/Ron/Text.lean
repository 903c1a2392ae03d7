import BucketLifecycle.Decimal.Reader
import BucketLifecycle.Document.Datum
import BucketLifecycle.Text.Hexadecimal
import BucketLifecycle.Text.Reader

/-!
# The text of a RON document

Blanks and comments, names, strings, single characters and numbers.  Comments between a slash and a
star nest.  A raw string stands between quotes with as many number signs on either side and has no
escapes.
-/

set_option autoImplicit false

namespace BucketLifecycle.Ron

open Text (Reader expect splitRun)

/-- A character that may stand between any two tokens. -/
def isSpace (c : Char) : Bool :=
  c == ' ' || c == '\t' || c == '\n' || c == '\r'

/-- The text behind a comment of some depth, given what follows its beginning. -/
def closeComment : (depth : Nat) → List Char → Option (List Char)
  | 0, cs => some cs
  | _ + 1, [] => none
  | depth + 1, '/' :: '*' :: cs => closeComment (depth + 2) cs
  | depth + 1, '*' :: '/' :: cs => closeComment depth cs
  | depth + 1, _ :: cs => closeComment (depth + 1) cs

/-- The text behind blanks and comments; `fuel` bounds the number of comments. -/
def skipSpace : (fuel : Nat) → List Char → List Char
  | 0, cs => cs
  | fuel + 1, cs =>
    match cs.dropWhile isSpace with
    | '/' :: '/' :: rest => skipSpace fuel (rest.dropWhile (· != '\n'))
    | '/' :: '*' :: rest =>
      match closeComment 1 rest with
      | some rest => skipSpace fuel rest
      | none => '/' :: '*' :: rest
    | cs => cs

/-- The text behind blanks and comments. -/
def skip (cs : List Char) : List Char :=
  skipSpace (cs.length + 1) cs

/-- A character that may begin a name. -/
def isNameStart (c : Char) : Bool := c.isAlpha || c == '_'

/-- A character that a name may go on with. -/
def isNameChar (c : Char) : Bool := isNameStart c || c.isDigit

/-- A character of a raw name, which stands behind `r#`. -/
def isRawChar (c : Char) : Bool := isNameChar c || c == '.' || c == '+' || c == '-'

/-- A name.  The beginning of a raw string is none, nor is a name that only a raw one could go on.
-/
def name (cs : List Char) : Option (List Char × List Char) :=
  let plain (cs : List Char) : Option (List Char × List Char) :=
    let (text, rest) := splitRun isNameChar cs
    if rest.head?.any isRawChar then none else some (text, rest)
  match cs with
  | [] => none
  | 'r' :: '"' :: _ => none
  | 'r' :: '#' :: c :: rest => if isRawChar c then some (splitRun isRawChar (c :: rest)) else none
  | ['r', '#'] => none
  | c :: rest => if isNameStart c then plain (c :: rest) else none

/-- The text behind a word that is no part of a longer name. -/
def word? (word : String) (cs : List Char) : Option (List Char) := do
  let rest ← Text.dropStart? word.toList cs
  if rest.head?.any isNameChar then none else some rest

/-- The character that an escape spells, given what follows its backslash. -/
def escape : Reader Char
  | '\'' :: rest => some ('\'', rest)
  | '"' :: rest => some ('"', rest)
  | '\\' :: rest => some ('\\', rest)
  | 'n' :: rest => some ('\n', rest)
  | 'r' :: rest => some ('\r', rest)
  | 't' :: rest => some ('\t', rest)
  | '0' :: rest => some ('\x00', rest)
  | 'x' :: a :: b :: rest => do
    return (← Text.charOfNumber? (← Text.hexNumber? [a, b]), rest)
  | 'u' :: '\x7b' :: rest => do
    let ds := rest.takeWhile (· != '\x7d')
    if ds.isEmpty ∨ 6 < ds.length then none
    let rest ← expect '\x7d' (rest.drop ds.length)
    return (← Text.charOfNumber? (← Text.hexNumber? ds), rest)
  | _ => none

/-- The rest of a string up to its closing quote; `fuel` bounds its length. -/
def stringBody : (fuel : Nat) → Reader (List Char)
  | 0, _ => none
  | _ + 1, [] => none
  | _ + 1, '"' :: rest => some ([], rest)
  | fuel + 1, c :: cs => do
    let (c, rest) ← if c = '\\' then escape cs else some (c, cs)
    let (text, rest) ← stringBody fuel rest
    return (c :: text, rest)

/-- A raw string behind its letter. -/
def rawString (cs : List Char) : Option (List Char × List Char) := do
  let (signs, rest) := splitRun (· == '#') cs
  Text.cutAtSequence ('"' :: signs) (← expect '"' rest)

/-- A single character behind its opening quote. -/
def character : Reader Char := fun cs => do
  let (c, rest) ← match cs with
    | '\\' :: rest => escape rest
    | c :: rest => if c = '\'' then none else some (c, rest)
    | [] => none
  return (c, ← expect '\'' rest)

/-- A character of a whole number behind its sign and its base. -/
def isWholeChar (c : Char) : Bool := Text.isHexDigit c || c == '_'

/-- A character of a number with a fraction or an exponent. -/
def isFloatChar (c : Char) : Bool :=
  c.isDigit || c == '.' || c == 'e' || c == 'E' || c == '+' || c == '-' || c == '_'

/-- The base of a whole number, with the text behind its mark. -/
def splitBase : List Char → Nat × List Char
  | '0' :: 'x' :: rest => (16, rest)
  | '0' :: 'b' :: rest => (2, rest)
  | '0' :: 'o' :: rest => (8, rest)
  | cs => (10, cs)

/-- A whole number behind its sign, in which underscores may part the digits. -/
def wholeNumber (cs : List Char) : Option (Nat × List Char) := do
  let (base, rest) := splitBase cs
  let (text, rest) := splitRun isWholeChar rest
  if text.isEmpty ∨ text.head? = some '_' then none
  return (← Text.numberInBase? base (text.filter (· != '_')), rest)

/-- A floating-point number with its sign. -/
def floatNumber (cs : List Char) : Option (Datum × List Char) :=
  let special := ["inf", "+inf", "-inf", "NaN", "+NaN", "-NaN"].findSome? fun w => do
    let rest ← word? w cs
    return (← Decimal.readFloat w.toList, rest)
  match special with
  | some (x, rest) => some (.floating x, rest)
  | none => do
    let (text, rest) := splitRun isFloatChar cs
    return (.floating (← Decimal.readFloat text), rest)

/-- A number without sign as a value: whole where it fits 64 bits with a sign, and without limit in
between. -/
def unsignedDatum? (n : Nat) : Option Datum :=
  if n < Text.int64Limit then some (.integer (Int64.ofNat n))
  else if n < UInt64.size then some (.floating (Float.ofNat n))
  else none

/-- A number with a sign as a value. -/
def signedDatum? (negative : Bool) (n : Nat) : Option Datum :=
  if n < Text.int64Limit ∨ (negative ∧ n = Text.int64Limit) then
    some (.integer (Int64.ofInt (if negative then -n else n)))
  else none

/-- A number: a whole one where it reads as one, and a floating-point one elsewhere. -/
def number (cs : List Char) : Option (Datum × List Char) :=
  let sign := (cs.take 1).filter fun c => c == '+' || c == '-'
  let digits := cs.drop sign.length
  if (digits.takeWhile isWholeChar).length < (digits.takeWhile isFloatChar).length then
    floatNumber cs
  else
    let whole : Option (Datum × List Char) := do
      let (n, rest) ← wholeNumber digits
      let d ← if sign.isEmpty then unsignedDatum? n else signedDatum? (sign == ['-']) n
      return (d, rest)
    whole <|> floatNumber cs

end BucketLifecycle.Ron
