import BucketLifecycle.Text.Hexadecimal
import BucketLifecycle.Text.Reader

/-!
# The text of a TOML document

Blanks, comments, line ends, strings and keys.
-/

set_option autoImplicit false

namespace BucketLifecycle.Toml

open Text (Reader)

def isSpace (c : Char) : Bool := c == ' ' || c == '\t'

/-- The text behind the blanks at its front. -/
def skipSpaces (cs : List Char) : List Char := cs.dropWhile isSpace

/-- The text behind a line end. -/
def lineEnd? : List Char → Option (List Char)
  | '\n' :: rest => some rest
  | '\r' :: '\n' :: rest => some rest
  | _ => none

/-- A character that may stand in a comment or, its delimiters apart, in a string: any but the
control characters, of which the tab may. -/
def isPlain (c : Char) : Bool :=
  c == '\t' || (0x20 ≤ c.toNat && c.toNat != 0x7F)

/-- The text behind a comment, if one stands at its front. -/
def skipComment : List Char → List Char
  | '#' :: rest => rest.dropWhile isPlain
  | cs => cs

/-- The text behind blanks, comments and line ends; `fuel` bounds the number of lines. -/
def skipLines : (fuel : Nat) → List Char → List Char
  | 0, cs => cs
  | fuel + 1, cs =>
    match lineEnd? (skipComment (skipSpaces cs)) with
    | some rest => skipLines fuel rest
    | none => skipSpaces cs

/-- The text behind blanks, comments and line ends. -/
def skipBlankLines (cs : List Char) : List Char :=
  skipLines cs.length cs

/-- The character that an escape spells, given what follows its backslash. -/
def escape : Reader Char
  | 'b' :: rest => some ('\x08', rest)
  | 't' :: rest => some ('\t', rest)
  | 'n' :: rest => some ('\n', rest)
  | 'f' :: rest => some ('\x0c', rest)
  | 'r' :: rest => some ('\r', rest)
  | '"' :: rest => some ('"', rest)
  | '\\' :: rest => some ('\\', rest)
  | 'u' :: rest => hexEscape 4 rest
  | 'U' :: rest => hexEscape 8 rest
  | _ => none
where
  /-- A character by its number in so many digits. -/
  hexEscape (width : Nat) (cs : List Char) : Option (Char × List Char) := do
    if cs.length < width then none
    return (← Text.charOfNumber? (← Text.hexNumber? (cs.take width)), cs.drop width)

/-- The text behind blanks and line ends; `fuel` bounds the number of lines. -/
def skipEmptyLines : (fuel : Nat) → List Char → List Char
  | 0, cs => cs
  | fuel + 1, cs =>
    match lineEnd? (skipSpaces cs) with
    | some rest => skipEmptyLines fuel rest
    | none => skipSpaces cs

/-- The text behind an escaped line end: behind a backslash, blanks up to the end of the line, and
all blanks and line ends that follow. -/
def foldLine? (cs : List Char) : Option (List Char) :=
  (lineEnd? (skipSpaces cs)).map fun rest => skipEmptyLines rest.length rest

/-- The rest of a string between double quotes; `fuel` bounds its length. -/
def basicBody : (fuel : Nat) → Reader (List Char)
  | 0, _ => none
  | _ + 1, [] => none
  | _ + 1, '"' :: rest => some ([], rest)
  | fuel + 1, '\\' :: rest => do
    let (c, rest) ← escape rest
    let (cs, rest) ← basicBody fuel rest
    return (c :: cs, rest)
  | fuel + 1, c :: rest => do
    if !isPlain c then none
    let (cs, rest) ← basicBody fuel rest
    return (c :: cs, rest)

/-- The rest of a string between tripled double quotes; one or two quotes may stand before the
closing ones. -/
def longBasicBody : (fuel : Nat) → Reader (List Char)
  | 0, _ => none
  | _ + 1, [] => none
  | _ + 1, '"' :: '"' :: '"' :: '"' :: '"' :: rest => some (['"', '"'], rest)
  | _ + 1, '"' :: '"' :: '"' :: '"' :: rest => some (['"'], rest)
  | _ + 1, '"' :: '"' :: '"' :: rest => some ([], rest)
  | fuel + 1, '\\' :: rest =>
    match foldLine? rest with
    | some rest => longBasicBody fuel rest
    | none => do
      let (c, rest) ← escape rest
      let (cs, rest) ← longBasicBody fuel rest
      return (c :: cs, rest)
  | fuel + 1, c :: rest => do
    let (c, rest) ← match lineEnd? (c :: rest) with
      | some rest => some ('\n', rest)
      | none => if isPlain c then some (c, rest) else none
    let (cs, rest) ← longBasicBody fuel rest
    return (c :: cs, rest)

/-- The rest of a string between single quotes. -/
def literalBody : Reader (List Char)
  | [] => none
  | c :: rest => do
    if c = '\'' then return ([], rest)
    if !isPlain c then none
    let (cs, rest) ← literalBody rest
    return (c :: cs, rest)

/-- The rest of a string between tripled single quotes; one or two quotes may stand before the
closing ones. -/
def longLiteralBody : (fuel : Nat) → Reader (List Char)
  | 0, _ => none
  | _ + 1, [] => none
  | _ + 1, '\'' :: '\'' :: '\'' :: '\'' :: '\'' :: rest => some (['\'', '\''], rest)
  | _ + 1, '\'' :: '\'' :: '\'' :: '\'' :: rest => some (['\''], rest)
  | _ + 1, '\'' :: '\'' :: '\'' :: rest => some ([], rest)
  | fuel + 1, c :: rest => do
    let (c, rest) ← match lineEnd? (c :: rest) with
      | some rest => some ('\n', rest)
      | none => if isPlain c then some (c, rest) else none
    let (cs, rest) ← longLiteralBody fuel rest
    return (c :: cs, rest)

/-- The text behind the line end that may follow an opening tripled quote. -/
def skipFirstLineEnd (cs : List Char) : List Char :=
  (lineEnd? cs).getD cs

def shortString : Reader (List Char)
  | '"' :: rest => basicBody (rest.length + 1) rest
  | '\'' :: rest => literalBody rest
  | _ => none

def string : Reader (List Char)
  | '"' :: '"' :: '"' :: rest => longBasicBody (rest.length + 1) (skipFirstLineEnd rest)
  | '\'' :: '\'' :: '\'' :: rest => longLiteralBody (rest.length + 1) (skipFirstLineEnd rest)
  | cs => shortString cs

/-- A character of a key without quotes. -/
def isBareKey (c : Char) : Bool := c.isAlphanum || c == '_' || c == '-'

def keyPart (cs : List Char) : Option (String × List Char) :=
  let bare := cs.takeWhile isBareKey
  if bare.isEmpty then (shortString cs).map fun (s, rest) => (String.ofList s, rest)
  else some (String.ofList bare, cs.dropWhile isBareKey)

/-- The parts of a key between periods, with blanks around each; `fuel` bounds their number. -/
def keyParts : (fuel : Nat) → Reader (List String)
  | 0, _ => none
  | fuel + 1, cs => do
    let (part, rest) ← keyPart (skipSpaces cs)
    match skipSpaces rest with
    | '.' :: rest => do
      let (parts, rest) ← keyParts fuel rest
      return (part :: parts, rest)
    | rest => return ([part], rest)

/-- A key of so many parts is too long. -/
def keyLimit : Nat := 80

/-- A dotted key, as its steps and its last part. -/
def dottedKey : Reader (List String × String) := fun cs => do
  let (parts, rest) ← keyParts keyLimit cs
  if keyLimit ≤ parts.length then none
  return ((parts.dropLast, ← parts.getLast?), rest)

end BucketLifecycle.Toml
