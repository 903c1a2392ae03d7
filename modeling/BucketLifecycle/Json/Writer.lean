import BucketLifecycle.Json.Basic

/-!
# Compact JSON text

Writing puts no blanks between tokens.  In a string the quote, the backslash and the control
characters are escaped, the latter by their short escape where they have one and by four
lower-case hexadecimal digits elsewhere; all other characters stand as they are.
-/

set_option autoImplicit false

namespace BucketLifecycle.Json

/-- A hexadecimal digit in lower case. -/
def hexChar (n : Nat) : Char :=
  Nat.digitChar n

/-- The escape of a UTF-16 unit by its number. -/
def escapeUnit (n : Nat) : List Char :=
  ['\\', 'u', hexChar (n / 0x1000 % 16), hexChar (n / 0x100 % 16), hexChar (n / 0x10 % 16),
    hexChar (n % 16)]

/-- One character of a string literal. -/
def escapeChar (c : Char) : List Char :=
  if c = '"' then ['\\', '"']
  else if c = '\\' then ['\\', '\\']
  else if c = '\x08' then ['\\', 'b']
  else if c = '\x0c' then ['\\', 'f']
  else if c = '\n' then ['\\', 'n']
  else if c = '\r' then ['\\', 'r']
  else if c = '\t' then ['\\', 't']
  else if c.toNat < 0x20 then escapeUnit c.toNat
  else [c]

/-- One piece of a string literal. -/
def Piece.write : Piece → List Char
  | .char c => escapeChar c
  | .unit n => escapeUnit n

/-- A string literal between its quotes. -/
def StringLit.write (s : StringLit) : List Char :=
  '"' :: s.pieces.flatMap Piece.write ++ ['"']

def NumberLit.write (n : NumberLit) : List Char :=
  (if n.negative then ['-'] else []) ++ n.whole ++
    (match n.fraction with
      | none => []
      | some ds => '.' :: ds) ++
    (match n.exponent with
      | none => []
      | some (negative, ds) => 'e' :: (if negative then ['-'] else []) ++ ds)

mutual

/-- The text of a value; a gap has none. -/
def Node.write : Node → List Char
  | .null => ['n', 'u', 'l', 'l']
  | .bool true => ['t', 'r', 'u', 'e']
  | .bool false => ['f', 'a', 'l', 's', 'e']
  | .number n => n.write
  | .string s => s.write
  | .list items _ => '[' :: writeItems items ++ [']']
  | .object members _ => '\x7b' :: writeMembers members ++ ['\x7d']
  | .gap _ => []

/-- The items of a list with commas between them. -/
def Node.writeItems : List Node → List Char
  | [] => []
  | [item] => item.write
  | item :: next :: rest => item.write ++ ',' :: writeItems (next :: rest)

/-- The members of an object with commas between them. -/
def Node.writeMembers : List (StringLit × Node) → List Char
  | [] => []
  | [(key, value)] => key.write ++ ':' :: value.write
  | (key, value) :: next :: rest =>
    key.write ++ ':' :: value.write ++ ',' :: writeMembers (next :: rest)

end

def Node.text (n : Node) : String :=
  String.ofList n.write

end BucketLifecycle.Json
