import BucketLifecycle.Text.Hexadecimal
import BucketLifecycle.Text.Utf8

/-!
# Percent encoding

Three encodings share one shape: a set of characters stands as it is, and the bytes of every other
character are written as a percent sign and two hexadecimal digits.

* `encodeSegment` leaves the unreserved characters alone and serves for one path segment.
* `formEncode` writes a blank as a plus sign and serves for the names and values of a query.
* `encodeOutside` leaves alone whatever a part of a URL may hold.

`formDecode` and `decode` undo them.
-/

set_option autoImplicit false

namespace BucketLifecycle.Percent

/-- An upper-case hexadecimal digit. -/
def hexUpper (n : Nat) : Char :=
  (Nat.digitChar n).toUpper

def encodeByte (b : UInt8) : List Char :=
  ['%', hexUpper (b.toNat / 16), hexUpper (b.toNat % 16)]

def encodeChar (c : Char) : List Char :=
  (String.utf8EncodeChar c).flatMap encodeByte

/-- Leaves the characters of a set as they are. -/
def encodeOutside (plain : Char → Bool) (cs : List Char) : List Char :=
  cs.flatMap fun c => if plain c then [c] else encodeChar c

/-- The characters that stand for themselves everywhere in a URL. -/
def isUnreserved (c : Char) : Bool :=
  c.isAlphanum || c == '-' || c == '.' || c == '_' || c == '~'

def encodeSegment (cs : List Char) : List Char :=
  encodeOutside isUnreserved cs

/-- The characters that stand for themselves in a form. -/
def isFormPlain (c : Char) : Bool :=
  c.isAlphanum || c == '*' || c == '-' || c == '.' || c == '_'

/-- A name or value of a query. -/
def formEncode (cs : List Char) : List Char :=
  cs.flatMap fun c => if c = ' ' then ['+'] else if isFormPlain c then [c] else encodeChar c

/-- Names with values as a query. -/
def formQuery (pairs : List (String × String)) : List Char :=
  joinPairs (pairs.map fun (k, v) => formEncode k.toList ++ '=' :: formEncode v.toList)
where
  /-- Puts an ampersand between neighbours. -/
  joinPairs : List (List Char) → List Char
    | [] => []
    | [p] => p
    | p :: q :: rest => p ++ '&' :: joinPairs (q :: rest)

/-- The bytes that an encoded text stands for.  A percent sign without two hexadecimal digits
behind it stands for itself. -/
def decode : List Char → Bytes
  | [] => []
  | '%' :: a :: b :: rest =>
    match Text.hexValue? a, Text.hexValue? b with
    | some x, some y => UInt8.ofNat (16 * x + y) :: decode rest
    | _, _ => 0x25 :: decode (a :: b :: rest)
  | c :: rest => String.utf8EncodeChar c ++ decode rest

/-- The bytes that a form text stands for. -/
def formDecode (cs : List Char) : Bytes :=
  decode (cs.map fun c => if c = '+' then ' ' else c)

end BucketLifecycle.Percent
