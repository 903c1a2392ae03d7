import BucketLifecycle.Json5.Text

/-!
# Reading JSON5 documents

A document is one value with blanks and comments around its tokens.  Values nest no deeper than the
text is long, which makes the reader of values structurally recursive.
-/

set_option autoImplicit false

namespace BucketLifecycle.Json5

open Text (Reader expect)

/-- A key, a colon and a value. -/
def member (item : Reader Datum) : Reader (String × Datum) := fun cs => do
  let (key, rest) ← key cs
  let rest ← expect ':' (skip rest)
  let (v, rest) ← item (skip rest)
  return ((key, v), rest)

/-- A value, with lists and objects at most `room` deep. -/
def value : (room : Nat) → Reader Datum
  | 0, _ => none
  | _ + 1, 'n' :: 'u' :: 'l' :: 'l' :: rest => some (.null, rest)
  | _ + 1, 't' :: 'r' :: 'u' :: 'e' :: rest => some (.boolean true, rest)
  | _ + 1, 'f' :: 'a' :: 'l' :: 's' :: 'e' :: rest => some (.boolean false, rest)
  | _ + 1, '"' :: rest => (string ('"' :: rest)).map fun (s, rest) => (.text s, rest)
  | _ + 1, '\'' :: rest => (string ('\'' :: rest)).map fun (s, rest) => (.text s, rest)
  | room + 1, '[' :: rest =>
    (Text.commaSeparated skip (value room) ']' (rest.length + 1) rest).map
      fun (items, rest) => (.list items, rest)
  | room + 1, '\x7b' :: rest =>
    (Text.commaSeparated skip (member (value room)) '\x7d' (rest.length + 1) rest).map
      fun (ms, rest) => (Datum.ofMembers ms, rest)
  | _ + 1, cs => number cs

def read (cs : List Char) : Option Datum := do
  let (v, rest) ← value (cs.length + 1) (skip cs)
  if (skip rest).isEmpty then some v else none

end BucketLifecycle.Json5
