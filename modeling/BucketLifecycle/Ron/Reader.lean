import BucketLifecycle.Ron.Text

/-!
# Reading RON documents

A value in round brackets is a table where a name and a colon stand first, and a list elsewhere; it
may have a name of its own in front.  Such a name alone says nothing, nor does an empty pair of
brackets.  A table between braces has texts for its keys.  Values nest to a fixed depth, which makes
the reader of values structurally recursive.
-/

set_option autoImplicit false

namespace BucketLifecycle.Ron

open Text (Reader expect)

/-- A key of one kind, a colon and a value. -/
def member (key : Reader String) (item : Reader Datum) : Reader (String × Datum) := fun cs => do
  let (key, rest) ← key cs
  let rest ← expect ':' (skip rest)
  let (v, rest) ← item (skip rest)
  return ((key, v), rest)

/-- A name as the key of a member. -/
def nameKey : Reader String := fun cs =>
  (name cs).map fun (text, rest) => (String.ofList text, rest)

/-- A text as the key of a member. -/
def textKey (item : Reader Datum) : Reader String := fun cs => do
  match ← item cs with
  | (.text s, rest) => return (s, rest)
  | _ => none

/-- Whether a name and a colon stand in front. -/
def startsWithKey (cs : List Char) : Bool :=
  match name cs with
  | some (_, rest) => (skip rest).head? == some ':'
  | none => false

/-- What stands in round brackets, behind the opening one. -/
def bracketed (item : Reader Datum) (cs : List Char) : Option (Datum × List Char) :=
  if startsWithKey (skip cs) then
    (Text.commaSeparated skip (member nameKey item) ')' (cs.length + 1) cs).map
      fun (ms, rest) => (Datum.ofMembers ms, rest)
  else
    (Text.commaSeparated skip item ')' (cs.length + 1) cs).map
      fun (items, rest) => (.list items, rest)

/-- A value behind `Some`, in round brackets. -/
def present (item : Reader Datum) (cs : List Char) : Option (Datum × List Char) := do
  let (v, rest) ← item (skip (← expect '(' (skip cs)))
  let rest := skip rest
  let rest := match rest with
    | ',' :: rest => skip rest
    | rest => rest
  return (v, ← expect ')' rest)

/-- The words that are values, with the numbers among them. -/
def wordValue (cs : List Char) : Option (Datum × List Char) :=
  let words := [("true", Datum.boolean true), ("false", .boolean false), ("None", .null),
    ("inf", .floating (1 / 0)), ("-inf", .floating (-1 / 0)), ("NaN", .floating (0 / 0))]
  words.findSome? fun (word, v) => (word? word cs).map fun rest => (v, rest)

/-- A value that begins with a character of its own kind; `item` reads the values inside it. -/
def markedValue (item : Reader Datum) : Reader Datum
  | '(' :: rest => bracketed item rest
  | '[' :: rest =>
    (Text.commaSeparated skip item ']' (rest.length + 1) rest).map
      fun (items, rest) => (.list items, rest)
  | '\x7b' :: rest =>
    (Text.commaSeparated skip (member (textKey item) item) '\x7d' (rest.length + 1) rest).map
      fun (ms, rest) => (Datum.ofMembers ms, rest)
  | '"' :: rest =>
    (stringBody (rest.length + 1) rest).map fun (s, rest) => (.text (String.ofList s), rest)
  | 'r' :: rest => (rawString rest).map fun (s, rest) => (.text (String.ofList s), rest)
  | '\'' :: rest => (character rest).map fun (c, rest) => (.text (String.singleton c), rest)
  | c :: rest =>
    if c.isDigit ∨ c = '+' ∨ c = '-' then number (c :: rest)
    else if c = '.' then floatNumber (c :: rest)
    else none
  | [] => none

/-- A value; `item` reads the values inside it. -/
def valueWith (item : Reader Datum) (cs : List Char) : Option (Datum × List Char) :=
  match wordValue cs, word? "Some" cs with
  | some found, _ => some found
  | none, some rest => present item rest
  | none, none =>
    match cs with
    | '(' :: ')' :: rest => some (.null, rest)
    | cs =>
      match name cs with
      | none => markedValue item cs
      | some (_, rest) =>
        match skip rest with
        | '(' :: rest => bracketed item rest
        | rest => some (.null, rest)

/-- A value with others at most `room` deep inside it. -/
def value : (room : Nat) → Reader Datum
  | 0 => valueWith fun _ => none
  | room + 1 => valueWith (value room)

def depthLimit : Nat := 128

def token (word : String) (cs : List Char) : Option (List Char) :=
  Text.dropStart? word.toList (skip cs)

/-- The names of the ways of writing that a document may ask for. -/
def extensions : List String :=
  ["unwrap_newtypes", "implicit_some", "unwrap_variant_newtypes"]

/-- The names of ways of writing, with commas between them; `fuel` bounds their number. -/
def extensionNames : (fuel : Nat) → List Char → Option (List Char)
  | 0, _ => none
  | fuel + 1, cs => do
    let (text, rest) ← name cs
    if !extensions.contains (String.ofList text) then none
    match skip rest with
    | ',' :: rest =>
      let rest := skip rest
      if rest.head?.any isNameChar then extensionNames fuel rest else return rest
    | rest => return rest

/-- The text behind what a document asks for in front; `fuel` bounds the number of lines. -/
def skipRequests : (fuel : Nat) → List Char → Option (List Char)
  | 0, _ => none
  | fuel + 1, cs =>
    match skip cs with
    | '#' :: rest => do
      let rest ← token "(" (← token "enable" (← token "[" (← token "!" rest)))
      let rest ← token "]" (← token ")" (← extensionNames (rest.length + 1) (skip rest)))
      skipRequests fuel rest
    | rest => some rest

def read (cs : List Char) : Option Datum := do
  let (v, rest) ← value depthLimit (skip (← skipRequests (cs.length + 1) cs))
  if (skip rest).isEmpty then some v else none

end BucketLifecycle.Ron
