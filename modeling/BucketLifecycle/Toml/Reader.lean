import BucketLifecycle.Toml.Scalar

/-!
# Reading TOML documents

A document is read line by line into statements, and the statements are carried out in order.
Arrays and tables between braces nest to a fixed depth, which makes the reader of values
structurally recursive.
-/

set_option autoImplicit false

namespace BucketLifecycle.Toml

open Text (Reader expect)

/-- A key, an equals sign and a value. -/
def assignment (item : Reader Value) : Reader ((List String × String) × Value) := fun cs => do
  let (key, rest) ← dottedKey cs
  let rest ← expect '=' (skipSpaces rest)
  let (v, rest) ← item (skipSpaces rest)
  return ((key, v), rest)

/-- The rest of a table between braces behind its opening brace or a comma; `fuel` bounds the
number of members. -/
def inlineMembers (item : Reader Value) : (fuel : Nat) → Members → Reader Members
  | 0, _, _ => none
  | fuel + 1, ms, cs => do
    let (((path, key), v), rest) ← assignment item cs
    let ms ← assign path key v .closed ms
    match skipSpaces rest with
    | ',' :: rest => inlineMembers item fuel ms rest
    | '\x7d' :: rest => return (ms, rest)
    | _ => none

/-- A value, with arrays and tables at most `room` deep. -/
def value : (room : Nat) → Reader Value
  | room, cs =>
    match cs with
    | '"' :: _ => (string cs).map fun (s, rest) => (.string (String.ofList s), rest)
    | '\'' :: _ => (string cs).map fun (s, rest) => (.string (String.ofList s), rest)
    | '[' :: rest =>
      match room with
      | 0 => none
      | room + 1 =>
        (Text.commaSeparated skipBlankLines (value room) ']' (rest.length + 1) rest).map
          fun (vs, rest) => (.array vs, rest)
    | '\x7b' :: rest =>
      match room with
      | 0 => none
      | room + 1 =>
        match skipSpaces rest with
        | '\x7d' :: rest => some (.table .closed [], rest)
        | _ =>
          (inlineMembers (value room) (rest.length + 1) [] rest).map fun (ms, rest) =>
            (.table .closed ms, rest)
    | cs => scalar cs

/-- How deep arrays and tables may nest inside a value. -/
def depthLimit : Nat := 79

/-- A header behind its opening bracket or brackets. -/
def header : Reader Statement
  | '[' :: cs => do
    let ((path, key), rest) ← dottedKey cs
    return (.itemHeader path key, ← expect ']' (← expect ']' rest))
  | cs => do
    let ((path, key), rest) ← dottedKey cs
    return (.header path key, ← expect ']' rest)

/-- The statement of a line, if there is one. -/
def statement (cs : List Char) : Option (Option Statement × List Char) :=
  match cs with
  | [] => some (none, [])
  | '#' :: _ => some (none, cs)
  | '\n' :: _ => some (none, cs)
  | '\r' :: _ => some (none, cs)
  | '[' :: rest => (header rest).map fun (s, rest) => (some s, rest)
  | cs => (assignment (value depthLimit) cs).map fun (((path, key), v), rest) =>
      (some (.assign path key v), rest)

/-- The statements of all lines; `fuel` bounds the number of lines. -/
def statements : (fuel : Nat) → List Char → Option (List Statement)
  | 0, _ => none
  | fuel + 1, cs => do
    let (s, rest) ← statement (skipSpaces cs)
    match skipComment (skipSpaces rest) with
    | [] => return s.toList
    | rest => do
      let ss ← statements fuel (← lineEnd? rest)
      return s.toList ++ ss

/-- The mark that may stand in front of a text. -/
def byteOrderMark : Char := '\uFEFF'

/-- The text without the mark in front. -/
def skipMark : List Char → List Char
  | c :: rest => if c = byteOrderMark then rest else c :: rest
  | [] => []

/-- The key that makes the string behind it a date or a time, where it is the first of a table. -/
def momentKey : String := "$__toml_private_datetime"

mutual

/-- A value with dates and times in place of the tables that stand for them. -/
def Value.settle : Value → Option Value
  | .array items => (settleItems items).map .array
  | .tables items => (settleTables items).map .array
  | .table kind ms => settleTable kind ms
  | .string s => some (.string s)
  | .integer n => some (.integer n)
  | .floating x => some (.floating x)
  | .boolean b => some (.boolean b)
  | .moment text => some (.moment text)

/-- A table, or the date or time that it stands for. -/
def settleTable (kind : TableKind) : List (String × Value) → Option Value
  | [] => some (.table kind [])
  | (key, v) :: rest =>
    if key = momentKey then
      match v with
      | .string s => (momentOfString s).map .moment
      | _ => none
    else do
      let v ← v.settle
      let rest ← settleMembers rest
      return .table kind ((key, v) :: rest)

def settleItems : List Value → Option (List Value)
  | [] => some []
  | v :: rest => do
    let v ← v.settle
    return v :: (← settleItems rest)

/-- The tables of an array of tables. -/
def settleTables : List (List (String × Value)) → Option (List Value)
  | [] => some []
  | ms :: rest => do
    let v ← settleTable .defined ms
    return v :: (← settleTables rest)

def settleMembers : List (String × Value) → Option (List (String × Value))
  | [] => some []
  | (key, v) :: rest => do
    let v ← v.settle
    return (key, v) :: (← settleMembers rest)

end

/-- The table of a document, or the date or time that it stands for. -/
def read (cs : List Char) : Option Value := do
  let cs := skipMark cs
  settleTable .defined (← Members.ofStatements (← statements (cs.length + 1) cs))

end BucketLifecycle.Toml
