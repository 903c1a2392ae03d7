import BucketLifecycle.Document.Datum
import BucketLifecycle.Text.Blank
import BucketLifecycle.Text.Hexadecimal
import BucketLifecycle.Text.Reader

/-!
# INI documents

A document has properties, each a key, an equals sign or a colon, and a value up to the end of the
line, and sections, each with its name between brackets and properties of its own.  The properties
in front of the first section belong to the document itself.  A backslash makes what follows it
stand for something else, also in keys and names; quotes in a value keep blanks and line ends.  A
comment takes a whole line.
-/

set_option autoImplicit false

namespace BucketLifecycle.Ini

open Text (Reader expect isBlank trim trimStart)

/-- The character whose number four hexadecimal digits spell; a plus sign may stand for the first of
them. -/
def numberedChar? : List Char → Option Char
  | '+' :: ds => (Text.hexNumber? ds).bind Text.charOfNumber?
  | ds => (Text.hexNumber? ds).bind Text.charOfNumber?

/-- What an escape spells, given what follows its backslash.  An escaped line end spells nothing,
and a character without a meaning of its own spells itself. -/
def escape : Reader (List Char)
  | [] => none
  | '0' :: rest => some (['\x00'], rest)
  | 'a' :: rest => some (['\x07'], rest)
  | 'b' :: rest => some (['\x08'], rest)
  | 't' :: rest => some (['\t'], rest)
  | 'r' :: rest => some (['\r'], rest)
  | 'n' :: rest => some (['\n'], rest)
  | '\n' :: rest => some ([], rest)
  | 'x' :: a :: b :: c :: d :: rest => (numberedChar? [a, b, c, d]).map fun e => ([e], rest)
  | 'x' :: _ => none
  | c :: rest => some ([c], rest)

/-- The text in front of a character that ends it, or up to the end of the document; `fuel` bounds
its length. -/
def textUntil (ends : Char → Bool) : (fuel : Nat) → Reader (List Char)
  | 0, _ => none
  | _ + 1, [] => some ([], [])
  | fuel + 1, c :: cs =>
    if ends c then some ([], c :: cs)
    else do
      let (part, rest) ← if c = '\\' then escape cs else some ([c], cs)
      let (text, rest) ← textUntil ends fuel rest
      return (part ++ text, rest)

/-- The text in front of a character that must end it, which is taken away too. -/
def enclosed (close : Char) (cs : List Char) : Option (List Char × List Char) := do
  let (text, rest) ← textUntil (· == close) (cs.length + 1) cs
  return (text, ← expect close rest)

/-- A character that ends a line. -/
def isLineEnd (c : Char) : Bool := c == '\n' || c == '\r'

def isSpace (c : Char) : Bool := isBlank c && !isLineEnd c

/-- The text without the blanks at its end. -/
def trimEnd (cs : List Char) : List Char :=
  (trimStart cs.reverse).reverse

/-- The rest of a value behind its parts in quotes, if there are any; `fuel` bounds their number. -/
def quotedValue : (fuel : Nat) → Reader (List Char)
  | 0, _ => none
  | fuel + 1, c :: cs =>
    if c = '"' ∨ c = '\'' then do
      let (part, rest) ← enclosed c cs
      let (text, rest) ← quotedValue fuel rest
      return (part ++ text, rest)
    else (textUntil isLineEnd (cs.length + 2) (c :: cs)).map fun (text, rest) =>
      (trimEnd text, rest)
  | _ + 1, [] => some ([], [])

/-- A value: parts in quotes, and the rest of the line.  Blanks at the end are no part of it, nor
are those in front where no quote stands. -/
def value (cs : List Char) : Option (List Char × List Char) :=
  match cs.dropWhile isSpace with
  | '"' :: rest => quotedValue (cs.length + 1) ('"' :: rest)
  | '\'' :: rest => quotedValue (cs.length + 1) ('\'' :: rest)
  | cs => (textUntil isLineEnd (cs.length + 1) cs).map fun (text, rest) => (trim text, rest)

/-- What a document says, piece by piece. -/
inductive Statement where
  | property (key value : String)
  /-- the properties that follow belong to a section -/
  | openSection (name : String)
  deriving DecidableEq, Repr

/-- A key that is not empty, an equals sign or a colon, and a value. -/
def property (cs : List Char) : Option (Statement × List Char) := do
  let (key, rest) ← textUntil (fun c => c == '=' || c == ':') (cs.length + 1) cs
  let key := trim key
  if key.isEmpty ∨ rest.isEmpty then none
  let (text, rest) ← value (rest.drop 1)
  return (.property (String.ofList key) (String.ofList text), rest)

/-- The text behind the rest of a line. -/
def nextLine (cs : List Char) : List Char :=
  (cs.dropWhile (· != '\n')).drop 1

/-- All statements. `atStart` says that a line begins here, which a comment needs; `fuel` bounds
the number of statements and comments. -/
def statements : (fuel : Nat) → (atStart : Bool) → List Char → Option (List Statement)
  | 0, _, _ => none
  | fuel + 1, atStart, cs =>
    let (blanks, rest) := Text.splitRun isBlank cs
    let atStart := blanks.getLast?.elim atStart (· == '\n')
    match rest with
    | [] => some []
    | '[' :: rest => do
      let (name, rest) ← enclosed ']' rest
      return .openSection (String.ofList (trim name)) :: (← statements fuel false rest)
    | c :: rest =>
      if c = ';' ∨ c = '#' then
        if atStart then statements fuel true (nextLine rest) else none
      else do
        let (s, rest) ← property (c :: rest)
        return s :: (← statements fuel false rest)

/-- A document that is being read: what is complete, the section that is open, and the properties
that it has so far. -/
structure Draft where
  done : List (String × Datum)
  current : Option String
  properties : List (String × Datum)

/-- The members of the document once the open section ends. -/
def Draft.members (d : Draft) : List (String × Datum) :=
  match d.current with
  | none => d.done ++ d.properties
  | some name => d.done ++ [(name, Datum.ofMembers d.properties)]

def Draft.add (d : Draft) : Statement → Draft
  | .property key value => { d with properties := d.properties ++ [(key, .text value)] }
  | .openSection name => ⟨d.members, some name, []⟩

/-- The members of a document, with a table for each section.  Of several sections with one name the
last counts. -/
def read (cs : List Char) : Option Datum := do
  let ss ← statements (cs.length + 1) true cs
  return Datum.ofMembers (ss.foldl Draft.add ⟨[], none, []⟩).members

end BucketLifecycle.Ini
