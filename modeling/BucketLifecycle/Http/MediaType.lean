import BucketLifecycle.Text.Reader
import BucketLifecycle.Text.Segments

/-!
# Media types

A content type is a type and a subtype with a slash between them, and behind each semicolon a
parameter: a name and, behind an equals sign, its value, which may stand in quotes.  Blanks are
passed over in front of a name and behind the quotes of a value.  A text of another form has no
parameters.
-/

set_option autoImplicit false

namespace BucketLifecycle.Http

/-- The name of a parameter with its value. -/
abbrev MediaParameter := List Char × List Char

namespace MediaType

/-- The characters of types, names and values without quotes. -/
def isToken (c : Char) : Bool :=
  c.isAlphanum || "!#$%&*+-.^_|~".toList.contains c || c == '\x27' || c == '\x60'

/-- What may stand between quotes. -/
def isQuotable (c : Char) : Bool :=
  0x20 ≤ c.toNat && c.toNat < 0x7F

/-- Where a reader of parameters stands. -/
inductive Place where
  /-- in front of a name -/
  | outside
  | name (read : List Char)
  /-- behind the equals sign of a name -/
  | equals (name : List Char)
  | value (name read : List Char)
  | quoted (name read : List Char)
  /-- behind a backslash between quotes -/
  | escaped (name read : List Char)
  /-- behind the quotes of a value -/
  | closed
  deriving DecidableEq, Repr

/-- The parameters that have been read, and where the reader stands. -/
structure Reading where
  found : List MediaParameter
  place : Place
  deriving DecidableEq, Repr

/-- One more character of the text behind the first semicolon. -/
def Reading.step (r : Reading) (c : Char) : Option Reading :=
  let goTo (place : Place) : Option Reading := some { r with place }
  let found (name value : List Char) (place : Place) : Option Reading :=
    some ⟨r.found ++ [(name, value)], place⟩
  match r.place with
  | .outside => if c = ' ' then some r else if isToken c then goTo (.name [c]) else none
  | .name read =>
    if isToken c then goTo (.name (read ++ [c])) else if c = '=' then goTo (.equals read) else none
  | .equals name =>
    if c = '"' then goTo (.quoted name []) else if isToken c then goTo (.value name [c]) else none
  | .value name read =>
    if isToken c then goTo (.value name (read ++ [c]))
    else if c = ';' then found name read .outside
    else none
  | .quoted name read =>
    -- A value has at least one character, so a quote right behind the first one is a part of it.
    if c = '"' ∧ read ≠ [] then found name read .closed
    else if c = '\\' then goTo (.escaped name (read ++ [c]))
    else if isQuotable c then goTo (.quoted name (read ++ [c]))
    else none
  | .escaped name read => if isQuotable c then goTo (.quoted name (read ++ [c])) else none
  | .closed => if c = ';' then goTo .outside else if c = ' ' then some r else none

/-- The parameters at the end of the text. -/
def Reading.parameters? (r : Reading) : Option (List MediaParameter) :=
  match r.place with
  | .outside | .closed => some r.found
  | .equals name => some (r.found ++ [(name, [])])
  | .value name read => some (r.found ++ [(name, read)])
  | .name _ | .quoted .. | .escaped .. => none

/-- The parameters of a content type, if it is one. -/
def parameters? (cs : List Char) : Option (List MediaParameter) := do
  let (type, rest) := Text.splitRun isToken cs
  let (subtype, rest) := Text.splitRun isToken (← Text.expect '/' rest)
  if type.isEmpty then none
  else match rest with
    | [] => some []
    | c :: rest =>
      if c = ';' ∧ subtype ≠ [] then
        (← rest.foldlM Reading.step ⟨[], .outside⟩).parameters?
      else none

/-- The value of the first parameter with a name in any case of letters. -/
def parameter? (name : String) (contentType : String) : Option (List Char) := do
  let parameters ← parameters? contentType.toList
  (parameters.find? fun p => String.ofList (p.1.map Char.toLower) == name).map Prod.snd

end MediaType

end BucketLifecycle.Http
