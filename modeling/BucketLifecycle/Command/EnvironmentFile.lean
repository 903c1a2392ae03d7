import BucketLifecycle.Settings.Environment
import BucketLifecycle.Text.Alphanumeric
import BucketLifecycle.Text.Blank
import BucketLifecycle.Text.Utf8

/-!
# Environment variables from a file

A file of assignments `NAME=value`, one on a line.  A variable that is set already keeps its value,
and the first line that is no assignment ends the file: what stands before it counts, what follows
does not.

Reading has two stages.  The first puts lines together while a quotation is open and cuts comments
off; the second reads one assignment, where quotation marks and backslashes are resolved and a name
behind a dollar sign, perhaps in braces, stands for the value of a variable.
-/

set_option autoImplicit false

namespace BucketLifecycle

open Text

/-! ## Lines -/

/-- Where a line stands between two characters. -/
inductive LineState where
  | plain
  /-- behind a blank that follows something else -/
  | blank
  | escaped
  | strong
  | strongEscaped
  | weak
  | weakEscaped
  | comment
  deriving DecidableEq, Repr

/-- Where a line stands behind a character that begins something, and elsewhere. -/
def LineState.opened : Char → LineState
  | '\\' => .escaped
  | '"' => .weak
  | '\'' => .strong
  | _ => .plain

/-- Where a line stands one character further. -/
def LineState.next : LineState → Char → LineState
  | .plain, c => if isBlank c && c != '\n' && c != '\r' then .blank else opened c
  | .blank, c => if c = '#' then .comment else opened c
  | .escaped, _ => .plain
  | .strong, c => if c = '\\' then .strongEscaped else if c = '\'' then .plain else .strong
  | .strongEscaped, _ => .strong
  | .weak, c => if c = '\\' then .weakEscaped else if c = '"' then .plain else .weak
  | .weakEscaped, _ => .weak
  | .comment, _ => .comment

/-- What a line holds in front of a comment, and where it stands at its end. -/
def scanLine : LineState → List Char → List Char × LineState
  | state, [] => ([], state)
  | state, c :: cs =>
    match state.next c with
    | .comment => ([], .comment)
    | state =>
      let (kept, last) := scanLine state cs
      (c :: kept, last)

/-- The assignments of lines that have their ends with them, each in one piece.  What is left
unfinished at the end is none. -/
def joinLines : LineState → (held : List Char) → List (List Char) → List (List Char)
  | _, _, [] => []
  | state, held, line :: rest =>
    if (trimStart (held ++ line)).head? = some '#' then joinLines .plain [] rest
    else
      let (kept, last) := scanLine state line
      if last = .plain ∨ last = .comment then (held ++ kept) :: joinLines .plain [] rest
      else joinLines last (held ++ kept) rest

/-- Bytes cut behind each end of a line. -/
def cutLines : Bytes → List Bytes
  | [] => []
  | b :: bytes =>
    if b = 0x0A then [b] :: cutLines bytes
    else match cutLines bytes with
      | [] => [[b]]
      | line :: rest => (b :: line) :: rest

/-- The lines in front of the first that is no text. -/
def textLines (content : Bytes) : List (List Char) :=
  ((cutLines content).map utf8Text?).takeWhile Option.isSome |>.filterMap fun line =>
    line.map String.toList

/-! ## Values -/

/-- What the next character of a value belongs to. -/
inductive ValueState where
  | plain
  /-- to what a backslash stands in front of -/
  | escaped
  /-- to a quotation in which nothing is resolved -/
  | strong
  /-- to the name of a variable -/
  | name (read : List Char)
  /-- to the name of a variable in braces -/
  | braced (read : List Char)
  /-- to nothing: a blank has ended the value -/
  | ended
  | comment
  deriving DecidableEq, Repr

/-- A value as far as it has been read. -/
structure ValueReader where
  written : List Char
  state : ValueState
  /-- whether a quotation is open in which variables and backslashes are resolved -/
  weak : Bool
  deriving DecidableEq, Repr

namespace ValueReader

def start : ValueReader := ⟨[], .plain, false⟩

/-- Writes characters and goes on in a state. -/
def write (r : ValueReader) (cs : List Char) (state : ValueState) : ValueReader :=
  { r with written := r.written ++ cs, state }

def goto (r : ValueReader) (state : ValueState) : ValueReader :=
  { r with state }

/-- What a character stands for behind a backslash. -/
def escape? (c : Char) : Option Char :=
  if c = 'n' then some '\n'
  else if ['\\', '\'', '"', '$', ' '].contains c then some c
  else none

/-- A character that belongs to nothing in particular. -/
def plainStep (r : ValueReader) (c : Char) : ValueReader :=
  if c = '$' then r.goto (.name [])
  else if c = '\\' then r.goto .escaped
  else if c = '"' then { r with weak := !r.weak }
  else if r.weak then r.write [c] .plain
  else if c = '\'' then r.goto .strong
  else if c = ' ' ∨ c = '\t' then r.goto .ended
  else r.write [c] .plain

/-- A character behind the name of a variable.  It ends the name and, unless it begins another one,
is written as it stands. -/
def afterName (r : ValueReader) (value : List Char) (c : Char) : ValueReader :=
  if c = '$' then r.write value (.name []) else r.write (value ++ [c]) .plain

def step (valueOf : List Char → List Char) (r : ValueReader) (c : Char) : Option ValueReader :=
  match r.state with
  | .plain => some (r.plainStep c)
  | .escaped => (escape? c).map fun c => r.write [c] .plain
  | .strong => some (if c = '\'' then r.goto .plain else r.write [c] .strong)
  | .name read =>
    some <|
      if isAlphanumeric c then r.goto (.name (read ++ [c]))
      else if c = '\x7b' && read.isEmpty then r.goto (.braced [])
      else r.afterName (valueOf read) c
  | .braced read =>
    some <|
      if c = '\x7d' then r.write (valueOf read) .plain else r.goto (.braced (read ++ [c]))
  | .ended =>
    if c = ' ' ∨ c = '\t' then some r else if c = '#' then some (r.goto .comment) else none
  | .comment => some r

/-- The value at its end, unless something is still open. -/
def finish (valueOf : List Char → List Char) (r : ValueReader) : Option (List Char) :=
  if r.weak then none
  else match r.state with
    | .strong | .braced _ => none
    | .name read => some (r.written ++ valueOf read)
    | _ => some r.written

end ValueReader

def readValue (valueOf : List Char → List Char) (cs : List Char) : Option (List Char) :=
  (cs.foldlM (ValueReader.step valueOf) .start).bind (ValueReader.finish valueOf)

/-! ## Assignments -/

/-- The name at the beginning of a line and what follows it. -/
def readName (cs : List Char) : Option (List Char × List Char) :=
  match cs with
  | [] => none
  | c :: _ =>
    if c.isAlpha || c == '_' then
      some (cs.span fun c => c.isAlphanum || c == '_' || c == '.')
    else none

/-- A name up to its equals sign and what follows that. -/
def readEqual : List Char × List Char → Option (List Char × List Char)
  | (name, rest) =>
    match trimStart rest with
    | '=' :: rest => some (name, rest)
    | _ => none

/-- The word that may stand in front of a name. -/
def exportWord : List Char := "export".toList

/-- The name that a line sets and what follows its equals sign. -/
def readTarget (line : List Char) : Option (List Char × List Char) := do
  let (first, rest) ← readName line
  match readEqual (first, rest) with
  | some target => some target
  | none => if first = exportWord then (readName (trimStart rest)).bind readEqual else none

/-- Whether nothing stands here but perhaps a comment. -/
def isVoid (cs : List Char) : Bool :=
  match cs with
  | [] => true
  | c :: _ => c == '#'

/-- The value behind an equals sign. -/
def readRight (valueOf : List Char → List Char) (cs : List Char) : Option (List Char) :=
  if isVoid cs then some [] else readValue valueOf cs

/-- The assignment on a line, if there is one; none at all where the line is no assignment. -/
def readAssignment (valueOf : List Char → List Char) (line : List Char) :
    Option (Option (String × String)) :=
  if isVoid (trim line) then some none
  else do
    let (name, rest) ← readTarget (trim line)
    let value ← readRight valueOf (trimStart rest)
    return some (String.ofList name, String.ofList value)

namespace Variables

/-- The value of a variable, which is empty where it is not set. -/
def valueOf (vars : Variables) (name : List Char) : List Char :=
  ((vars.lookup (String.ofList name)).getD "").toList

/-- Sets a variable that is not set.  No environment holds a value with a null character. -/
def setNew (vars : Variables) (name value : String) : Option Variables :=
  if (vars.lookup name).isSome then some vars
  else if value.toList.contains '\x00' then none
  else some (vars ++ [(name, value)])

/-- Sets the variables of assignments up to the first line that is none. -/
def setLines (vars : Variables) : List (List Char) → Option Variables
  | [] => some vars
  | line :: rest =>
    match readAssignment vars.valueOf line with
    | none => some vars
    | some none => vars.setLines rest
    | some (some (name, value)) => (vars.setNew name value).bind fun vars => vars.setLines rest

/-- Sets the variables of a file, which may begin with a mark of its encoding. -/
def setFile (vars : Variables) (content : Bytes) : Option Variables :=
  let content := match content with
    | 0xEF :: 0xBB :: 0xBF :: rest => rest
    | content => content
  vars.setLines (joinLines .plain [] (textLines content))

end Variables

end BucketLifecycle
