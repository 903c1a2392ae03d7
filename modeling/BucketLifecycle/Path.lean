import BucketLifecycle.Text.Segments
import BucketLifecycle.Text.Utf8

/-!
# File paths

A path is a run of bytes.  Its components are what it names in order: the root if it begins with a
slash, the current directory if it begins with a lone period, and then each piece between slashes
that is neither empty nor a lone period.
-/

set_option autoImplicit false

namespace BucketLifecycle

/-- A path as its bytes. -/
abbrev Path := Bytes

/-- What one step of a path names. -/
inductive Component where
  | root
  | current
  | parent
  | normal (name : Bytes)
  deriving DecidableEq, Repr

namespace Path

def slash : UInt8 := 0x2F

/-- The name of the current directory. -/
def dot : Bytes := [0x2E]

/-- The name of the parent directory. -/
def dotDot : Bytes := [0x2E, 0x2E]

/-- What a piece between slashes names, if it names anything. -/
def component? (piece : Bytes) : Option Component :=
  if piece = [] ∨ piece = dot then none
  else if piece = dotDot then some .parent
  else some (.normal piece)

/-- What the beginning of a path names besides its pieces. -/
def front (p : Path) : List Component :=
  match p with
  | [] => []
  | b :: _ =>
    if b = slash then [.root]
    else if (Text.segments slash p).head? = some dot then [.current]
    else []

def components (p : Path) : List Component :=
  front p ++ (Text.segments slash p).filterMap component?

/-- The components of a path behind those of a prefix, if it begins with them. -/
def stripPrefix? (lead p : Path) : Option (List Component) :=
  Text.dropStart? lead.components p.components

/-- The path with a name put behind it. -/
def push (p : Path) (name : Bytes) : Path :=
  if p.isEmpty || p.getLast? == some slash then p ++ name else p ++ slash :: name

/-- The last component, if it is a name. -/
def fileName? (p : Path) : Option Bytes :=
  match p.components.getLast? with
  | some (.normal name) => some name
  | _ => none

/-- What follows the last period of a file name, unless that period begins the name. -/
def extension? (p : Path) : Option Bytes := do
  let name ← p.fileName?
  let pieces := Text.segments 0x2E name
  if pieces.length < 2 ∨ pieces.dropLast = [[]] then none else pieces.getLast?

/-- The components in front of the last, if there is one besides the root. -/
def parent? (p : Path) : Option (List Component) :=
  match p.components.getLast? with
  | none | some .root => none
  | some _ => some p.components.dropLast

/-- The path that names components in order. -/
def ofComponents (cs : List Component) : Path :=
  cs.foldl (fun p c => match c with
    | .root => [slash]
    | .current => p.push dot
    | .parent => p.push dotDot
    | .normal name => p.push name) []

/-- The bytes of a component with the slash in front of it. -/
def componentLength : Component → Nat
  | .root => 0
  | .current => dot.length + 1
  | .parent => dotDot.length + 1
  | .normal name => name.length + 1

/-- The length of the path that names components in order, the root alone apart. -/
def lengthOf : List Component → Nat
  | .root :: cs => cs.foldl (fun n c => n + componentLength c) 0
  | cs => cs.foldl (fun n c => n + componentLength c) 0 - 1

/-- The path with an extension put behind its last name, if its last component is a name. -/
def withExtension? (p : Path) (extension : Bytes) : Option Path :=
  match p.components.getLast? with
  | some (.normal name) =>
    some (ofComponents (p.components.dropLast ++ [.normal (name ++ 0x2E :: extension)]))
  | _ => none

/-- The components that lead to others below the root from a directory, of which the names from the
root are given. -/
def between : List Bytes → List Component → List Component
  | base :: above, .normal name :: rest =>
    if name = base then between above rest
    else (base :: above).map (fun _ => .parent) ++ .normal name :: rest
  | above, rest => above.map (fun _ => .parent) ++ rest

end Path

end BucketLifecycle
