import BucketLifecycle.Path

/-!
# Files and directories

A tree of files and directories, given by the names on the way from the root to each entry, with a
working directory somewhere in it.  A path is walked one component after another, from the root if
it begins there and from the working directory otherwise; every component but the last must be a
directory.  There are no links in the tree, so a lone pair of periods leads to the directory above,
and from the root to the root itself.
-/

set_option autoImplicit false

namespace BucketLifecycle

/-- What stands at a path. -/
inductive Entry where
  | file (content : Bytes)
  | directory
  deriving DecidableEq, Repr

/-- Why an operation on files fails. -/
inductive FileError where
  | missing
  | exists
  | notDirectory
  | isDirectory
  | nameTooLong
  | zeroByte
  deriving DecidableEq, Repr

/-- The system's wording of each failure. -/
def FileError.message : FileError → String
  | .missing => "No such file or directory (os error 2)"
  | .exists => "File exists (os error 17)"
  | .notDirectory => "Not a directory (os error 20)"
  | .isDirectory => "Is a directory (os error 21)"
  | .nameTooLong => "File name too long (os error 36)"
  | .zeroByte => "file name contained an unexpected NUL byte"

/-- Where an entry stands: the names on the way from the root. -/
abbrev Place := List Bytes

/-- Files and directories, each place once, and the working directory. -/
structure FileTree where
  entries : List (Place × Entry)
  home : Place
  deriving DecidableEq, Repr

namespace FileTree

/-- Nothing but the root, which is the working directory. -/
def empty : FileTree := ⟨[], []⟩

/-- Nothing but a working directory and the directories above it. -/
def bare (home : Place) : FileTree :=
  ⟨(List.range home.length).map fun n => (home.take (n + 1), .directory), home⟩

/-- The entry at a place.  The root is a directory. -/
def entry? (t : FileTree) (place : Place) : Option Entry :=
  if place = [] then some .directory
  else (t.entries.find? fun e => e.1 == place).map Prod.snd

/-- Puts an entry at a place, instead of the one there. -/
def put (t : FileTree) (place : Place) (entry : Entry) : FileTree :=
  if (t.entries.any fun e => e.1 == place) then
    { t with entries := t.entries.map fun e => if e.1 == place then (place, entry) else e }
  else { t with entries := t.entries ++ [(place, entry)] }

/-- The longest name of a directory entry, in bytes. -/
def maxNameLength : Nat := 255

/-- The place that components lead to from a directory.  Each but the last must exist and be a
directory; the last may be missing. -/
def walk (t : FileTree) : Place → List Component → Except FileError Place
  | place, [] => .ok place
  | place, c :: rest =>
    match t.entry? place with
    | none => .error .missing
    | some (.file _) => .error .notDirectory
    | some .directory =>
      match c with
      | .root => t.walk [] rest
      | .current => t.walk place rest
      | .parent => t.walk place.dropLast rest
      | .normal name =>
        if maxNameLength < name.length then .error .nameTooLong
        else t.walk (place ++ [name]) rest

/-- The directory from which components are walked. -/
def start (t : FileTree) : List Component → Place
  | .root :: _ => []
  | _ => t.home

/-- The place that components lead to. -/
def resolve (t : FileTree) (cs : List Component) : Except FileError Place :=
  t.walk (t.start cs) cs

/-- The longest path, in bytes. -/
def maxPathLength : Nat := 4095

/-- The place that a path leads to. -/
def locate (t : FileTree) (p : Path) : Except FileError Place :=
  if p.contains 0 then .error .zeroByte
  else if p.isEmpty then .error .missing
  else if maxPathLength < p.length then .error .nameTooLong
  else t.resolve p.components

/-- Whether a path says that it leads to a directory: its last piece is empty or a lone period. -/
def namesDirectory (p : Path) : Bool :=
  match (Text.segments Path.slash p).getLast? with
  | some piece => piece == [] || piece == Path.dot
  | none => false

/-- The content of the file at a path. -/
def read (t : FileTree) (p : Path) : Except FileError Bytes := do
  let place ← t.locate p
  match t.entry? place with
  | none => .error .missing
  | some .directory => .error .isDirectory
  | some (.file content) => if namesDirectory p then .error .notDirectory else return content

/-- Whether a file stands at a path. -/
def isFile (t : FileTree) (p : Path) : Bool :=
  (t.read p).toBool

/-- Puts content into the file at a path, which need not exist; its directory must. -/
def write (t : FileTree) (p : Path) (content : Bytes) : Except FileError FileTree := do
  let place ← t.locate p
  match t.entry? place with
  | some .directory => .error .isDirectory
  | some (.file _) =>
    if namesDirectory p then .error .notDirectory else return t.put place (.file content)
  | none => if namesDirectory p then .error .isDirectory else return t.put place (.file content)

def makeDirectory (t : FileTree) (cs : List Component) : Except FileError FileTree := do
  if maxPathLength < Path.lengthOf cs then .error .nameTooLong
  let place ← t.resolve cs
  match t.entry? place with
  | some _ => .error .exists
  | none => return t.put place .directory

/-- Whether components lead to a directory. -/
def isDirectory (t : FileTree) (cs : List Component) : Bool :=
  match t.resolve cs with
  | .ok place => t.entry? place == some .directory
  | .error _ => false

/-- Makes a directory where none is; the components are given in reverse, so that the directory
above it is made first where it is missing.  Where this fails, the directories that were made on the
way stay. -/
def makeDirectories (t : FileTree) :
    (reversed : List Component) → Except FileError Unit × FileTree
  | [] => (.ok (), t)
  | c :: above =>
    let cs := (c :: above).reverse
    match t.makeDirectory cs with
    | .ok made => (.ok (), made)
    | .error .missing =>
      match t.makeDirectories above with
      | (.error e, made) => (.error e, made)
      | (.ok (), made) =>
        match made.makeDirectory cs with
        | .ok last => (.ok (), last)
        | .error e => (if made.isDirectory cs then .ok () else .error e, made)
    | .error e => (if t.isDirectory cs then .ok () else .error e, t)

/-- Makes the directory that a file at the path would stand in. -/
def makeParent (t : FileTree) (p : Path) : Except FileError Unit × FileTree :=
  if p.contains 0 then (.error .zeroByte, t)
  else match p.parent? with
    | none => (.ok (), t)
    | some cs => t.makeDirectories cs.reverse

/-- The content of every file below the working directory, with its path from there. -/
def files (t : FileTree) : List (Path × Bytes) :=
  t.entries.filterMap fun (place, entry) =>
    match Text.dropStart? t.home place, entry with
    | some names, .file content => some (Text.joinSegments Path.slash names, content)
    | _, _ => none

/-- The place that a path names, whatever stands on the way. -/
def namedPlace (t : FileTree) (p : Path) : Place :=
  p.components.foldl (fun place c => match c with
    | .root => []
    | .current => place
    | .parent => place.dropLast
    | .normal name => place ++ [name]) t.home

/-- Puts an entry at a path, with the directories that lead to it. -/
def seed (t : FileTree) (p : Path) (entry : Entry) : FileTree :=
  let place := t.namedPlace p
  let above := (List.range place.length).map fun n => place.take n
  (above.foldl (fun t place => if (t.entry? place).isSome then t else t.put place .directory) t).put
    place entry

end FileTree

end BucketLifecycle
