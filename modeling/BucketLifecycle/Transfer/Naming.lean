import BucketLifecycle.Failure
import BucketLifecycle.Path

/-!
# Names of transferred files

An uploaded file becomes the object whose name is made of the file's path components, without a
leading directory if one is to be stripped.  A downloaded object becomes the file whose path is
made of the segments of the object's name, without a leading part if one is to be stripped.
Neither mapping lets a name climb out of where it is put.
-/

set_option autoImplicit false

namespace BucketLifecycle

/-- Why a file and an object do not correspond. -/
inductive NamingReason where
  | pathPrefix (lead : Path)
  | notText
  | parentComponent
  | nothingLeft
  | namePrefix (lead : String)
  | relativeSegment
  deriving DecidableEq, Repr

def NamingReason.message : NamingReason → String
  | .pathPrefix p => "path does not start with " ++ Text.utf8Lossy p
  | .notText => "path is not valid UTF-8"
  | .parentComponent => "path cannot contain '..'"
  | .nothingLeft => "no file name left after stripping prefix"
  | .namePrefix p => "object name does not start with " ++ Text.quoted p
  | .relativeSegment => "object name cannot contain relative segments"

/-- The names among the components of a path, as texts. -/
def segmentNames : List Component → Except NamingReason (List (List Char))
  | [] => .ok []
  | .root :: rest => segmentNames rest
  | .current :: rest => segmentNames rest
  | .parent :: _ => .error .parentComponent
  | .normal name :: rest =>
    match Text.utf8Text? name with
    | none => .error .notText
    | some s => (segmentNames rest).map (s.toList :: ·)

/-- The name that a file has below its destination. -/
def relativeName (file : Path) (strip : Option Path) : Except NamingReason (List Char) := do
  let components ← match strip with
    | none => .ok file.components
    | some p => match Path.stripPrefix? p file with
      | some cs => .ok cs
      | none => .error (.pathPrefix p)
  let names ← segmentNames components
  if names.isEmpty then .error .nothingLeft
  return Text.joinSegments '/' names

/-- The object that a file is uploaded as. -/
def objectNameFor (file : Path) (strip : Option Path) (dest : ObjectUri) :
    Except LifecycleError ObjectUri :=
  match relativeName file strip with
  | .ok name => .ok (dest.join (String.ofList name))
  | .error reason => .error (.transfer file reason.message)

/-- The segments of an object's name behind a stripped part, empty ones apart. -/
def relativeSegments (name : List Char) (strip : Option String) :
    Except NamingReason (List (List Char)) := do
  let rest ← match strip with
    | none => .ok name
    | some p => match Text.dropStart? p.toList name with
      | some rest => .ok rest
      | none => .error (.namePrefix p)
  let names := (Text.segments '/' rest).filter fun s => !s.isEmpty
  if names.any isRelativeSegment then .error .relativeSegment
  if names.isEmpty then .error .nothingLeft
  return names

/-- The file that an object is downloaded to. -/
def localPathFor (source : ObjectUri) (strip : Option String) (dir : Path) :
    Except LifecycleError Path :=
  match relativeSegments source.path.toList strip with
  | .ok names => .ok (names.foldl (fun p name => Path.push p (Text.utf8Encode name)) dir)
  | .error reason => .error (.transfer (Text.utf8Bytes source.path) reason.message)

end BucketLifecycle
