import BucketLifecycle.FileTree
import BucketLifecycle.Settings.Document

/-!
# Settings from a file

A settings file tells its format by its extension.  A name without a file of its own stands for the
file with one of the known extensions behind it.
-/

set_option autoImplicit false

namespace BucketLifecycle

/-- Why a settings file gives no layer. -/
inductive FileFault where
  | missing (name : Path)
  | unknownFormat (name : Path)
  /-- its bytes spell no text -/
  | noText
  | content (name : String) (fault : ContentFault)
  deriving DecidableEq, Repr

def FileFault.message : FileFault → String
  | .missing name => "configuration file \"" ++ Text.utf8Lossy name ++ "\" not found"
  | .unknownFormat name =>
    "configuration file \"" ++ Text.utf8Lossy name ++ "\" is not of a registered file format"
  | .noText => "stream did not contain valid UTF-8"
  | .content name fault => fault.message ++ " in " ++ name

/-- The files that a name without a file of its own may stand for, with their formats. -/
def extendedNames (name : Path) : List (Path × SettingsFormat) :=
  settingsExtensions.filterMap fun (e, f) =>
    (name.withExtension? (Text.utf8Bytes e)).map fun p => (p, f)

/-- The files that a name may stand for. -/
def settingsCandidates (name : Path) : List Path :=
  name :: (extendedNames name).map Prod.fst

/-- The file that a name stands for, with its format. -/
def findSettings (files : FileTree) (name : Path) : Except FileFault (Path × SettingsFormat) :=
  if files.isFile name then
    match settingsExtensions.find? fun (e, _) => name.extension? == some (Text.utf8Bytes e) with
    | some (_, f) => .ok (name, f)
    | none => .error (.unknownFormat name)
  else
    match (extendedNames name).find? fun c => files.isFile c.1 with
    | some c => .ok c
    | none => .error (.missing name)

/-- The name of a settings file as messages show it: the way to it from the working directory. -/
def settingsName (files : FileTree) (p : Path) : String :=
  let shown := match p.components with
    | .root :: rest => Path.between files.home rest
    | cs => cs.filter (· != .current)
  Text.utf8Lossy (Path.ofComponents shown)

/-- The layer of settings that a file gives. -/
def Layer.ofFile (files : FileTree) (name : Path) : Except FileFault Layer := do
  let (path, format) ← findSettings files name
  let content ← (files.read path).mapError fun _ => FileFault.missing name
  let some text := Text.utf8Text? content | .error .noText
  let shown := settingsName files path
  (Layer.ofDocument (.file shown) format text).mapError (.content shown)

end BucketLifecycle
