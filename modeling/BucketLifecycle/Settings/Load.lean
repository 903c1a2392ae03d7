import BucketLifecycle.Settings.Decode
import BucketLifecycle.Settings.Environment
import BucketLifecycle.Settings.File

/-!
# Loading settings

Settings come from a file, if one is named, and from environment variables, which win over it.
-/

set_option autoImplicit false

namespace BucketLifecycle

/-- Why settings cannot be loaded. -/
inductive SettingsError where
  | file (fault : FileFault)
  | value (fault : SettingsFault)
  deriving DecidableEq, Repr

def SettingsError.message : SettingsError → String
  | .file fault => fault.message
  | .value fault => fault.message

/-- The layer of a file that may be named. -/
def fileLayers (files : FileTree) : Option Path → Except FileFault (List Layer)
  | none => .ok []
  | some name => (Layer.ofFile files name).map fun layer => [layer]

/-- The settings of a file and of environment variables. -/
def Settings.load (file : Option Path) (vars : Variables) (files : FileTree) :
    Except SettingsError Settings := do
  let lower ← (fileLayers files file).mapError SettingsError.file
  let tree := SettingTree.ofLayers (lower ++ [Layer.ofVariables vars])
  (Settings.ofTree tree).mapError .value

end BucketLifecycle
