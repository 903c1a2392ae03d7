import BucketLifecycle.Decimal.Reader
import BucketLifecycle.Settings.Layer
import BucketLifecycle.Text.Segments

/-!
# Settings from environment variables

A variable gives a setting if its name begins with `STEWARD_`, in capital or small letters; two
underscores in the rest divide the steps of a path.  Its value is a truth value or a number where
it reads as one, and a text elsewhere.
-/

set_option autoImplicit false

namespace BucketLifecycle

/-- A set of environment variables. -/
abbrev Variables := List (String × String)

/-- What the names of variables begin with. -/
def variableMark : String := "steward_"

/-- A name with a period for each two underscores. -/
def dividedName : List Char → List Char
  | '_' :: '_' :: rest => '.' :: dividedName rest
  | c :: rest => c :: dividedName rest
  | [] => []

/-- The setting that a variable gives. -/
def settingKey? (name : String) : Option String :=
  (Text.dropStart? variableMark.toList (name.toList.map smallLetter)).map fun rest =>
    String.ofList (dividedName rest)

/-- What the value of a variable reads as. -/
def readScalar (s : String) : Scalar :=
  let word := String.ofList (s.toList.map Char.toLower)
  if word = "true" then .boolean true
  else if word = "false" then .boolean false
  else match Text.readInt64 s.toList with
    | .ok n => .integer (Int64.ofInt n)
    | .error _ => match Decimal.readFloat s.toList with
      | some x => .floating x
      | none => .text s

/-- The layer of settings that variables give. -/
def Layer.ofVariables (vars : Variables) : Layer :=
  vars.filterMap fun (name, value) =>
    (settingKey? name).map fun key => (key, .scalar (some .environment) (readScalar value))

end BucketLifecycle
