import BucketLifecycle.Settings.Tree
import BucketLifecycle.Text.Decimal

/-!
# Names of settings with steps

A name at the top of a layer may lead into tables and lists: `retry.max_delay` is the member
`max_delay` of the table `retry`, and a number between brackets is a place in a list.  A name that
is no such path stands for itself.
-/

set_option autoImplicit false

namespace BucketLifecycle

/-- A layer: values under names that may have steps. -/
abbrev Layer := List (String × SettingTree)

def isStepChar (c : Char) : Bool :=
  c.isAlphanum || c == ' ' || c == '_' || c == '-'

def isPlaceBlank (c : Char) : Bool := c == ' ' || c == '\t'

/-- The number between brackets, with the text behind the closing one. -/
def bracketed (cs : List Char) : Option (Int × List Char) := do
  let cs := cs.dropWhile isPlaceBlank
  let (negative, cs) := match cs with
    | '-' :: rest => (true, rest)
    | cs => (false, cs)
  let ds := cs.takeWhile Char.isDigit
  if ds.isEmpty then none
  let n := (Text.digitsValue ds : Int)
  match (cs.drop ds.length).dropWhile isPlaceBlank with
  | ']' :: rest =>
    if n < Text.int64Limit ∨ (negative ∧ n = Text.int64Limit) then
      some (if negative then -n else n, rest)
    else none
  | _ => none

/-- The steps behind the first name; `fuel` bounds their number. -/
def furtherSteps : (fuel : Nat) → List Char → Option (List SettingStep)
  | _, [] => some []
  | 0, _ => none
  | fuel + 1, '.' :: cs =>
    let step := cs.takeWhile isStepChar
    if step.isEmpty then none
    else (furtherSteps fuel (cs.drop step.length)).map (.name (String.ofList step) :: ·)
  | fuel + 1, '[' :: cs => do
    let (place, rest) ← bracketed cs
    return .index place :: (← furtherSteps fuel rest)
  | _ + 1, _ => none

/-- The steps of a name, if it is a path. -/
def settingPath? (key : String) : Option (List SettingStep) :=
  let cs := key.toList
  let first := cs.takeWhile isStepChar
  if first.isEmpty then none
  else (furtherSteps cs.length (cs.drop first.length)).map (.name (String.ofList first) :: ·)

/-- The way to the value of a name. -/
def settingPath (key : String) : List SettingStep :=
  (settingPath? key).getD [.name key]

/-- Puts the values of a layer into a tree, one after another. -/
def SettingTree.addLayer (t : SettingTree) (layer : Layer) : SettingTree :=
  layer.foldl (fun t (key, v) => t.putAt v (settingPath key)) t

/-- The tree of some layers, later ones over earlier ones. -/
def SettingTree.ofLayers (layers : List Layer) : SettingTree :=
  layers.foldl addLayer emptyTable

end BucketLifecycle
