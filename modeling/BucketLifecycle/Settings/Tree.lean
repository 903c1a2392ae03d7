import BucketLifecycle.Decimal.Shortest
import BucketLifecycle.Text.Quoted

/-!
# Layers of settings

Settings are collected in a tree of tables, lists and single values, one layer after another.  A
later layer replaces the single values and lists of an earlier one and is merged into its tables,
so that it leaves alone what it does not name.  Names do not distinguish capital letters.  A value
remembers where it was given; a table that layers were merged into belongs to none of them.
-/

set_option autoImplicit false

namespace BucketLifecycle

/-- Where a value was given. -/
inductive Origin where
  | file (name : String)
  | environment
  deriving DecidableEq, Repr

def Origin.suffix : Origin → String
  | .file name => " in " ++ name
  | .environment => " in the environment"

/-- A single value. -/
inductive Scalar where
  | null
  | boolean (b : Bool)
  | integer (n : Int64)
  | floating (x : Float)
  | text (s : String)

/-- A value of any shape. -/
inductive SettingTree where
  | scalar (origin : Option Origin) (value : Scalar)
  | list (origin : Option Origin) (items : List SettingTree)
  | table (origin : Option Origin) (members : List (String × SettingTree))

/-- One step on the way to a value: a name, or a place in a list, from its end where it is
negative. -/
inductive SettingStep where
  | name (key : String)
  | index (place : Int)
  deriving DecidableEq, Repr

/-- The small letter of a letter of the alphabet.  The Kelvin sign is a capital K too; no other
character has a letter of the alphabet for its small letter. -/
def smallLetter (c : Char) : Char :=
  if c = '\u212A' then 'k' else c.toLower

/-- A name as it is looked up. -/
def settingName (key : String) : String :=
  String.ofList (key.toList.map smallLetter)

/-- A single value as messages show it. -/
def Scalar.describe : Scalar → String
  | .null => "unit value"
  | .boolean b => "boolean `" ++ (if b then "true" else "false") ++ "`"
  | .integer n => "64-bit integer `" ++ String.ofList (Text.writeInt n.toInt) ++ "`"
  | .floating x => "floating point `" ++ Decimal.FloatStyle.plain.write x ++ "`"
  | .text s => "string " ++ Text.quoted s

namespace SettingTree

/-- A value as messages show it. -/
def describe : SettingTree → String
  | .scalar _ x => x.describe
  | .list _ _ => "sequence"
  | .table _ _ => "map"

def nothing : SettingTree := .scalar none .null

def emptyTable : SettingTree := .table none []

/-- The members of a table; what is no table has none. -/
def members : SettingTree → List (String × SettingTree)
  | .table _ ms => ms
  | _ => []

/-- The items of a list; what is no list has none. -/
def items : SettingTree → List SettingTree
  | .list _ xs => xs
  | _ => []

/-- Where a table was given; a table that takes the place of something else is from nowhere. -/
def tableOrigin : SettingTree → Option Origin
  | .table o _ => o
  | _ => none

/-- Where a list was given; a list that takes the place of something else is from nowhere. -/
def listOrigin : SettingTree → Option Origin
  | .list o _ => o
  | _ => none

/-- The member of a table under a name. -/
def member? (t : SettingTree) (key : String) : Option SettingTree :=
  t.members.lookup key

/-- Members with one of them set. -/
def setMember (key : String) (v : SettingTree) :
    List (String × SettingTree) → List (String × SettingTree)
  | [] => [(key, v)]
  | (k, w) :: rest => if k = key then (key, v) :: rest else (k, w) :: setMember key v rest

/-- The tree as a table with one member set. -/
def withMember (t : SettingTree) (key : String) (v : SettingTree) : SettingTree :=
  .table t.tableOrigin (setMember key v t.members)

mutual

/-- Puts a value under a name: a table is merged into what stands there, all else replaces it. -/
def put (t : SettingTree) (key : String) : SettingTree → SettingTree
  | .scalar o x => t.withMember (settingName key) (.scalar o x)
  | .list o xs => t.withMember (settingName key) (.list o xs)
  | .table _ ms =>
    let key := settingName key
    t.withMember key (putAll ((t.member? key).getD emptyTable) ms)

/-- Puts values under their names, one after another. -/
def putAll (t : SettingTree) : List (String × SettingTree) → SettingTree
  | [] => t
  | (key, v) :: rest => putAll (t.put key v) rest

end

/-- The place in a list of a length, counted from the end where it is negative. -/
def placeIn (length : Nat) (place : Int) : Nat :=
  if place < 0 then length - place.natAbs else place.natAbs

/-- A list with one item set, and nothing in the places before it that do not exist. -/
def setItem (xs : List SettingTree) (place : Nat) (v : SettingTree) : List SettingTree :=
  (xs ++ List.replicate (place + 1 - xs.length) nothing).set place v

/-- Puts a value at the end of a path.  What is no table or list on the way becomes one. -/
def putAt (t : SettingTree) (v : SettingTree) : List SettingStep → SettingTree
  | [] => t
  | [.name key] => t.put key v
  | .name key :: path =>
    let key := settingName key
    t.withMember key (putAt ((t.member? key).getD nothing) v path)
  | [.index place] => .list t.listOrigin (setItem t.items (placeIn t.items.length place) v)
  | .index place :: path =>
    let place := placeIn t.items.length place
    .list t.listOrigin (setItem t.items place (putAt ((t.items[place]?).getD nothing) v path))

end SettingTree

end BucketLifecycle
