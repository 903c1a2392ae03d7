import BucketLifecycle.Ini.Reader
import BucketLifecycle.Json.Decode
import BucketLifecycle.Json5.Reader
import BucketLifecycle.Ron.Reader
import BucketLifecycle.Settings.Layer
import BucketLifecycle.Toml.Reader
import BucketLifecycle.Yaml.Reader

/-!
# Settings from a document

A document with settings is a table in one of six formats.  Whatever its format has beyond plain
data becomes plain data: a date is its text, and a name without a value is nothing.
-/

set_option autoImplicit false

namespace BucketLifecycle

/-- How a document with settings is written. -/
inductive SettingsFormat where
  | toml
  | json
  | yaml
  | ini
  | ron
  | json5
  deriving DecidableEq, Repr

/-- The extensions of the files of each format. -/
def SettingsFormat.extensions : SettingsFormat → List String
  | .toml => ["toml"]
  | .json => ["json"]
  | .yaml => ["yaml", "yml"]
  | .ini => ["ini"]
  | .ron => ["ron"]
  | .json5 => ["json5"]

/-- All formats, in the order in which they are looked for. -/
def SettingsFormat.all : List SettingsFormat := [.toml, .json, .yaml, .ini, .ron, .json5]

/-- The extensions of files with settings, each with its format. -/
def settingsExtensions : List (String × SettingsFormat) :=
  SettingsFormat.all.flatMap fun f => f.extensions.map fun e => (e, f)

/-- What is wrong with a document. -/
inductive ContentFault where
  /-- it is no document of its format -/
  | malformed (format : SettingsFormat)
  | json (e : Json.GrammarError)
  /-- something other than a table -/
  | root (o : Origin) (found : String)
  deriving DecidableEq, Repr

def SettingsFormat.name : SettingsFormat → String
  | .toml => "TOML"
  | .json => "JSON"
  | .yaml => "YAML"
  | .ini => "INI"
  | .ron => "RON"
  | .json5 => "JSON5"

def ContentFault.message : ContentFault → String
  | .malformed format => format.name ++ " parse error"
  | .json e => e.message
  | .root o found => "invalid type: " ++ found ++ ", expected a map" ++ o.suffix

/-- A value of a TOML document. -/
def SettingTree.ofToml (o : Origin) : Toml.Value → SettingTree
  | .string s => .scalar (some o) (.text s)
  | .integer n => .scalar (some o) (.integer n)
  | .floating x => .scalar (some o) (.floating x)
  | .boolean b => .scalar (some o) (.boolean b)
  | .moment text => .scalar (some o) (.text text)
  | .array items => .list (some o) (ofItems items)
  | .tables items => .list (some o) (ofTables items)
  | .table _ ms => .table (some o) (ofMembers ms)
where
  /-- Values in a list. -/
  ofItems : List Toml.Value → List SettingTree
    | [] => []
    | v :: vs => ofToml o v :: ofItems vs
  /-- The tables of an array of tables. -/
  ofTables : List (List (String × Toml.Value)) → List SettingTree
    | [] => []
    | ms :: rest => .table (some o) (ofMembers ms) :: ofTables rest
  /-- The members of a table. -/
  ofMembers : List (String × Toml.Value) → List (String × SettingTree)
    | [] => []
    | (key, v) :: rest => (key, ofToml o v) :: ofMembers rest

/-- A number of a JSON document: whole where it fits 64 bits with its sign. -/
def Scalar.ofJsonNumber : Json.Number → Scalar
  | .natural n =>
    if n.toNat < Text.int64Limit then .integer (Int64.ofNat n.toNat)
    else .floating (Float.ofNat n.toNat)
  | .negative n => .integer n
  | .floating x => .floating x

/-- A value of a JSON document that can be read.  Of several members under one key the last
counts. -/
def SettingTree.ofJson (o : Origin) : Json.Node → SettingTree
  | .null => .scalar (some o) .null
  | .bool b => .scalar (some o) (.boolean b)
  | .number n =>
    .scalar (some o) (n.value.toOption.elim .null Scalar.ofJsonNumber)
  | .string s => .scalar (some o) (.text (s.text.toOption.getD ""))
  | .list items _ => .list (some o) (ofItems items)
  | .object ms _ => .table (some o) (ofMembers ms)
  | .gap _ => .scalar (some o) .null
where
  /-- Values in a list. -/
  ofItems : List Json.Node → List SettingTree
    | [] => []
    | v :: vs => ofJson o v :: ofItems vs
  /-- The members of an object. -/
  ofMembers : List (Json.StringLit × Json.Node) → List (String × SettingTree)
    | [] => []
    | (key, v) :: rest =>
      let key := key.text.toOption.getD ""
      let later := ofMembers rest
      if later.any fun m => m.1 = key then later else (key, ofJson o v) :: later

/-- A value of a document of plain data. -/
def SettingTree.ofDatum (o : Origin) : Datum → SettingTree
  | .null => .scalar (some o) .null
  | .boolean b => .scalar (some o) (.boolean b)
  | .integer n => .scalar (some o) (.integer n)
  | .floating x => .scalar (some o) (.floating x)
  | .text s => .scalar (some o) (.text s)
  | .list items => .list (some o) (ofItems items)
  | .table ms => .table (some o) (ofMembers ms)
where
  /-- Values in a list. -/
  ofItems : List Datum → List SettingTree
    | [] => []
    | v :: vs => ofDatum o v :: ofItems vs
  /-- The members of a table. -/
  ofMembers : List (String × Datum) → List (String × SettingTree)
    | [] => []
    | (key, v) :: rest => (key, ofDatum o v) :: ofMembers rest

/-- The value of a JSON text. -/
def SettingTree.ofJsonText (o : Origin) (text : String) : Except ContentFault SettingTree :=
  let document := Json.Document.ofString text
  match document.root.readAny Json.depthLimit with
  | .error e => .error (.json e)
  | .ok () =>
    if document.trailing then .error (.json .trailingCharacters)
    else .ok (SettingTree.ofJson o document.root)

def SettingTree.ofDocument (o : Origin) (format : SettingsFormat) (text : String) :
    Except ContentFault SettingTree :=
  let cs := text.toList
  let plain (d : Option Datum) : Except ContentFault SettingTree :=
    d.elim (.error (.malformed format)) fun d => .ok (SettingTree.ofDatum o d)
  match format with
  | .toml => (Toml.read cs).elim (.error (.malformed .toml)) fun v => .ok (SettingTree.ofToml o v)
  | .json => SettingTree.ofJsonText o text
  | .yaml => plain (Yaml.read cs)
  | .ini => plain (Ini.read cs)
  | .ron => plain (Ron.read cs)
  | .json5 => plain (Json5.read cs)

/-- The layer of a document, which must be a table. -/
def Layer.ofDocument (o : Origin) (format : SettingsFormat) (text : String) :
    Except ContentFault Layer := do
  match ← SettingTree.ofDocument o format text with
  | .table _ ms => return ms
  | t => .error (.root o t.describe)

end BucketLifecycle
