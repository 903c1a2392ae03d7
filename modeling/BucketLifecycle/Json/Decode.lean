import BucketLifecycle.Json.Number
import BucketLifecycle.Json.Reader
import BucketLifecycle.Text.Quoted
import BucketLifecycle.Decimal.Shortest

/-!
# Decoding values

A decoder takes a value to what it stands for or to the first thing that is wrong with it, in
reading order.

A *record* is written as an object, or as a list that holds its fields in their fixed order.  An
object is read in two passes: the first finds the earliest fault, walking over the members as they
stand (a field given twice, a field whose value is wrong, an unknown member that leaves the
grammar); the second picks the fields up by name.  So neither the order of the members nor the
members that no field asks for can change a result, and what the second pass finds has already been
checked.
-/

set_option autoImplicit false

namespace BucketLifecycle.Json

/-- What stands where something else was expected. -/
inductive Found where
  | null
  | boolean (b : Bool)
  | integer (n : Int)
  | floating (x : Float)
  | text (s : String)
  | sequence
  | map

/-- The wording of what was found. -/
def Found.describe : Found → String
  | .null => "null"
  | .boolean b => "boolean `" ++ (if b then "true" else "false") ++ "`"
  | .integer n => "integer `" ++ String.ofList (Text.writeInt n) ++ "`"
  | .floating x => "floating point `" ++ Decimal.FloatStyle.pointed.write x ++ "`"
  | .text s => "string " ++ Text.quoted s
  | .sequence => "sequence"
  | .map => "map"

/-- Why a text does not decode. -/
inductive DecodeError where
  | grammar (e : GrammarError)
  | invalidType (found : Found) (expected : String)
  | invalidValue (found : Found) (expected : String)
  | invalidLength (count : Nat) (expected : String)
  | missingField (name : String)
  | duplicateField (name : String)
  /-- a value that is neither a text nor a 64-bit whole number -/
  | noVariant
  /-- a text that the type behind it rejects, with its reason -/
  | rejected (reason : String)

def DecodeError.message : DecodeError → String
  | .grammar e => e.message
  | .invalidType found expected => "invalid type: " ++ found.describe ++ ", expected " ++ expected
  | .invalidValue found expected => "invalid value: " ++ found.describe ++ ", expected " ++ expected
  | .invalidLength count expected =>
    "invalid length " ++ String.ofList (Text.writeNat count) ++ ", expected " ++ expected
  | .missingField name => "missing field `" ++ name ++ "`"
  | .duplicateField name => "duplicate field `" ++ name ++ "`"
  | .noVariant => "data did not match any variant of untagged enum Repr"
  | .rejected reason => reason

/-- A decoder of values. -/
abbrev Decoder (α : Type) := Node → Except DecodeError α

/-- A grammar error as a decoding error. -/
def liftGrammar {α : Type} (x : Except GrammarError α) : Except DecodeError α :=
  x.mapError .grammar

/-- What a number counts as in a message. -/
def Number.found : Number → Found
  | .natural n => .integer n.toNat
  | .negative n => .integer n.toInt
  | .floating x => .floating x

/-- The error for a value of the wrong kind.  A number or a string is read first, so that a fault
inside it wins. -/
def Node.unexpected {α : Type} (expected : String) : Decoder α
  | .null => .error (.invalidType .null expected)
  | .bool b => .error (.invalidType (.boolean b) expected)
  | .number n => do
    let v ← liftGrammar n.value
    .error (.invalidType v.found expected)
  | .string s => do
    let t ← liftGrammar s.text
    .error (.invalidType (.text t) expected)
  | .list _ _ => .error (.invalidType .sequence expected)
  | .object _ _ => .error (.invalidType .map expected)
  | .gap g => .error (.grammar g.reading)

/-- A text, which the type behind it may reject. -/
def Decoder.textAs {α : Type} (expected : String) (read : String → Except String α) : Decoder α
  | .string s => do
    let t ← liftGrammar s.text
    (read t).mapError .rejected
  | n => n.unexpected expected

def Decoder.string : Decoder String :=
  Decoder.textAs "a string" .ok

def Decoder.boolean : Decoder Bool
  | .bool b => .ok b
  | n => n.unexpected "a boolean"

/-- A whole number from zero up to, and not including, `bound`. -/
def Decoder.natBelow (bound : Nat) (expected : String) : Decoder Nat
  | .number lit => do
    match ← liftGrammar lit.value with
    | .natural n =>
      if n.toNat < bound then return n.toNat
      else .error (.invalidValue (.integer n.toNat) expected)
    | .negative n => .error (.invalidValue (.integer n.toInt) expected)
    | .floating x => .error (.invalidType (.floating x) expected)
  | n => n.unexpected expected

def Decoder.uint32 : Decoder UInt32 := fun n =>
  (Decoder.natBelow UInt32.size "u32" n).map UInt32.ofNat

def Decoder.uint64 : Decoder UInt64 := fun n =>
  (Decoder.natBelow UInt64.size "u64" n).map UInt64.ofNat

/-- A value, or `null` for none. -/
def Decoder.option {α : Type} (d : Decoder α) : Decoder (Option α)
  | .null => .ok none
  | n => (d n).map some

mutual

/-- Reads a value of any kind, with lists and objects at most `room` deep. -/
def Node.readAny (room : Nat) : Node → Except GrammarError Unit
  | .null => .ok ()
  | .bool _ => .ok ()
  | .number n => n.value.map fun _ => ()
  | .string s => s.text.map fun _ => ()
  | .list items ending =>
    if room = 0 then .error .tooDeep
    else do
      readAnyItems (room - 1) items
      orFail ending.reading
  | .object members ending =>
    if room = 0 then .error .tooDeep
    else do
      readAnyMembers (room - 1) members
      orFail ending.reading
  | .gap g => .error g.reading

/-- Reads the items of a list of any kind. -/
def Node.readAnyItems (room : Nat) : List Node → Except GrammarError Unit
  | [] => .ok ()
  | item :: rest => do
    item.readAny room
    readAnyItems room rest

/-- Reads the members of an object of any kind. -/
def Node.readAnyMembers (room : Nat) : List (StringLit × Node) → Except GrammarError Unit
  | [] => .ok ()
  | (key, value) :: rest => do
    let _ ← key.text
    value.readAny room
    readAnyMembers room rest

end

/-- How deep lists and objects may nest where a value of any kind is read. -/
def depthLimit : Nat := 127

/-- A signed 64-bit number, written as a number or as a text.  The value is read whole before it is
judged, `depth` levels below the root. -/
def Decoder.int64Text (depth : Nat) : Decoder Int64 := fun n => do
  liftGrammar (n.readAny (depthLimit - depth))
  match n with
  | .string s => do
    let cs ← liftGrammar s.chars
    match Text.readInt64 cs with
    | .ok v => return Int64.ofInt v
    | .error e => .error (.rejected e.message)
  | .number lit => do
    match ← liftGrammar lit.value with
    | .natural v =>
      if v.toNat < Text.int64Limit then return Int64.ofNat v.toNat else .error .noVariant
    | .negative v => return v
    | .floating _ => .error .noVariant
  | _ => .error .noVariant

/-- Decodes the items of a list in order. -/
def Decoder.items {α : Type} (d : Decoder α) : List Node → Except DecodeError (List α)
  | [] => .ok []
  | item :: rest => do
    let a ← d item
    let as ← Decoder.items d rest
    return a :: as

def Decoder.list {α : Type} (d : Decoder α) : Decoder (List α)
  | .list items ending => do
    let as ← Decoder.items d items
    liftGrammar (orFail ending.reading)
    return as
  | n => n.unexpected "a sequence"

/-- Decodes the members of an object in order. -/
def Decoder.members {α : Type} (d : Decoder α) :
    List (StringLit × Node) → Except DecodeError (List (String × α))
  | [] => .ok []
  | (key, value) :: rest => do
    let k ← liftGrammar key.text
    let v ← d value
    let kvs ← Decoder.members d rest
    return (k, v) :: kvs

/-- The members of an object as they stand. -/
def Decoder.entries {α : Type} (d : Decoder α) : Decoder (List (String × α))
  | .object members ending => do
    let kvs ← Decoder.members d members
    liftGrammar (orFail ending.reading)
    return kvs
  | n => n.unexpected "a map"

/-- A field of a record: its name, its place among the fields, and what it is when it is not
given, if it may be missing. -/
structure RecordField (α : Type) where
  name : String
  place : Nat
  decode : Decoder α
  absent : Option α

/-- What the first pass over an object needs to know of a field. -/
structure FieldCheck where
  name : String
  check : Node → Except DecodeError Unit

/-- The check that a field's value decodes. -/
def RecordField.toCheck {α : Type} (f : RecordField α) : FieldCheck :=
  ⟨f.name, fun n => (f.decode n).map fun _ => ()⟩

/-- Where the fields of a record are taken from. -/
inductive Fields where
  | byName (members : List (StringLit × Node))
  | byPlace (items : List Node) (ending : ListEnd) (expected : String)

/-- The first pass over the members of an object. -/
def checkMembers (checks : List FieldCheck) :
    (seen : List String) → List (StringLit × Node) → Except DecodeError Unit
  | _, [] => .ok ()
  | seen, (key, value) :: rest => do
    let name ← liftGrammar key.text
    match checks.find? fun f => f.name == name with
    | none =>
      liftGrammar value.skip
      checkMembers checks seen rest
    | some f =>
      if seen.contains name then .error (.duplicateField name)
      else
        f.check value
        checkMembers checks (name :: seen) rest

/-- The value of the first member with the name. -/
def findMember (name : String) : List (StringLit × Node) → Option Node
  | [] => none
  | (key, value) :: rest =>
    match key.text with
    | .ok k => if k = name then some value else findMember name rest
    | .error _ => findMember name rest

/-- The value of a field, or what it is when it is not given. -/
def Fields.get {α : Type} (f : RecordField α) : Fields → Except DecodeError α
  | .byName members =>
    match findMember f.name members with
    | some n => f.decode n
    | none => match f.absent with
      | some a => .ok a
      | none => .error (.missingField f.name)
  | .byPlace items ending expected =>
    match items[f.place]? with
    | some n => f.decode n
    | none => do
      liftGrammar (orFail ending.reading)
      match f.absent with
        | some a => .ok a
        | none => .error (.invalidLength f.place expected)

/-- What must hold of a list once the record's fields are taken: it ends there. -/
def Fields.finish (count : Nat) : Fields → Except DecodeError Unit
  | .byName _ => .ok ()
  | .byPlace items ending _ =>
    if count < items.length then .error (.grammar .trailingCharacters)
    else liftGrammar (orFail (if count ≤ items.length then ending.finishing else ending.reading))

/-- A number of fields in words. -/
def elementCount : Nat → String
  | 1 => "1 element"
  | n => String.ofList (Text.writeNat n) ++ " elements"

/-- Decodes a record with the given name and fields; `build` takes its fields in their order. -/
def Decoder.record {α : Type} (name : String) (checks : List FieldCheck)
    (build : Fields → Except DecodeError α) : Decoder α
  | .object members ending => do
    checkMembers checks [] members
    liftGrammar (orFail ending.reading)
    build (.byName members)
  | .list items ending => do
    let expected := "struct " ++ name ++ " with " ++ elementCount checks.length
    let fields := Fields.byPlace items ending expected
    let a ← build fields
    fields.finish checks.length
    return a
  | n => n.unexpected ("struct " ++ name)

/-- Decodes a whole text, behind which only blanks may follow. -/
def Decoder.document {α : Type} (d : Decoder α) (doc : Document) : Except DecodeError α := do
  let a ← d doc.root
  if doc.trailing then .error (.grammar .trailingCharacters) else return a

def Decoder.run {α : Type} (d : Decoder α) (s : String) : Except DecodeError α :=
  d.document (Document.ofString s)

end BucketLifecycle.Json
