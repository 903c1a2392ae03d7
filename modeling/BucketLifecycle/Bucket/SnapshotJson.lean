import BucketLifecycle.Bucket.Snapshot
import BucketLifecycle.Bucket.Uri
import BucketLifecycle.Json.Decode
import BucketLifecycle.Json.Writer
import BucketLifecycle.Timestamp.Reader
import BucketLifecycle.Timestamp.Writer

/-!
# Bucket metadata as JSON

The storage service's form.  Members with nothing to say are left out when a snapshot is written,
and may be missing when one is read.  The generation of the metadata is written as a text, since it
has 64 bits.
-/

set_option autoImplicit false

namespace BucketLifecycle

open Json

/-- A member that is left out when there is no value. -/
def optionalMember {α : Type} (name : String) (encode : α → Node) (value : Option α) :
    List (String × Node) :=
  match value with
  | none => []
  | some a => [(name, encode a)]

def encodeText (s : String) : Node := .ofString s

/-- The value of a 32-bit number. -/
def encodeUInt32 (n : UInt32) : Node := .ofNat n.toNat

def Timestamp.encode (t : Timestamp) : Node := .ofString (String.ofList t.write)

def Timestamp.decode : Decoder Timestamp :=
  Decoder.textAs "an RFC 3339 formatted date and time string" fun s =>
    (Timestamp.read s.toList).mapError TimestampError.message

/-- A bucket URI as a text. -/
def BucketUri.encode (b : BucketUri) : Node := .ofString b.toText

def BucketUri.decode : Decoder BucketUri :=
  Decoder.textAs "a string" fun s => (BucketUri.parse s).mapError UriError.message

def RuleAction.encode (a : RuleAction) : Node :=
  .ofMembers ([("type", encodeText a.type)] ++
    optionalMember "storageClass" encodeText a.storageClass)

/-- The type of an action, which must be given. -/
def RuleAction.typeField : RecordField String := ⟨"type", 0, .string, none⟩

/-- The storage class of an action. -/
def RuleAction.storageClassField : RecordField (Option String) :=
  ⟨"storageClass", 1, .option .string, some none⟩

def RuleAction.decode : Decoder RuleAction :=
  Decoder.record "RuleAction" [typeField.toCheck, storageClassField.toCheck] fun fields => do
    let type ← fields.get typeField
    let storageClass ← fields.get storageClassField
    return ⟨type, storageClass⟩

def RuleCondition.encode (c : RuleCondition) : Node :=
  .ofMembers (optionalMember "age" encodeUInt32 c.age ++
    optionalMember "createdBefore" encodeText c.createdBefore ++
    optionalMember "isLive" Node.bool c.isLive ++
    optionalMember "numNewerVersions" encodeUInt32 c.numNewerVersions ++
    if c.matchesStorageClass.isEmpty then []
    else [("matchesStorageClass", .ofItems (c.matchesStorageClass.map encodeText))])

def RuleCondition.ageField : RecordField (Option UInt32) := ⟨"age", 0, .option .uint32, some none⟩

def RuleCondition.createdBeforeField : RecordField (Option String) :=
  ⟨"createdBefore", 1, .option .string, some none⟩

def RuleCondition.isLiveField : RecordField (Option Bool) :=
  ⟨"isLive", 2, .option .boolean, some none⟩

/-- The number of newer versions of a condition. -/
def RuleCondition.numNewerVersionsField : RecordField (Option UInt32) :=
  ⟨"numNewerVersions", 3, .option .uint32, some none⟩

/-- The storage classes of a condition. -/
def RuleCondition.matchesStorageClassField : RecordField (List String) :=
  ⟨"matchesStorageClass", 4, .list .string, some []⟩

def RuleCondition.decode : Decoder RuleCondition :=
  Decoder.record "RuleCondition"
    [ageField.toCheck, createdBeforeField.toCheck, isLiveField.toCheck,
      numNewerVersionsField.toCheck, matchesStorageClassField.toCheck] fun fields => do
    let age ← fields.get ageField
    let createdBefore ← fields.get createdBeforeField
    let isLive ← fields.get isLiveField
    let numNewerVersions ← fields.get numNewerVersionsField
    let matchesStorageClass ← fields.get matchesStorageClassField
    return ⟨age, createdBefore, isLive, numNewerVersions, matchesStorageClass⟩

def LifecycleRule.encode (r : LifecycleRule) : Node :=
  .ofMembers [("action", r.action.encode), ("condition", r.condition.encode)]

/-- The action of a rule, which must be given. -/
def LifecycleRule.actionField : RecordField RuleAction := ⟨"action", 0, RuleAction.decode, none⟩

def LifecycleRule.conditionField : RecordField RuleCondition :=
  ⟨"condition", 1, RuleCondition.decode, some .empty⟩

def LifecycleRule.decode : Decoder LifecycleRule :=
  Decoder.record "LifecycleRule" [actionField.toCheck, conditionField.toCheck] fun fields => do
    let action ← fields.get actionField
    let condition ← fields.get conditionField
    return ⟨action, condition⟩

def Lifecycle.encode (l : Lifecycle) : Node :=
  .ofMembers [("rule", .ofItems (l.rules.map LifecycleRule.encode))]

def Lifecycle.ruleField : RecordField (List LifecycleRule) :=
  ⟨"rule", 0, .list LifecycleRule.decode, some []⟩

def Lifecycle.decode : Decoder Lifecycle :=
  Decoder.record "Lifecycle" [ruleField.toCheck] fun fields => do
    let rules ← fields.get ruleField
    return ⟨rules⟩

def Labels.encode (labels : Labels) : Node :=
  .ofMembers (labels.entries.map fun (k, v) => (k, encodeText v))

def Labels.decode : Decoder Labels := fun n =>
  (Decoder.entries .string n).map Labels.ofList

def encodeInt64 (n : Int64) : Node :=
  .ofString (String.ofList (Text.writeInt n.toInt))

namespace Snapshot

def encode (s : Snapshot) : Node :=
  .ofMembers ([("name", encodeText s.name)] ++
    optionalMember "location" encodeText s.location ++
    optionalMember "storageClass" encodeText s.storageClass ++
    (if s.labels.isEmpty then [] else [("labels", s.labels.encode)]) ++
    (if s.lifecycle.isEmpty then [] else [("lifecycle", s.lifecycle.encode)]) ++
    optionalMember "metageneration" encodeInt64 s.metageneration ++
    optionalMember "timeCreated" Timestamp.encode s.timeCreated ++
    optionalMember "updated" Timestamp.encode s.updated)

/-- The name, which must be given. -/
def nameField : RecordField String := ⟨"name", 0, .string, none⟩

def locationField : RecordField (Option String) := ⟨"location", 1, .option .string, some none⟩

/-- The storage class of new objects. -/
def storageClassField : RecordField (Option String) :=
  ⟨"storageClass", 2, .option .string, some none⟩

def labelsField : RecordField Labels := ⟨"labels", 3, Labels.decode, some .empty⟩

def lifecycleField : RecordField Lifecycle := ⟨"lifecycle", 4, Lifecycle.decode, some .empty⟩

def metagenerationField : RecordField (Option Int64) :=
  ⟨"metageneration", 5, .option (.int64Text 1), some none⟩

def timeCreatedField : RecordField (Option Timestamp) :=
  ⟨"timeCreated", 6, .option Timestamp.decode, some none⟩

/-- The time of the last change. -/
def updatedField : RecordField (Option Timestamp) :=
  ⟨"updated", 7, .option Timestamp.decode, some none⟩

def decode : Decoder Snapshot :=
  Decoder.record "BucketSnapshot"
    [nameField.toCheck, locationField.toCheck, storageClassField.toCheck, labelsField.toCheck,
      lifecycleField.toCheck, metagenerationField.toCheck, timeCreatedField.toCheck,
      updatedField.toCheck] fun fields => do
    let name ← fields.get nameField
    let location ← fields.get locationField
    let storageClass ← fields.get storageClassField
    let labels ← fields.get labelsField
    let lifecycle ← fields.get lifecycleField
    let metageneration ← fields.get metagenerationField
    let timeCreated ← fields.get timeCreatedField
    let updated ← fields.get updatedField
    return ⟨name, location, storageClass, labels, lifecycle, metageneration, timeCreated, updated⟩

def toText (s : Snapshot) : String :=
  s.encode.text

/-- Reads the text of a snapshot. -/
def ofText (text : String) : Except DecodeError Snapshot :=
  Decoder.run decode text

end Snapshot

end BucketLifecycle
