import BucketLifecycle.Json.Decode
import BucketLifecycle.Json.Writer

/-!
# Object metadata

What a store says about an object that was uploaded.  The size is a 64-bit number that the store
writes as a text.
-/

set_option autoImplicit false

namespace BucketLifecycle

open Json

/-- The metadata of an object. -/
structure ObjectInfo where
  name : String
  bucket : String
  contentType : Option String
  size : Option String
  md5Hash : Option String
  generation : Option String
  deriving DecidableEq, Repr

namespace ObjectInfo

/-- The size in bytes, where the store gave one that is a number. -/
def sizeBytes (o : ObjectInfo) : Option UInt64 :=
  o.size.bind fun s => (Text.readUInt64 s.toList).toOption

/-- A text, or `null` for none. -/
def encodeOptional (s : Option String) : Node :=
  s.elim .null .ofString

/-- Writes the metadata; all members are written. -/
def encode (o : ObjectInfo) : Node :=
  .ofMembers [("name", .ofString o.name), ("bucket", .ofString o.bucket),
    ("contentType", encodeOptional o.contentType), ("size", encodeOptional o.size),
    ("md5Hash", encodeOptional o.md5Hash), ("generation", encodeOptional o.generation)]

/-- The object's name, which must be given. -/
def nameField : RecordField String := ⟨"name", 0, .string, none⟩

/-- The bucket's name, which must be given. -/
def bucketField : RecordField String := ⟨"bucket", 1, .string, none⟩

/-- A text that may be missing. -/
def optionalField (name : String) (place : Nat) : RecordField (Option String) :=
  ⟨name, place, .option .string, some none⟩

def decode : Decoder ObjectInfo :=
  let contentType := optionalField "contentType" 2
  let size := optionalField "size" 3
  let md5Hash := optionalField "md5Hash" 4
  let generation := optionalField "generation" 5
  Decoder.record "ObjectInfo"
    [nameField.toCheck, bucketField.toCheck, contentType.toCheck, size.toCheck, md5Hash.toCheck,
      generation.toCheck] fun fields => do
    let name ← fields.get nameField
    let bucket ← fields.get bucketField
    let contentType ← fields.get contentType
    let size ← fields.get size
    let md5Hash ← fields.get md5Hash
    let generation ← fields.get generation
    return ⟨name, bucket, contentType, size, md5Hash, generation⟩

end ObjectInfo

end BucketLifecycle
