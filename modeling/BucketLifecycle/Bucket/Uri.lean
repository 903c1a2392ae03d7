import BucketLifecycle.Bucket.Name
import BucketLifecycle.Text.Quoted
import BucketLifecycle.Text.Segments

/-!
# Bucket and object URIs

A bucket is named by `scheme://name`, an object by `scheme://name/path`.  The scheme is a lower-case
letter followed by lower-case letters, digits, `+`, `-` and `.`; a bucket URI may end in one slash;
no segment of an object's path is `.` or `..`.  A text that breaks a rule is rejected as a whole,
with the text itself and the reason.
-/

set_option autoImplicit false

namespace BucketLifecycle

open Text (segments cutAt cutAtSequence)

/-- Why a text names no bucket or object. -/
inductive UriReason where
  | noScheme
  | badScheme
  | noName
  | nestedPath
  | relativeSegment
  | name (e : NameError)
  deriving DecidableEq, Repr

def UriReason.message : UriReason → String
  | .noScheme => "expected scheme://bucket"
  | .badScheme => "invalid URI scheme"
  | .noName => "missing bucket name"
  | .nestedPath => "must name exactly one bucket without a nested path"
  | .relativeSegment => "object path cannot contain relative segments"
  | .name e => e.message

/-- A text that names no bucket or object, with the reason. -/
structure UriError where
  value : String
  reason : UriReason
  deriving DecidableEq, Repr

def UriError.message (e : UriError) : String :=
  "invalid identifier " ++ Text.quoted e.value ++ ": " ++ e.reason.message

/-- A bucket: where it is stored, and its name there. -/
structure BucketUri where
  scheme : String
  name : String
  deriving DecidableEq, Repr

/-- An object, or a prefix of object names, in a bucket. -/
structure ObjectUri where
  bucket : BucketUri
  path : String
  deriving DecidableEq, Repr

/-- The scheme of bare bucket names. -/
def defaultScheme : String := "gs"

/-- A character that may stand in a scheme. -/
def isSchemeChar (c : Char) : Bool :=
  isLowerAlphanum c || c == '+' || c == '-' || c == '.'

/-- Whether the characters form a scheme. -/
def isScheme : List Char → Bool
  | [] => false
  | c :: cs => c.isLower && cs.all isSchemeChar

/-- The mark between a scheme and what it qualifies. -/
def schemeMark : List Char := [':', '/', '/']

/-- Cuts a URI behind its scheme. -/
def splitScheme (cs : List Char) : Except UriReason (List Char × List Char) :=
  match cutAtSequence schemeMark cs with
  | none => .error .noScheme
  | some (scheme, rest) => if isScheme scheme then .ok (scheme, rest) else .error .badScheme

/-- A path segment that would move about instead of naming. -/
def isRelativeSegment (cs : List Char) : Bool :=
  cs == ['.'] || cs == ['.', '.']

/-- The bucket that a scheme and what follows it name. -/
def BucketUri.ofParts (scheme rest : List Char) : Except UriReason BucketUri :=
  let name := if rest.getLast? = some '/' then rest.dropLast else rest
  if name.isEmpty then .error .noName
  else if name.contains '/' then .error .nestedPath
  else match checkName name with
    | .error e => .error (.name e)
    | .ok () => .ok ⟨String.ofList scheme, String.ofList name⟩

/-- Reads the characters of a bucket URI. -/
def BucketUri.ofChars (cs : List Char) : Except UriReason BucketUri := do
  let (scheme, rest) ← splitScheme cs
  BucketUri.ofParts scheme rest

/-- The bucket that a text names: what command lines, documents and callers all read with. -/
def BucketUri.parse (s : String) : Except UriError BucketUri :=
  (BucketUri.ofChars s.toList).mapError (UriError.mk s)

/-- The characters of a bucket URI. -/
def BucketUri.chars (b : BucketUri) : List Char :=
  b.scheme.toList ++ schemeMark ++ b.name.toList

/-- The text of a bucket URI. -/
def BucketUri.toText (b : BucketUri) : String :=
  String.ofList b.chars

/-- The bucket with a bare name. -/
def BucketUri.ofName (name : String) : Except UriError BucketUri :=
  BucketUri.parse (defaultScheme ++ "://" ++ name)

/-- Reads the characters of an object URI.  The path is looked at before the bucket. -/
def ObjectUri.ofChars (cs : List Char) : Except UriReason ObjectUri := do
  let (scheme, rest) ← splitScheme cs
  let (bucket, path) := (cutAt '/' rest).getD (rest, [])
  if (segments '/' path).any isRelativeSegment then .error .relativeSegment
  let bucket ← BucketUri.ofParts scheme bucket
  return ⟨bucket, String.ofList path⟩

def ObjectUri.parse (s : String) : Except UriError ObjectUri :=
  (ObjectUri.ofChars s.toList).mapError (UriError.mk s)

/-- The text of an object URI, with a slash also where the path is empty. -/
def ObjectUri.toText (u : ObjectUri) : String :=
  String.ofList (u.bucket.chars ++ '/' :: u.path.toList)

/-- A path with a name put under it: slashes in front of the name are dropped, and one stands
between the two unless the path is empty or ends in one. -/
def joinPath (path name : List Char) : List Char :=
  let name := name.dropWhile (· == '/')
  if path.isEmpty || path.getLast? == some '/' then path ++ name else path ++ '/' :: name

/-- The object with a name under this prefix. -/
def ObjectUri.join (u : ObjectUri) (name : String) : ObjectUri :=
  { u with path := String.ofList (joinPath u.path.toList name.toList) }

end BucketLifecycle
