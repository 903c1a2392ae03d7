import BucketLifecycle.Text.Segments
import BucketLifecycle.Url.Label
import BucketLifecycle.Url.Punycode

/-!
# Domain names

A domain name is written in ASCII.  It is first brought into the form that all its spellings share,
in which letters have no case and the full stops of other scripts are periods.  A label with
characters outside ASCII becomes `xn--` followed by its Punycode form; one that is already written
so must stand for a label that needs it and has that form.
-/

set_option autoImplicit false

namespace BucketLifecycle.Domain

/-- What an encoded label begins with. -/
def encodedMark : List Char := "xn--".toList

/-- Whether all characters of a label are ASCII. -/
def isAscii (label : List Char) : Bool :=
  label.all fun c => c.toNat < 0x80

/-- The characters that no domain name may hold. -/
def isForbidden (c : Char) : Bool :=
  c.toNat ≤ 0x20 || c.toNat == 0x7F || c == '%' || c == '#' || c == '/' || c == ':' || c == '<' ||
    c == '>' || c == '?' || c == '@' || c == '[' || c == '\\' || c == ']' || c == '^' || c == '|'

/-- The longest label that is encoded. -/
def maxDecodedLength : Nat := 1000

/-- The longest encoded form that is read. -/
def maxEncodedLength : Nat := 2000

/-- The label that an encoded form stands for: one in the form of all spellings that is not ASCII.
-/
def ofEncoded? (encoded : List Char) : Option (List Char) := do
  if maxEncodedLength < encoded.length then none
  let label ← ofPunycode? encoded
  if isAscii label ∨ mapped? label ≠ some label then none else some label

/-- A label without encoding, if it is one. -/
def label? (cs : List Char) : Option (List Char) := do
  let label ← match Text.dropStart? encodedMark cs with
    | some encoded => ofEncoded? encoded
    | none => some cs
  if label.any isForbidden then none
  else if isAscii label then some label
  else if isWellFormed label ∧ label.length ≤ maxDecodedLength then some label
  else none

/-- A label with encoding where it needs it. -/
def writeLabel (label : List Char) : List Char :=
  if isAscii label then label else encodedMark ++ punycode label

/-- Whether every label keeps to one direction, where any letter is written from right to left. -/
def directionsFit (labels : List (List Char)) : Bool :=
  !(labels.any fun label => label.any fun c => isRightToLeft (Text.direction c)) ||
    labels.all keepsDirection

/-- A name in ASCII, if it is one. -/
def toAscii? (cs : List Char) : Option (List Char) := do
  let labels ← (Text.segments '.' (← mapped? cs)).mapM label?
  if directionsFit labels then some (Text.joinSegments '.' (labels.map writeLabel)) else none

end BucketLifecycle.Domain
