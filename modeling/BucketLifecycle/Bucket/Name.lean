/-!
# Bucket names

A name is 3 to 63 bytes of lower-case letters, digits, hyphens, underscores and periods, and
begins and ends with a letter or a digit.  The three rules are checked in that order, and the first
one that fails is the reason given.
-/

set_option autoImplicit false

namespace BucketLifecycle

/-- A lower-case letter or a digit, of ASCII. -/
def isLowerAlphanum (c : Char) : Bool :=
  c.isLower || c.isDigit

/-- Why a text is not a bucket name. -/
inductive NameError where
  | length
  | character
  | ends
  deriving DecidableEq, Repr

def NameError.message : NameError → String
  | .length => "bucket name must be between 3 and 63 characters"
  | .character =>
    "bucket name can only contain lowercase letters, numbers, hyphens, underscores, and periods"
  | .ends => "bucket name must start and end with a letter or number"

/-- A character that may stand in a bucket name. -/
def isNameChar (c : Char) : Bool :=
  isLowerAlphanum c || c == '-' || c == '_' || c == '.'

/-- The number of bytes of a text. -/
def byteLength (cs : List Char) : Nat :=
  cs.foldr (fun c n => c.utf8Size + n) 0

/-- Checks the three rules for the characters of a name. -/
def checkName (cs : List Char) : Except NameError Unit :=
  if byteLength cs < 3 || 63 < byteLength cs then .error .length
  else if !cs.all isNameChar then .error .character
  else if cs.head?.all isLowerAlphanum && cs.getLast?.all isLowerAlphanum then .ok ()
  else .error .ends

/-- Checks the three rules for a name. -/
def checkBucketName (name : String) : Except NameError Unit :=
  checkName name.toList

end BucketLifecycle
