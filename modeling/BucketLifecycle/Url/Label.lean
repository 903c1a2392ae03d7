import BucketLifecycle.Text.Composition
import BucketLifecycle.Text.Direction
import BucketLifecycle.Text.Joining
import BucketLifecycle.Text.Mark
import BucketLifecycle.Url.NameTable

/-!
# Labels of names

A name of a host consists of labels.  `mapped` gives a name the one form that all its spellings
share.  A label may not begin with a mark, and the two characters that control joining may stand
only where they change something.  In a name with letters that are written from right to left every
label must keep to one direction.
-/

set_option autoImplicit false

namespace BucketLifecycle.Domain

open Text (Direction direction)

/-- What a character becomes in a name, or nothing where it may not be there. -/
def mapChar? (c : Char) : Option (List Char) :=
  if disallowed.contains c then none
  else if ignored.contains c then some []
  else match replaced.find? c with
    | none => some [c]
    | some run => match run.values with
      | [n] => some [Char.ofNat (n + (c.toNat - run.first))]
      | ns => some (ns.map Char.ofNat)

/-- A name in the form that all its spellings share. -/
def mapped? (cs : List Char) : Option (List Char) :=
  (cs.mapM mapChar?).map fun parts => Text.composed parts.flatten

/-- The character that parts letters which would be joined. -/
def nonJoiner : Char := '\u200C'

/-- The character that joins letters which would be parted. -/
def joiner : Char := '\u200D'

/-- Whether each character that controls joining stands where it may: behind the sign that takes the
vowel from a letter, or, parting letters, between two that would be joined.  The characters in front
are given with the last one first. -/
def joinersFit : (before : List Char) → List Char → Bool
  | _, [] => true
  | before, c :: cs =>
    let fits :=
      if c == nonJoiner || c == joiner then
        (before.head?.any fun d => Text.combiningClass d == Text.viramaClass) ||
          (c == nonJoiner && Text.joinsFirst Text.joinsNext before &&
            Text.joinsFirst Text.joinsPrevious cs)
      else true
    fits && joinersFit (c :: before) cs

/-- Whether the characters of a label may stand where they do. -/
def isWellFormed (label : List Char) : Bool :=
  !(label.head?.any Text.isMark) && joinersFit [] label

/-- Whether a direction is one from right to left. -/
def isRightToLeft (d : Direction) : Bool :=
  d == .rightToLeft || d == .arabicLetter || d == .arabicNumber

/-- The directions that may stand in a label of any direction. -/
def isEverywhere (d : Direction) : Bool :=
  d == .europeanNumber || d == .europeanSeparator || d == .europeanTerminator ||
    d == .commonSeparator || d == .otherNeutral || d == .boundaryNeutral || d == .nonspacingMark

/-- Whether a label that begins with a letter keeps to the direction of that letter. -/
def keepsDirection (label : List Char) : Bool :=
  let ds := label.map direction
  let last := (ds.reverse.dropWhile (· == .nonspacingMark)).head?
  match ds with
  | [] => true
  | .leftToRight :: _ =>
    (ds.all fun d => d == .leftToRight || isEverywhere d) &&
      last.any fun d => d == .leftToRight || d == .europeanNumber
  | .rightToLeft :: _ | .arabicLetter :: _ =>
    (ds.all fun d => isRightToLeft d || isEverywhere d) &&
      (last.any fun d => isRightToLeft d || d == .europeanNumber) &&
      !(ds.contains .europeanNumber && ds.contains .arabicNumber)
  | _ => false

end BucketLifecycle.Domain
