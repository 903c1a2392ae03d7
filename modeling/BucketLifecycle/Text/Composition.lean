import BucketLifecycle.Text.CombiningClass
import BucketLifecycle.Text.CompositionTable

/-!
# Composed text

The same text can be written with composed characters or with letters and marks.  `composed` brings
it into one form: every character is taken apart, the marks behind each letter are put into the
order of their classes, and then each character is joined with its letter where the two have a
composed form and no other character stands between them in the way.

A syllable of Hangul has a leading consonant, a vowel and perhaps a trailing consonant, and its code
point is computed from their places.
-/

set_option autoImplicit false

namespace BucketLifecycle.Text

/-- The first leading consonant of Hangul. -/
def leadBase : Nat := 0x1100

def vowelBase : Nat := 0x1161

/-- The code point before the first trailing consonant. -/
def trailBase : Nat := 0x11A7

def syllableBase : Nat := 0xAC00

/-- How many leading consonants there are. -/
def leadCount : Nat := 19

def vowelCount : Nat := 21

/-- How many trailing consonants there are, with the choice of none. -/
def trailCount : Nat := 28

/-- The parts of a syllable of Hangul. -/
def syllableParts? (c : Char) : Option (List Char) :=
  let place := c.toNat - syllableBase
  if c.toNat < syllableBase ∨ leadCount * vowelCount * trailCount ≤ place then none
  else
    let lead := Char.ofNat (leadBase + place / (vowelCount * trailCount))
    let vowel := Char.ofNat (vowelBase + place / trailCount % vowelCount)
    if place % trailCount = 0 then some [lead, vowel]
    else some [lead, vowel, Char.ofNat (trailBase + place % trailCount)]

/-- The syllable of two parts of Hangul: a leading consonant and a vowel, or a syllable without a
trailing consonant and one. -/
def joinedSyllable? (c d : Char) : Option Char :=
  let lead := c.toNat - leadBase
  let vowel := d.toNat - vowelBase
  let place := c.toNat - syllableBase
  let trail := d.toNat - trailBase
  if leadBase ≤ c.toNat ∧ lead < leadCount ∧ vowelBase ≤ d.toNat ∧ vowel < vowelCount then
    some (Char.ofNat (syllableBase + (lead * vowelCount + vowel) * trailCount))
  else if syllableBase ≤ c.toNat ∧ place < leadCount * vowelCount * trailCount ∧
      place % trailCount = 0 ∧ trailBase < d.toNat ∧ trail < trailCount then
    some (Char.ofNat (c.toNat + trail))
  else none

/-- A character is taken apart in so many steps at most. -/
def componentDepth : Nat := 4

/-- The characters that one is composed of, after so many steps. -/
def takeApart : (depth : Nat) → Char → List Char
  | 0, c => [c]
  | depth + 1, c =>
    match syllableParts? c with
    | some parts => parts
    | none =>
      match components.find? c with
      | some run => run.values.flatMap fun n => takeApart depth (Char.ofNat n)
      | none => [c]

/-- Puts a mark in front of others, behind those of a lower class. -/
def insertMark (c : Char) : List Char → List Char
  | [] => [c]
  | d :: rest =>
    if 0 < combiningClass d ∧ combiningClass d < combiningClass c then d :: insertMark c rest
    else c :: d :: rest

/-- A text with every character taken apart and the marks behind each letter in order. -/
def decomposed (cs : List Char) : List Char :=
  (cs.flatMap (takeApart componentDepth)).foldr insertMark []

/-- The composed characters of two, with the two. -/
def compositions : Array (Nat × Nat × Nat) :=
  components.runs.filterMap fun run =>
    match run.values with
    | [a, b] =>
      if neverComposed.contains (Char.ofNat run.first) then none else some (a, b, run.first)
    | _ => none

/-- The composed form of two characters. -/
def joined? (c d : Char) : Option Char :=
  (joinedSyllable? c d).or
    ((compositions.find? fun (a, b, _) => a == c.toNat && b == d.toNat).map fun e =>
      Char.ofNat e.2.2)

/-- Whether the last mark behind a letter keeps a character from the letter. -/
def isBlocked (marks : List Char) (c : Char) : Bool :=
  match marks with
  | [] => false
  | last :: _ => combiningClass c ≤ combiningClass last

/-- Goes on behind a letter and the marks that stay with it, the last of them first. -/
def composeFrom : (letter : Char) → (marks : List Char) → List Char → List Char
  | letter, marks, [] => letter :: marks.reverse
  | letter, marks, c :: cs =>
    match if isBlocked marks c then none else joined? letter c with
    | some composed => composeFrom composed marks cs
    | none =>
      if combiningClass c = 0 then letter :: (marks.reverse ++ composeFrom c [] cs)
      else composeFrom letter (c :: marks) cs

/-- A text in its composed form. -/
def composed (cs : List Char) : List Char :=
  match decomposed cs with
  | [] => []
  | c :: cs => composeFrom c [] cs

end BucketLifecycle.Text
