import BucketLifecycle.Text.Reader

/-!
# A place in a YAML text

What a line means depends on the column in which it begins, so a place in the text knows its line
and its column, and whether anything but blanks stands before it on its line.  A text ends at its
first null character.
-/

set_option autoImplicit false

namespace BucketLifecycle.Yaml

def isBlank (c : Char) : Bool := c == ' ' || c == '\t'

/-- A character that ends a line. -/
def isBreak (c : Char) : Bool := c == '\n' || c == '\r'

/-- A character that has a meaning of its own between brackets. -/
def isBracketMark (c : Char) : Bool :=
  c == ',' || c == '[' || c == ']' || c == '\x7b' || c == '\x7d'

/-- Whether a line ends at the front of a text. -/
def endsLine (cs : List Char) : Bool :=
  cs.head?.all isBreak

/-- Whether a word ends at the front of a text. -/
def endsWord (cs : List Char) : Bool :=
  cs.head?.all fun c => isBlank c || isBreak c

/-- Whether a mark of brackets stands at the front of a text. -/
def startsBracketMark (cs : List Char) : Bool :=
  cs.head?.any isBracketMark

/-- A place in a text. -/
structure Cursor where
  rest : List Char
  index : Nat
  line : Nat
  column : Nat
  /-- whether only blanks stand before it on its line -/
  leading : Bool
  deriving DecidableEq, Repr

namespace Cursor

def ofText (cs : List Char) : Cursor :=
  ⟨cs.takeWhile (· != '\x00'), 0, 1, 0, true⟩

/-- The place behind so many blanks. -/
def passBlanks (c : Cursor) (n : Nat) : Cursor :=
  { c with rest := c.rest.drop n, index := c.index + n, column := c.column + n }

/-- The place behind so many characters that are no line ends and not all blanks. -/
def passText (c : Cursor) (n : Nat) : Cursor :=
  { c.passBlanks n with leading := c.leading && n == 0 }

/-- The place behind a line end of one character or two. -/
def passBreak (c : Cursor) : Cursor :=
  match c.rest with
  | '\r' :: '\n' :: rest => ⟨rest, c.index + 2, c.line + 1, 0, true⟩
  | ch :: rest => if isBreak ch then ⟨rest, c.index + 1, c.line + 1, 0, true⟩ else c
  | [] => c

/-- The place where the line ends. -/
def passLine (c : Cursor) : Cursor :=
  c.passText (c.rest.takeWhile fun ch => !isBreak ch).length

/-- Whether three times a character stand here as a word of their own at the beginning of a line. -/
def atMark (c : Cursor) (ch : Char) : Bool :=
  c.column == 0 && c.rest.take 3 == [ch, ch, ch] && endsWord (c.rest.drop 3)

/-- Whether a document begins or ends here by a mark. -/
def atDocumentMark (c : Cursor) : Bool :=
  c.atMark '-' || c.atMark '.'

/-- What stands up to the end of a line or the next word: whether there are tabs or spaces in it,
and the place behind it. -/
structure Trail where
  tab : Bool
  space : Bool
  behind : Cursor

/-- The blanks and the comment that stand here.  A comment needs a blank in front. -/
def trail? (c : Cursor) (tabs : Bool) : Option Trail :=
  let blanks := c.rest.takeWhile fun ch => ch == ' ' || (tabs && ch == '\t')
  let behind := c.passBlanks blanks.length
  let found (behind : Cursor) : Trail := ⟨blanks.contains '\t', blanks.contains ' ', behind⟩
  match behind.rest with
  | '#' :: _ => if blanks.isEmpty then none else some (found behind.passLine)
  | _ => some (found behind)

/-- The place behind blanks and a comment, tabs among the blanks. -/
def passTrail? (c : Cursor) : Option Cursor :=
  (c.trail? true).map Trail.behind

end Cursor

end BucketLifecycle.Yaml
