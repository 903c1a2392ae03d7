import BucketLifecycle.Text.Hexadecimal
import BucketLifecycle.Yaml.Cursor

/-!
# Tags, anchors and directives of a YAML text

A tag says what kind of value follows it: a handle between exclamation marks stands for the
beginning of the tag's name, and the rest of the name follows.  An anchor gives a value a name, and
an alias stands for the value with a name.  A directive stands in front of a document and takes a
line.
-/

set_option autoImplicit false

namespace BucketLifecycle.Yaml

/-- A character of a handle or of the name of a directive. -/
def isHandleChar (c : Char) : Bool := c.isAlphanum || c == '_' || c == '-'

/-- A character of a tag between angle brackets. -/
def isUriChar (c : Char) : Bool :=
  c.isAlphanum || "-#;/?:@&=+$,_.!~*'()[]%".toList.contains c

/-- A character of a tag that stands by itself. -/
def isTagChar (c : Char) : Bool :=
  isUriChar c && !isBracketMark c && c != '!'

/-- A character of the name of an anchor. -/
def isAnchorChar (c : Char) : Bool :=
  !isBlank c && !isBreak c && !isBracketMark c && c != '\uFEFF'

/-- How many bytes a character takes whose first byte this is. -/
def escapedWidth? (byte : Nat) : Option Nat :=
  if byte < 0x80 then some 1
  else if 0xC0 ≤ byte ∧ byte < 0xE0 then some 2
  else if 0xE0 ≤ byte ∧ byte < 0xF0 then some 3
  else if 0xF0 ≤ byte ∧ byte < 0xF8 then some 4
  else none

/-- The byte that a percent sign and two digits spell at the front of a text. -/
def escapedByte? : List Char → Option Nat
  | '%' :: a :: b :: _ => Text.hexNumber? [a, b]
  | _ => none

/-- The number that bytes behind the first one go on with; each has two bits that mark it. -/
def furtherBytes (cs : List Char) : (count : Nat) → (number : Nat) → Option Nat
  | 0, number => some number
  | count + 1, number => do
    let byte ← escapedByte? cs
    if byte / 0x40 ≠ 2 then none
    furtherBytes (cs.drop 3) count (number * 0x100 + byte)

/-- The character whose number the escaped bytes at the front of a text spell when they are put side
by side, with the length of the escapes. -/
def escapedChar (cs : List Char) : Option (Char × Nat) := do
  let byte ← escapedByte? cs
  let width ← escapedWidth? byte
  let number ← furtherBytes (cs.drop 3) (width - 1) byte
  return (← Text.charOfNumber? number, 3 * width)

/-- The characters of a tag that stand here, with escapes; `fuel` bounds their number. -/
def tagText (kind : Char → Bool) : (fuel : Nat) → Cursor → Option (List Char × Cursor)
  | 0, _ => none
  | fuel + 1, c =>
    match c.rest with
    | [] => some ([], c)
    | ch :: cs =>
      if !kind ch then some ([], c)
      else do
        let (e, length) ← if ch = '%' then escapedChar (ch :: cs) else some (ch, 1)
        let (text, c) ← tagText kind fuel (c.passText length)
        return (e :: text, c)

/-- A tag: its handle, which may be empty, and the rest of its name. -/
structure Tag where
  handle : String
  suffix : String
  deriving DecidableEq, Repr

/-- The handle that stands here: an exclamation mark, and letters with another one behind them.
Letters without it are no handle but the beginning of a name. -/
def handleText (c : Cursor) : List Char × Cursor :=
  let letters := (c.rest.drop 1).takeWhile isHandleChar
  let length := letters.length + 1
  let length := if c.rest[length]? = some '!' then length + 1 else length
  (c.rest.take length, c.passText length)

def shorthandTag (c : Cursor) : Option (Tag × Cursor) := do
  let (handle, c) := handleText c
  let (text, c) ← tagText isTagChar (c.rest.length + 1) c
  if 2 ≤ handle.length ∧ handle.getLast? = some '!' then
    if text.isEmpty ∧ handle.isEmpty then none
    return (⟨String.ofList handle, String.ofList text⟩, c)
  let suffix := handle.drop 1 ++ text
  if suffix.isEmpty then return (⟨"", "!"⟩, c)
  return (⟨"!", String.ofList suffix⟩, c)

def verbatimTag (c : Cursor) : Option (Tag × Cursor) := do
  let (text, c) ← tagText isUriChar (c.rest.length + 1) (c.passText 2)
  if c.rest.head? = some '>' then some (⟨"", String.ofList text⟩, c.passText 1) else none

/-- A tag.  A blank follows it, or a mark of the brackets around it. -/
def tag (bracketed : Bool) (c : Cursor) : Option (Tag × Cursor) := do
  let (t, c) ← if c.rest[1]? = some '<' then verbatimTag c else shorthandTag c
  if endsWord c.rest ∨ (bracketed ∧ startsBracketMark c.rest) then some (t, c) else none

/-- The name of an anchor or an alias behind its mark. -/
def anchorName (c : Cursor) : Option (String × Cursor) :=
  let name := (c.rest.drop 1).takeWhile isAnchorChar
  if name.isEmpty then none else some (String.ofList name, c.passText (name.length + 1))

/-- What a directive says. -/
inductive Directive where
  | version
  /-- what a handle stands for -/
  | handle (name meaning : String)
  deriving DecidableEq, Repr

/-- The place behind the blanks that stand here. -/
def skipBlanks (c : Cursor) : Cursor :=
  c.passBlanks (c.rest.takeWhile isBlank).length

/-- The place behind a number of a version, which has at most nine digits. -/
def versionNumber (c : Cursor) : Option Cursor :=
  let length := (c.rest.takeWhile Char.isDigit).length
  if length = 0 ∨ 9 < length then none else some (c.passText length)

/-- The place behind two numbers with a period between them. -/
def version (c : Cursor) : Option Cursor := do
  let c ← versionNumber (skipBlanks c)
  if c.rest.head? = some '.' then versionNumber (c.passText 1) else none

/-- What a handle stands for: the beginning of names, which may itself begin with an exclamation
mark. -/
def handleMeaning (c : Cursor) : Option (List Char × Cursor) :=
  match c.rest with
  | '!' :: _ => do
    let (text, c) ← tagText isUriChar (c.rest.length + 1) (c.passText 1)
    return ('!' :: text, c)
  | ch :: _ => if isTagChar ch then tagText isUriChar (c.rest.length + 1) c else none
  | [] => none

/-- A handle and what it stands for. -/
def handleDirective (c : Cursor) : Option (Directive × Cursor) := do
  let c := skipBlanks c
  if c.rest.head? ≠ some '!' then none
  let (name, c) := handleText c
  if name.getLast? ≠ some '!' then none
  let (meaning, c) ← handleMeaning (skipBlanks c)
  if endsWord c.rest then some (.handle (String.ofList name) (String.ofList meaning), c) else none

/-- A directive with its line.  One of another name than the two known ones says nothing. -/
def directive (c : Cursor) : Option (Directive × Cursor) := do
  let name := (c.rest.drop 1).takeWhile isHandleChar
  let c := c.passText (name.length + 1)
  if name.isEmpty ∨ !endsWord c.rest then none
  let (d, c) ←
    if name = "YAML".toList then (version c).map fun c => (.version, c)
    else if name = "TAG".toList then handleDirective c
    else some (.handle "" "", c.passLine)
  let c ← c.passTrail?
  if endsLine c.rest then some (d, c.passBreak) else none

end BucketLifecycle.Yaml
