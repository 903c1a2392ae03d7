/-!
# JSON texts as trees

A JSON text is read into a tree even when it leaves the grammar: the place where it does becomes the
last leaf in reading order, or the ending of the last list or object.  A decoder that walks the tree
from left to right therefore meets a type error or a grammar error, whichever comes first in the
text.

Two ways of walking exist.  *Reading* a value needs its meaning: numbers in range, paired
surrogates, no deeper than a limit.  *Skipping* a value checks the grammar alone, and words a few
breaks differently.  Each kind of break says what it is called on either way.
-/

set_option autoImplicit false

namespace BucketLifecycle.Json

/-- What is wrong with the grammar of a text. -/
inductive GrammarError where
  | endInList
  | endInObject
  | endInString
  | endInValue
  | expectedColon
  | expectedListComma
  | expectedObjectComma
  | expectedWord
  | expectedValue
  | invalidEscape
  | invalidNumber
  | numberOutOfRange
  | controlCharacter
  | keyNotString
  | unpairedSurrogate
  | unfinishedSurrogate
  | trailingComma
  | trailingCharacters
  | tooDeep
  deriving DecidableEq, Repr

/-- The wording of each grammar error. -/
def GrammarError.message : GrammarError → String
  | .endInList => "EOF while parsing a list"
  | .endInObject => "EOF while parsing an object"
  | .endInString => "EOF while parsing a string"
  | .endInValue => "EOF while parsing a value"
  | .expectedColon => "expected `:`"
  | .expectedListComma => "expected `,` or `]`"
  | .expectedObjectComma => "expected `,` or `\x7d`"
  | .expectedWord => "expected ident"
  | .expectedValue => "expected value"
  | .invalidEscape => "invalid escape"
  | .invalidNumber => "invalid number"
  | .numberOutOfRange => "number out of range"
  | .controlCharacter => "control character (\\u0000-\\u001F) found while parsing a string"
  | .keyNotString => "key must be a string"
  | .unpairedSurrogate => "lone leading surrogate in hex escape"
  | .unfinishedSurrogate => "unexpected end of hex escape"
  | .trailingComma => "trailing comma"
  | .trailingCharacters => "trailing characters"
  | .tooDeep => "recursion limit exceeded"

/-- One character of a string literal, or one escaped UTF-16 unit that is half of a character or
that stands where the second half of one must. -/
inductive Piece where
  | char (c : Char)
  | unit (n : Nat)
  deriving DecidableEq, Repr

/-- How a string literal ends. -/
inductive StringEnd where
  /-- at its closing quote -/
  | closed
  /-- at the end of the text -/
  | cut
  /-- at a backslash before a character that starts no escape -/
  | badEscape
  /-- at four characters after `\u` that are no hexadecimal number -/
  | badHex
  /-- at a control character -/
  | control
  deriving DecidableEq, Repr

/-- A string literal as it stands in the text. -/
structure StringLit where
  pieces : List Piece
  ending : StringEnd
  deriving DecidableEq, Repr

/-- A number literal: its digits before the point, after the point, and of the exponent, with the
sign of each part. -/
structure NumberLit where
  negative : Bool
  whole : List Char
  fraction : Option (List Char)
  exponent : Option (Bool × List Char)
  deriving DecidableEq, Repr

/-- A place where a value should stand and none does. -/
inductive Gap where
  /-- a character that begins no value -/
  | stray
  /-- the end of the text -/
  | cut
  /-- a member without its colon -/
  | colon
  /-- the end of the text in place of a colon -/
  | colonCut
  /-- the beginning of `null`, `true` or `false` that goes on as something else -/
  | word
  /-- a number that stops where a digit must follow, or has a digit after a leading zero -/
  | number
  /-- a number that the end of the text cuts off -/
  | numberCut
  deriving DecidableEq, Repr

/-- How a list ends. -/
inductive ListEnd where
  | closed
  /-- a comma and the closing bracket -/
  | trailingComma
  /-- a comma and the end of the text -/
  | commaCut
  /-- no comma where one must stand -/
  | missingComma
  /-- the end of the text -/
  | cut
  deriving DecidableEq, Repr

/-- How an object ends. -/
inductive ObjectEnd where
  | closed
  /-- a comma and the closing brace -/
  | trailingComma
  /-- something other than a string where a key must stand -/
  | missingKey
  /-- a comma and the end of the text -/
  | commaCut
  /-- no comma where one must stand -/
  | missingComma
  /-- the end of the text -/
  | cut
  deriving DecidableEq, Repr

/-- A value of a JSON text, or the place where the text leaves the grammar. -/
inductive Node where
  | null
  | bool (b : Bool)
  | number (n : NumberLit)
  | string (s : StringLit)
  | list (items : List Node) (ending : ListEnd)
  | object (members : List (StringLit × Node)) (ending : ObjectEnd)
  | gap (g : Gap)

/-- A whole text: one value, and whether anything but blanks follows it. -/
structure Document where
  root : Node
  trailing : Bool

/-- The literal of a text without escapes that matter. -/
def StringLit.ofChars (cs : List Char) : StringLit :=
  ⟨cs.map .char, .closed⟩

def StringLit.ofString (s : String) : StringLit :=
  StringLit.ofChars s.toList

def Node.ofString (s : String) : Node :=
  .string (.ofString s)

/-- The value of a whole number. -/
def Node.ofInt (n : Int) : Node :=
  .number ⟨n < 0, Nat.toDigits 10 n.natAbs, none, none⟩

/-- The value of a natural number. -/
def Node.ofNat (n : Nat) : Node :=
  .number ⟨false, Nat.toDigits 10 n, none, none⟩

/-- An object with the given members in order. -/
def Node.ofMembers (ms : List (String × Node)) : Node :=
  .object (ms.map fun (k, v) => (.ofString k, v)) .closed

/-- A list of the given values. -/
def Node.ofItems (items : List Node) : Node :=
  .list items .closed

/-- The gap as a reader words it. -/
def Gap.reading : Gap → GrammarError
  | .stray => .expectedValue
  | .cut => .endInValue
  | .colon => .expectedColon
  | .colonCut => .endInObject
  | .word => .expectedWord
  | .number => .invalidNumber
  | .numberCut => .endInValue

/-- The gap as a skipper words it. -/
def Gap.skipping : Gap → GrammarError
  | .numberCut => .invalidNumber
  | g => g.reading

/-- The ending of a list as a reader words it. -/
def ListEnd.reading : ListEnd → Option GrammarError
  | .closed => none
  | .trailingComma => some .trailingComma
  | .commaCut => some .endInValue
  | .missingComma => some .expectedListComma
  | .cut => some .endInList

/-- The ending of a list as a skipper words it. -/
def ListEnd.skipping : ListEnd → Option GrammarError
  | .trailingComma => some .expectedValue
  | e => e.reading

/-- The ending of a list whose reader expects no further item. -/
def ListEnd.finishing : ListEnd → Option GrammarError
  | .closed => none
  | .trailingComma => some .trailingComma
  | .commaCut => some .trailingCharacters
  | .missingComma => some .trailingCharacters
  | .cut => some .endInList

/-- The ending of an object as a reader words it. -/
def ObjectEnd.reading : ObjectEnd → Option GrammarError
  | .closed => none
  | .trailingComma => some .trailingComma
  | .missingKey => some .keyNotString
  | .commaCut => some .endInValue
  | .missingComma => some .expectedObjectComma
  | .cut => some .endInObject

/-- The ending of an object as a skipper words it. -/
def ObjectEnd.skipping : ObjectEnd → Option GrammarError
  | .trailingComma => some .keyNotString
  | .commaCut => some .endInObject
  | e => e.reading

/-- The ending of a string literal, the same on either way. -/
def StringEnd.error? : StringEnd → Option GrammarError
  | .closed => none
  | .cut => some .endInString
  | .badEscape => some .invalidEscape
  | .badHex => some .invalidEscape
  | .control => some .controlCharacter

/-- Succeeds where there is nothing to complain about. -/
def orFail (e : Option GrammarError) : Except GrammarError Unit :=
  match e with
  | none => .ok ()
  | some e => .error e

/-- What follows a leading surrogate that is the last piece of a literal: it can be completed only
by an escape, so a bad escape letter, a control character or the closing quote leaves it
unfinished. -/
def StringEnd.afterLeading : StringEnd → GrammarError
  | .cut => .endInString
  | .badHex => .invalidEscape
  | _ => .unfinishedSurrogate

/-- Whether a unit is the first half of a character. -/
def isLeading (unit : Nat) : Bool :=
  0xD800 ≤ unit && unit ≤ 0xDBFF

/-- Whether a unit is the second half of a character. -/
def isTrailing (unit : Nat) : Bool :=
  0xDC00 ≤ unit && unit ≤ 0xDFFF

/-- The character of a surrogate pair. -/
def pairChar (leading trailing : Nat) : Char :=
  Char.ofNat ((leading - 0xD800) * 0x400 + (trailing - 0xDC00) + 0x10000)

/-- The text of the pieces, with each leading surrogate joined to the trailing one after it. -/
def Piece.joined (ending : StringEnd) : List Piece → Except GrammarError (List Char)
  | [] => (orFail ending.error?).map fun _ => []
  | .char c :: rest => (Piece.joined ending rest).map (c :: ·)
  | [.unit u] =>
    if isLeading u then .error ending.afterLeading else .error .unpairedSurrogate
  | .unit u :: .char _ :: _ =>
    if isLeading u then .error .unfinishedSurrogate else .error .unpairedSurrogate
  | .unit u :: .unit v :: rest =>
    if isLeading u && isTrailing v then (Piece.joined ending rest).map (pairChar u v :: ·)
    else .error .unpairedSurrogate

/-- The characters that a literal spells. -/
def StringLit.chars (s : StringLit) : Except GrammarError (List Char) :=
  Piece.joined s.ending s.pieces

/-- The text that a literal spells. -/
def StringLit.text (s : StringLit) : Except GrammarError String :=
  s.chars.map String.ofList

mutual

/-- Checks the grammar of a value and nothing else. -/
def Node.skip : Node → Except GrammarError Unit
  | .null => .ok ()
  | .bool _ => .ok ()
  | .number _ => .ok ()
  | .string s => orFail s.ending.error?
  | .list items ending => do
    skipItems items
    orFail ending.skipping
  | .object members ending => do
    skipMembers members
    orFail ending.skipping
  | .gap g => .error g.skipping

/-- Checks the grammar of the items of a list. -/
def Node.skipItems : List Node → Except GrammarError Unit
  | [] => .ok ()
  | item :: rest => do
    item.skip
    skipItems rest

/-- Checks the grammar of the members of an object. -/
def Node.skipMembers : List (StringLit × Node) → Except GrammarError Unit
  | [] => .ok ()
  | (key, value) :: rest => do
    orFail key.ending.error?
    value.skip
    skipMembers rest

end

/-- Pieces that are characters are put together to those characters. -/
theorem Piece.joined_map_char (cs : List Char) :
    Piece.joined .closed (cs.map .char) = .ok cs := by
  induction cs with
  | nil => rfl
  | cons c cs ih => simp [Piece.joined, ih, Except.map]

/-- The literal for some characters holds them. -/
@[simp] theorem StringLit.chars_ofChars (cs : List Char) : (StringLit.ofChars cs).chars = .ok cs :=
  Piece.joined_map_char cs

/-- The literal for a text holds it. -/
@[simp] theorem StringLit.text_ofString (s : String) : (StringLit.ofString s).text = .ok s := by
  simp [StringLit.text, StringLit.ofString, Except.map]

end BucketLifecycle.Json
