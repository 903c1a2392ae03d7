import BucketLifecycle.Json.Basic
import BucketLifecycle.Text.Hexadecimal

/-!
# Tokens of a JSON text

The text is read one character at a time by a machine whose state is the token that is being read;
`tokens` folds that machine over the text.  A character that ends a number is itself looked at
again as the beginning of a token (`begin`).  After a token that is broken the machine stops:
nothing behind a break is ever looked at.
-/

set_option autoImplicit false

namespace BucketLifecycle.Json

/-- The tokens of a JSON text. -/
inductive Token where
  | openList
  | closeList
  | openObject
  | closeObject
  | comma
  | colon
  | null
  | bool (b : Bool)
  | number (n : NumberLit)
  | string (s : StringLit)
  | broken (g : Gap)
  deriving DecidableEq, Repr

/-- What part of a number has been read, and so which characters may follow. -/
inductive NumberPart where
  | sign
  | zero
  | whole
  | point
  | fraction
  | mark
  | markSign
  | exponent
  deriving DecidableEq, Repr

/-- The token that is being read. -/
inductive Mode where
  | start
  | word (rest : List Char) (token : Token)
  | number (part : NumberPart) (lit : NumberLit)
  /-- pieces in reverse -/
  | string (pieces : List Piece)
  | escape (pieces : List Piece)
  /-- inside an escape by number, with the digits read so far -/
  | hex (pieces : List Piece) (digits value : Nat)
  /-- inside an escape by number that is none, with the bytes seen of the four that it needs -/
  | badHex (pieces : List Piece) (bytes : Nat)
  | stopped

/-- The four characters that may stand between tokens. -/
def isSpace (c : Char) : Bool :=
  c == ' ' || c == '\n' || c == '\t' || c == '\r'

/-- A character between tokens: the token that it is, if it is one, and the mode after it. -/
def begin (c : Char) : Option Token × Mode :=
  match c with
  | '[' => (some .openList, .start)
  | ']' => (some .closeList, .start)
  | '\x7b' => (some .openObject, .start)
  | '\x7d' => (some .closeObject, .start)
  | ',' => (some .comma, .start)
  | ':' => (some .colon, .start)
  | '"' => (none, .string [])
  | 'n' => (none, .word ['u', 'l', 'l'] .null)
  | 't' => (none, .word ['r', 'u', 'e'] (.bool true))
  | 'f' => (none, .word ['a', 'l', 's', 'e'] (.bool false))
  | '-' => (none, .number .sign ⟨true, [], none, none⟩)
  | '0' => (none, .number .zero ⟨false, ['0'], none, none⟩)
  | c =>
    if isSpace c then (none, .start)
    else if c.isDigit then (none, .number .whole ⟨false, [c], none, none⟩)
    else (some (.broken .stray), .stopped)

/-- What a character does to a number: it belongs to it, ends it, or breaks it. -/
inductive NumberStep where
  | more (part : NumberPart) (lit : NumberLit)
  | finished
  | broken

/-- Puts a digit behind the fraction. -/
def NumberLit.addFraction (lit : NumberLit) (c : Char) : NumberLit :=
  { lit with fraction := some (lit.fraction.getD [] ++ [c]) }

/-- Puts a digit behind the exponent. -/
def NumberLit.addExponent (lit : NumberLit) (c : Char) : NumberLit :=
  let (negative, digits) := lit.exponent.getD (false, [])
  { lit with exponent := some (negative, digits ++ [c]) }

def NumberPart.step (part : NumberPart) (lit : NumberLit) (c : Char) : NumberStep :=
  match part with
  | .sign =>
    if c == '0' then .more .zero { lit with whole := ['0'] }
    else if c.isDigit then .more .whole { lit with whole := [c] }
    else .broken
  | .zero =>
    if c.isDigit then .broken
    else if c == '.' then .more .point { lit with fraction := some [] }
    else if c == 'e' || c == 'E' then .more .mark { lit with exponent := some (false, []) }
    else .finished
  | .whole =>
    if c.isDigit then .more .whole { lit with whole := lit.whole ++ [c] }
    else if c == '.' then .more .point { lit with fraction := some [] }
    else if c == 'e' || c == 'E' then .more .mark { lit with exponent := some (false, []) }
    else .finished
  | .point => if c.isDigit then .more .fraction (lit.addFraction c) else .broken
  | .fraction =>
    if c.isDigit then .more .fraction (lit.addFraction c)
    else if c == 'e' || c == 'E' then .more .mark { lit with exponent := some (false, []) }
    else .finished
  | .mark =>
    if c == '+' then .more .markSign lit
    else if c == '-' then .more .markSign { lit with exponent := some (true, []) }
    else if c.isDigit then .more .exponent (lit.addExponent c)
    else .broken
  | .markSign => if c.isDigit then .more .exponent (lit.addExponent c) else .broken
  | .exponent => if c.isDigit then .more .exponent (lit.addExponent c) else .finished

/-- Whether a number may end after this part. -/
def NumberPart.complete : NumberPart → Bool
  | .zero | .whole | .fraction | .exponent => true
  | .sign | .point | .mark | .markSign => false

/-- What an escaped unit adds to the pieces read so far (in reverse). -/
def addUnit (pieces : List Piece) (n : Nat) : List Piece :=
  match pieces with
  | .unit u :: _ =>
    if isLeading u || isLeading n || isTrailing n then .unit n :: pieces
    else .char (Char.ofNat n) :: pieces
  | _ =>
    if isLeading n || isTrailing n then .unit n :: pieces else .char (Char.ofNat n) :: pieces

/-- The character of a two-character escape. -/
def shortEscape? : Char → Option Char
  | '"' => some '"'
  | '\\' => some '\\'
  | '/' => some '/'
  | 'b' => some '\x08'
  | 'f' => some '\x0c'
  | 'n' => some '\n'
  | 'r' => some '\r'
  | 't' => some '\t'
  | _ => none

/-- The tokens read so far, in reverse, and the token that is being read. -/
structure LexState where
  tokens : List Token
  mode : Mode

/-- A string literal with the given pieces (in reverse) as a token. -/
def stringToken (pieces : List Piece) (ending : StringEnd) : Token :=
  .string ⟨pieces.reverse, ending⟩

def LexState.begin (tokens : List Token) (c : Char) : LexState :=
  match Json.begin c with
  | (none, mode) => ⟨tokens, mode⟩
  | (some token, mode) => ⟨token :: tokens, mode⟩

/-- Leaves the machine with a last token. -/
def LexState.stop (tokens : List Token) (last : Token) : LexState :=
  ⟨last :: tokens, .stopped⟩

def LexState.step (st : LexState) (c : Char) : LexState :=
  match st.mode with
  | .start => LexState.begin st.tokens c
  | .word [] token => LexState.begin (token :: st.tokens) c
  | .word (w :: rest) token =>
    if c = w then
      if rest.isEmpty then ⟨token :: st.tokens, .start⟩ else ⟨st.tokens, .word rest token⟩
    else .stop st.tokens (.broken .word)
  | .number part lit =>
    match part.step lit c with
    | .more part lit => ⟨st.tokens, .number part lit⟩
    | .finished => LexState.begin (.number lit :: st.tokens) c
    | .broken => .stop st.tokens (.broken .number)
  | .string pieces =>
    if c = '"' then ⟨stringToken pieces .closed :: st.tokens, .start⟩
    else if c = '\\' then ⟨st.tokens, .escape pieces⟩
    else if c.toNat < 0x20 then .stop st.tokens (stringToken pieces .control)
    else ⟨st.tokens, .string (.char c :: pieces)⟩
  | .escape pieces =>
    if c = 'u' then ⟨st.tokens, .hex pieces 0 0⟩
    else match shortEscape? c with
      | some e => ⟨st.tokens, .string (.char e :: pieces)⟩
      | none => .stop st.tokens (stringToken pieces .badEscape)
  | .hex pieces digits value =>
    match Text.hexValue? c with
    | some d =>
      let value := 16 * value + d
      if digits < 3 then ⟨st.tokens, .hex pieces (digits + 1) value⟩
      else ⟨st.tokens, .string (addUnit pieces value)⟩
    | none =>
      if digits + c.utf8Size < 4 then ⟨st.tokens, .badHex pieces (digits + c.utf8Size)⟩
      else .stop st.tokens (stringToken pieces .badHex)
  | .badHex pieces bytes =>
    if bytes + c.utf8Size < 4 then ⟨st.tokens, .badHex pieces (bytes + c.utf8Size)⟩
    else .stop st.tokens (stringToken pieces .badHex)
  | .stopped => st

/-- The tokens at the end of the text, in order. -/
def LexState.finish (st : LexState) : List Token :=
  let last := match st.mode with
    | .start => []
    | .word [] token => [token]
    | .word (_ :: _) _ => [.broken .cut]
    | .number part lit => [if part.complete then .number lit else .broken .numberCut]
    | .string pieces => [stringToken pieces .cut]
    | .escape pieces => [stringToken pieces .cut]
    | .hex pieces _ _ => [stringToken pieces .cut]
    | .badHex pieces _ => [stringToken pieces .cut]
    | .stopped => []
  st.tokens.reverse ++ last

def tokens (cs : List Char) : List Token :=
  (cs.foldl LexState.step ⟨[], .start⟩).finish

end BucketLifecycle.Json
