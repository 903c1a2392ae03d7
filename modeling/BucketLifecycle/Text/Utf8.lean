/-!
# Text as bytes

Encoding writes each character as one to four bytes.  Decoding reads bytes left to right and gives,
in order, each character and a mark (`none`) for each longest run of bytes that begins a character
but is not continued as one, or for each byte that can begin none.  A text is recovered when there
is no mark; a lossy reading puts U+FFFD for each mark.
-/

set_option autoImplicit false

namespace BucketLifecycle

/-- The content of a file, a body or a path. -/
abbrev Bytes := List UInt8

namespace Text

def utf8Encode (cs : List Char) : Bytes :=
  cs.flatMap String.utf8EncodeChar

def utf8Bytes (s : String) : Bytes :=
  utf8Encode s.toList

/-- Where the decoder stands: between characters, or inside one that still needs `missing` bytes,
the next of them between `lo` and `hi`, with the bits read so far in `value`. -/
inductive Utf8State where
  | between
  | inside (missing value lo hi : Nat)
  deriving DecidableEq, Repr

/-- What a byte means that stands where a character begins: nothing, the whole of a
character, or its first part. -/
def utf8First (b : UInt8) : List (Option Char) × Utf8State :=
  let n := b.toNat
  if n < 0x80 then ([some (Char.ofNat n)], .between)
  else if n < 0xC2 then ([none], .between)
  else if n < 0xE0 then ([], .inside 1 (n - 0xC0) 0x80 0xBF)
  else if n = 0xE0 then ([], .inside 2 0 0xA0 0xBF)
  else if n = 0xED then ([], .inside 2 0xD 0x80 0x9F)
  else if n < 0xF0 then ([], .inside 2 (n - 0xE0) 0x80 0xBF)
  else if n = 0xF0 then ([], .inside 3 0 0x90 0xBF)
  else if n < 0xF4 then ([], .inside 3 (n - 0xF0) 0x80 0xBF)
  else if n = 0xF4 then ([], .inside 3 4 0x80 0x8F)
  else ([none], .between)

def utf8Step (st : Utf8State) (b : UInt8) : List (Option Char) × Utf8State :=
  match st with
  | .between => utf8First b
  | .inside missing value lo hi =>
    if lo ≤ b.toNat ∧ b.toNat ≤ hi then
      let value := value * 64 + (b.toNat - 0x80)
      if missing ≤ 1 then ([some (Char.ofNat value)], .between)
      else ([], .inside (missing - 1) value 0x80 0xBF)
    else
      let (marks, st) := utf8First b
      (none :: marks, st)

/-- Reads on from a state to the end of the bytes. -/
def utf8DecodeFrom : Utf8State → Bytes → List (Option Char)
  | .between, [] => []
  | .inside .., [] => [none]
  | st, b :: bs =>
    let (marks, next) := utf8Step st b
    marks ++ utf8DecodeFrom next bs

/-- The characters and marks of a run of bytes. -/
def utf8Decode (bs : Bytes) : List (Option Char) :=
  utf8DecodeFrom .between bs

/-- The text, if the bytes spell one. -/
def utf8Text? (bs : Bytes) : Option String :=
  ((utf8Decode bs).mapM id).map String.ofList

/-- The text with U+FFFD in place of each mark. -/
def utf8Lossy (bs : Bytes) : String :=
  String.ofList ((utf8Decode bs).map fun c => c.getD '\uFFFD')

/-- No characters have no bytes. -/
@[simp] theorem utf8Encode_nil : utf8Encode [] = [] := rfl

/-- The bytes of a first character come before those of the others. -/
@[simp] theorem utf8Encode_cons (c : Char) (cs : List Char) :
    utf8Encode (c :: cs) = String.utf8EncodeChar c ++ utf8Encode cs := rfl

example : utf8Decode [0x61, 0xE2, 0x82, 0x62, 0xFF] = [some 'a', none, some 'b', none] := by decide

example : utf8Decode (utf8Encode ['a', 'é', '日', '😀']) =
    [some 'a', some 'é', some '日', some '😀'] := by decide

end Text

end BucketLifecycle
