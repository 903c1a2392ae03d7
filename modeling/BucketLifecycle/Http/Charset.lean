import BucketLifecycle.Http.CharsetTable
import BucketLifecycle.Http.MediaType
import BucketLifecycle.Text.Blank
import BucketLifecycle.Text.Utf8

/-!
# Character sets of response bodies

A body is read in the character set that its content type names, and as UTF-8 where it names none
or one that is not known here.  Known are UTF-8, UTF-16 and the sets in which each byte is a
character.  A byte order mark at the front says more than the content type, and is dropped.  What
spells no character becomes U+FFFD.
-/

set_option autoImplicit false

namespace BucketLifecycle.Http

open Text (RunTable)

/-- The character sets that are known. -/
inductive Charset where
  | utf8
  | utf16 (bigEndian : Bool)
  /-- one character for each byte; the table gives those of the bytes from 128 -/
  | singleByte (high : RunTable)
  /-- a set whose texts are not to be read -/
  | replacement
  deriving DecidableEq, Repr

/-- The single-byte sets with their labels. -/
def singleByteLabels : List (RunTable × List String) :=
  [(SingleByte.cyrillic866, ["866", "cp866", "csibm866", "ibm866"]),
    (SingleByte.latin2, ["csisolatin2", "iso-8859-2", "iso-ir-101", "iso8859-2", "iso88592",
      "iso_8859-2", "iso_8859-2:1987", "l2", "latin2"]),
    (SingleByte.latin3, ["csisolatin3", "iso-8859-3", "iso-ir-109", "iso8859-3", "iso88593",
      "iso_8859-3", "iso_8859-3:1988", "l3", "latin3"]),
    (SingleByte.latin4, ["csisolatin4", "iso-8859-4", "iso-ir-110", "iso8859-4", "iso88594",
      "iso_8859-4", "iso_8859-4:1988", "l4", "latin4"]),
    (SingleByte.cyrillic, ["csisolatincyrillic", "cyrillic", "iso-8859-5", "iso-ir-144",
      "iso8859-5", "iso88595", "iso_8859-5", "iso_8859-5:1988"]),
    (SingleByte.arabic, ["arabic", "asmo-708", "csiso88596e", "csiso88596i", "csisolatinarabic",
      "ecma-114", "iso-8859-6", "iso-8859-6-e", "iso-8859-6-i", "iso-ir-127", "iso8859-6",
      "iso88596", "iso_8859-6", "iso_8859-6:1987"]),
    (SingleByte.greek, ["csisolatingreek", "ecma-118", "elot_928", "greek", "greek8", "iso-8859-7",
      "iso-ir-126", "iso8859-7", "iso88597", "iso_8859-7", "iso_8859-7:1987", "sun_eu_greek"]),
    (SingleByte.hebrew, ["csiso88598e", "csisolatinhebrew", "hebrew", "iso-8859-8", "iso-8859-8-e",
      "iso-ir-138", "iso8859-8", "iso88598", "iso_8859-8", "iso_8859-8:1988", "visual",
      "csiso88598i", "iso-8859-8-i", "logical"]),
    (SingleByte.latin6, ["csisolatin6", "iso-8859-10", "iso-ir-157", "iso8859-10", "iso885910",
      "l6", "latin6"]),
    (SingleByte.latin7, ["iso-8859-13", "iso8859-13", "iso885913"]),
    (SingleByte.latin8, ["iso-8859-14", "iso8859-14", "iso885914"]),
    (SingleByte.latin9, ["csisolatin9", "iso-8859-15", "iso8859-15", "iso885915", "iso_8859-15",
      "l9"]),
    (SingleByte.latin10, ["iso-8859-16"]),
    (SingleByte.koi8r, ["cskoi8r", "koi", "koi8", "koi8-r", "koi8_r"]),
    (SingleByte.koi8u, ["koi8-ru", "koi8-u"]),
    (SingleByte.macRoman, ["csmacintosh", "mac", "macintosh", "x-mac-roman"]),
    (SingleByte.macCyrillic, ["x-mac-cyrillic", "x-mac-ukrainian"]),
    (SingleByte.windows874, ["dos-874", "iso-8859-11", "iso8859-11", "iso885911", "tis-620",
      "windows-874"]),
    (SingleByte.windows1250, ["cp1250", "windows-1250", "x-cp1250"]),
    (SingleByte.windows1251, ["cp1251", "windows-1251", "x-cp1251"]),
    (SingleByte.windows1252, ["ansi_x3.4-1968", "ascii", "cp1252", "cp819", "csisolatin1",
      "ibm819", "iso-8859-1", "iso-ir-100", "iso8859-1", "iso88591", "iso_8859-1",
      "iso_8859-1:1987", "l1", "latin1", "us-ascii", "windows-1252", "x-cp1252"]),
    (SingleByte.windows1253, ["cp1253", "windows-1253", "x-cp1253"]),
    (SingleByte.windows1254, ["cp1254", "csisolatin5", "iso-8859-9", "iso-ir-148", "iso8859-9",
      "iso88599", "iso_8859-9", "iso_8859-9:1989", "l5", "latin5", "windows-1254", "x-cp1254"]),
    (SingleByte.windows1255, ["cp1255", "windows-1255", "x-cp1255"]),
    (SingleByte.windows1256, ["cp1256", "windows-1256", "x-cp1256"]),
    (SingleByte.windows1257, ["cp1257", "windows-1257", "x-cp1257"]),
    (SingleByte.windows1258, ["cp1258", "windows-1258", "x-cp1258"]),
    (SingleByte.userDefined, ["x-user-defined"])]

/-- The labels of the other sets. -/
def charsetLabels : List (Charset × List String) :=
  [(.utf8, ["unicode-1-1-utf-8", "unicode11utf8", "unicode20utf8", "utf-8", "utf8",
      "x-unicode20utf8"]),
    (.utf16 false, ["csunicode", "iso-10646-ucs-2", "ucs-2", "unicode", "unicodefeff", "utf-16",
      "utf-16le"]),
    (.utf16 true, ["unicodefffe", "utf-16be"]),
    (.replacement, ["csiso2022kr", "hz-gb-2312", "iso-2022-cn", "iso-2022-cn-ext", "iso-2022-kr",
      "replacement"])]

/-- The character set with a label in any case of letters. -/
def Charset.ofLabel? (label : List Char) : Option Charset :=
  let label := String.ofList ((Text.trim label).map Char.toLower)
  let sets := charsetLabels ++ singleByteLabels.map fun (high, labels) => (.singleByte high, labels)
  (sets.find? fun set => set.2.contains label).map Prod.fst

/-- The character set that a content type names. -/
def Charset.ofContentType (contentType : String) : Charset :=
  ((MediaType.parameter? "charset" contentType).bind Charset.ofLabel?).getD .utf8

/-- A character of a single-byte set. -/
def singleByteChar (high : RunTable) (b : UInt8) : Char :=
  let c := Char.ofNat b.toNat
  if b < 0x80 then c
  else match high.find? c with
    | some ⟨first, _, value :: _⟩ => Char.ofNat (value + (b.toNat - first))
    | _ => '\uFFFD'

/-- The 16-bit units of a body; a byte that is left over has none. -/
def units16 (bigEndian : Bool) : Bytes → List (Option Nat)
  | [] => []
  | [_] => [none]
  | a :: b :: rest =>
    some (if bigEndian then a.toNat * 256 + b.toNat else b.toNat * 256 + a.toNat) ::
      units16 bigEndian rest

/-- The characters of 16-bit units. -/
def decodeUnits : List (Option Nat) → List Char
  | [] => []
  | none :: rest => '\uFFFD' :: decodeUnits rest
  | [some u] => [if 0xD800 ≤ u ∧ u ≤ 0xDFFF then '\uFFFD' else Char.ofNat u]
  | some u :: none :: rest =>
    if 0xD800 ≤ u ∧ u ≤ 0xDBFF then '\uFFFD' :: decodeUnits rest
    else (if 0xDC00 ≤ u ∧ u ≤ 0xDFFF then '\uFFFD' else Char.ofNat u) :: decodeUnits (none :: rest)
  | some u :: some v :: rest =>
    if 0xD800 ≤ u ∧ u ≤ 0xDBFF ∧ 0xDC00 ≤ v ∧ v ≤ 0xDFFF then
      Char.ofNat ((u - 0xD800) * 0x400 + (v - 0xDC00) + 0x10000) :: decodeUnits rest
    else
      (if 0xD800 ≤ u ∧ u ≤ 0xDFFF then '\uFFFD' else Char.ofNat u) :: decodeUnits (some v :: rest)

/-- The text of a body in a character set. -/
def Charset.decode (set : Charset) (body : Bytes) : String :=
  match set with
  | .utf8 => Text.utf8Lossy body
  | .utf16 bigEndian => String.ofList (decodeUnits (units16 bigEndian body))
  | .singleByte high => String.ofList (body.map (singleByteChar high))
  | .replacement => if body.isEmpty then "" else "\uFFFD"

/-- The character set that a byte order mark announces, with the body behind the mark. -/
def byteOrderMark? : Bytes → Option (Charset × Bytes)
  | 0xEF :: 0xBB :: 0xBF :: rest => some (.utf8, rest)
  | 0xFF :: 0xFE :: rest => some (.utf16 false, rest)
  | 0xFE :: 0xFF :: rest => some (.utf16 true, rest)
  | _ => none

/-- The text of a body with a content type. -/
def decodeBody (contentType : Option String) (body : Bytes) : String :=
  match byteOrderMark? body with
  | some (set, rest) => set.decode rest
  | none => (contentType.elim .utf8 Charset.ofContentType).decode body

end BucketLifecycle.Http
