import BucketLifecycle.Text.Unprintable

/-!
# Quoted text in messages

A text inside a message stands between double quotes.  The quote, the backslash, newline, carriage
return, tab and the zero character have two-character escapes; any other unprintable character
is shown as its code point in lower-case hexadecimal between braces; all else stands as it is.
-/

set_option autoImplicit false

namespace BucketLifecycle.Text

/-- The lower-case hexadecimal digits of a number, without zeros in front. -/
def writeHex (n : Nat) : List Char :=
  Nat.toDigits 16 n

/-- How one character is shown between quotes. -/
def quoteChar (c : Char) : List Char :=
  if c = '"' then ['\\', '"']
  else if c = '\\' then ['\\', '\\']
  else if c = '\n' then ['\\', 'n']
  else if c = '\r' then ['\\', 'r']
  else if c = '\t' then ['\\', 't']
  else if c = '\x00' then ['\\', '0']
  else if isUnprintable c then ['\\', 'u', '\x7b'] ++ writeHex c.toNat ++ ['\x7d']
  else [c]

def quoted (s : String) : String :=
  String.ofList ('"' :: s.toList.flatMap quoteChar ++ ['"'])

end BucketLifecycle.Text
