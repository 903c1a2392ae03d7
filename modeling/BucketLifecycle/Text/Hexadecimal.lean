import BucketLifecycle.Text.Decimal

/-!
# Numbers in a base

The digits of a base are the decimal ones and, from eleven on, letters, of which capital and small
ones mean the same.  `hexNumber?` reads the base in which escapes give the numbers of characters.
-/

set_option autoImplicit false

namespace BucketLifecycle.Text

/-- The value of a hexadecimal digit. -/
def hexValue? (c : Char) : Option Nat :=
  if c.isDigit then some (c.toNat - '0'.toNat)
  else if 'a' ≤ c ∧ c ≤ 'f' then some (c.toNat - 'a'.toNat + 10)
  else if 'A' ≤ c ∧ c ≤ 'F' then some (c.toNat - 'A'.toNat + 10)
  else none

/-- Whether a character is a hexadecimal digit. -/
def isHexDigit (c : Char) : Bool :=
  (hexValue? c).isSome

/-- The number that the digits of a base spell; no digits spell zero. -/
def numberInBase? (base : Nat) (ds : List Char) : Option Nat :=
  ds.foldlM (fun n c => do
    let d ← hexValue? c
    if d < base then some (n * base + d) else none) 0

/-- The number that hexadecimal digits spell. -/
def hexNumber? (ds : List Char) : Option Nat :=
  numberInBase? 16 ds

/-- The character with a number, where the number is one of a character. -/
def charOfNumber? (n : Nat) : Option Char :=
  if h : n.isValidChar then some (Char.ofNatAux n h) else none

/-- Reads an optionally signed number in a base that fits 64 bits with its sign. -/
def readInt64InBase? (base : Nat) (cs : List Char) : Option Int64 := do
  let (negative, ds) := match cs with
    | '+' :: ds => (false, ds)
    | '-' :: ds => (true, ds)
    | ds => (false, ds)
  if ds.isEmpty then none
  let n ← numberInBase? base ds
  if n < int64Limit ∨ (negative ∧ n = int64Limit) then
    some (Int64.ofInt (if negative then -n else n))
  else none

end BucketLifecycle.Text
