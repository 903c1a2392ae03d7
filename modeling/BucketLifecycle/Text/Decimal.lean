/-!
# Whole numbers as decimal text

Writing is `Nat.toDigits 10`.  Reading a number of a bounded type takes an optional sign and one
or more ASCII digits, any number of zeros in front, and names the reason when it fails.
`readBounded_writeInt` says that each number in the bounds is read back from its own text.
-/

set_option autoImplicit false

namespace BucketLifecycle.Text

/-- The decimal digits of a number, without zeros in front. -/
def writeNat (n : Nat) : List Char :=
  Nat.toDigits 10 n

/-- The decimal digits of a number behind a minus sign where it is negative. -/
def writeInt : Int → List Char
  | .ofNat n => writeNat n
  | .negSucc n => '-' :: writeNat (n + 1)

/-- The number that a run of decimal digits spells. -/
def digitsValue (ds : List Char) : Nat :=
  Nat.ofDigitChars 10 ds 0

/-- A text of one or more decimal digits and nothing else. -/
def isNumeral (cs : List Char) : Bool :=
  !cs.isEmpty && cs.all Char.isDigit

/-- Digits with zeros in front up to a width; a longer text stays as it is. -/
def padZeros (width : Nat) (ds : List Char) : List Char :=
  List.replicate (width - ds.length) '0' ++ ds

/-- Why a text is not a number of a bounded type. -/
inductive NumeralError where
  | empty
  | invalidDigit
  | tooLarge
  | tooSmall
  deriving DecidableEq, Repr

def NumeralError.message : NumeralError → String
  | .empty => "cannot parse integer from empty string"
  | .invalidDigit => "invalid digit found in string"
  | .tooLarge => "number too large to fit in target type"
  | .tooSmall => "number too small to fit in target type"

/-- Reads digits from the left, each added to ten times what came before, and stops at the first
character that is no digit or that takes the number past `bound`. -/
def readDigits (bound : Nat) (past : NumeralError) : Nat → List Char → Except NumeralError Nat
  | value, [] => .ok value
  | value, c :: cs =>
    if c.isDigit then
      let next := 10 * value + (c.toNat - '0'.toNat)
      if next ≤ bound then readDigits bound past next cs else .error past
    else .error .invalidDigit

def readNumeral (bound : Nat) (past : NumeralError) (cs : List Char) : Except NumeralError Nat :=
  if cs.isEmpty then .error .invalidDigit else readDigits bound past 0 cs

/-- Reads an optionally signed number between `lo` and `hi`.  A minus sign is a sign only for a
type that has negative numbers (`lo < 0`); elsewhere it is an invalid digit. -/
def readBounded (lo hi : Int) (cs : List Char) : Except NumeralError Int :=
  match cs with
  | [] => .error .empty
  | '+' :: ds => (readNumeral hi.toNat .tooLarge ds).map Int.ofNat
  | '-' :: ds =>
    if lo < 0 then (readNumeral (-lo).toNat .tooSmall ds).map fun n => -(n : Int)
    else .error .invalidDigit
  | ds => (readNumeral hi.toNat .tooLarge ds).map Int.ofNat

/-- How many 64-bit numbers with a sign are not negative. -/
abbrev int64Limit : Nat := 9223372036854775808

def readInt64 (cs : List Char) : Except NumeralError Int :=
  readBounded (-(int64Limit : Int)) (int64Limit - 1) cs

def readUInt64 (cs : List Char) : Except NumeralError UInt64 :=
  (readBounded 0 (UInt64.size - 1) cs).map fun n => UInt64.ofNat n.toNat

/-- The digits of a number have its value. -/
theorem digitsValue_writeNat (n : Nat) : digitsValue (writeNat n) = n :=
  Nat.ofDigitChars_toDigits (by decide) (by decide)

/-- A number is written in digits only. -/
theorem isDigit_of_mem_writeNat {n : Nat} {c : Char} (h : c ∈ writeNat n) : c.isDigit = true :=
  Nat.isDigit_of_mem_toDigits (by decide) (by decide) h

/-- A number is written with at least one digit. -/
theorem writeNat_ne_nil (n : Nat) : writeNat n ≠ [] :=
  Nat.toDigits_ne_nil

/-- The digits of a number are a numeral. -/
theorem isNumeral_writeNat (n : Nat) : isNumeral (writeNat n) = true := by
  simp only [isNumeral, Bool.and_eq_true, Bool.not_eq_true', List.isEmpty_eq_false_iff,
    List.all_eq_true]
  exact ⟨writeNat_ne_nil n, fun c hc => isDigit_of_mem_writeNat hc⟩

/-- Digits that are read behind a number make no less of it. -/
theorem le_ofDigitChars (value : Nat) (cs : List Char) :
    value ≤ Nat.ofDigitChars 10 cs value := by
  induction cs generalizing value with
  | nil => simp
  | cons c cs ih =>
    rw [Nat.ofDigitChars_cons]
    exact Nat.le_trans (by omega) (ih _)

/-- Digits are read as their value where that keeps to the bound, and are past it elsewhere. -/
theorem readDigits_of_all_isDigit {bound : Nat} {past : NumeralError} {ds : List Char}
    (h : ∀ d ∈ ds, d.isDigit = true) (value : Nat) (hvalue : value ≤ bound) :
    readDigits bound past value ds =
      if Nat.ofDigitChars 10 ds value ≤ bound then .ok (Nat.ofDigitChars 10 ds value)
      else .error past := by
  induction ds generalizing value with
  | nil => simp [readDigits, hvalue]
  | cons d ds ih =>
    have hd := h d (by simp)
    rw [Nat.ofDigitChars_cons]
    by_cases hnext : 10 * value + (d.toNat - '0'.toNat) ≤ bound
    · simp only [readDigits, hd, if_true, hnext]
      exact ih (fun x hx => h x (by simp [hx])) _ hnext
    · have hgrow := le_ofDigitChars (10 * value + (d.toNat - '0'.toNat)) ds
      have hpast : ¬ Nat.ofDigitChars 10 ds (10 * value + (d.toNat - '0'.toNat)) ≤ bound := by omega
      simp only [readDigits, hd, if_true, hnext, if_false, hpast]

/-- A numeral is read as its value where that keeps to the bound, and is past it elsewhere. -/
theorem readNumeral_of_isNumeral {bound : Nat} {past : NumeralError} {ds : List Char}
    (h : isNumeral ds = true) :
    readNumeral bound past ds =
      if digitsValue ds ≤ bound then .ok (digitsValue ds) else .error past := by
  simp only [isNumeral, Bool.and_eq_true, Bool.not_eq_true', List.all_eq_true] at h
  simp only [readNumeral, h.1, digitsValue]
  exact readDigits_of_all_isDigit h.2 0 (Nat.zero_le _)

/-- A number without a sign is read as a numeral up to the upper bound. -/
theorem readBounded_of_isNumeral {lo hi : Int} {ds : List Char} (h : isNumeral ds = true) :
    readBounded lo hi ds = (readNumeral hi.toNat .tooLarge ds).map Int.ofNat := by
  cases ds with
  | nil => simp [isNumeral] at h
  | cons d ds =>
    have hd : d.isDigit = true := by
      simp only [isNumeral, List.all_cons, Bool.and_eq_true] at h
      exact h.2.1
    have hplus : d ≠ '+' := by rintro rfl; exact absurd hd (by decide)
    have hminus : d ≠ '-' := by rintro rfl; exact absurd hd (by decide)
    unfold readBounded
    split <;> simp_all

/-- A number between the bounds is read back from its text. -/
theorem readBounded_writeInt {lo hi n : Int} (hlo : lo ≤ n) (hhi : n ≤ hi) :
    readBounded lo hi (writeInt n) = .ok n := by
  cases n with
  | ofNat n =>
    have hle : n ≤ hi.toNat := by
      have : (n : Int) ≤ hi := hhi
      omega
    simp [writeInt, readBounded_of_isNumeral (isNumeral_writeNat n),
      readNumeral_of_isNumeral (isNumeral_writeNat n), digitsValue_writeNat, hle, Except.map]
  | negSucc n =>
    have hneg : lo < 0 := by omega
    have hle : n + 1 ≤ (-lo).toNat := by omega
    simp only [writeInt, readBounded, hneg, if_true,
      readNumeral_of_isNumeral (isNumeral_writeNat (n + 1)), digitsValue_writeNat, hle, Except.map]
    congr 1

end BucketLifecycle.Text
