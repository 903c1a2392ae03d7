/-!
# Letters and digits

Names of buckets and of settings are made of small letters, digits and a few other characters.
A text is read by taking the characters of one kind off its beginning.
-/

set_option autoImplicit false

namespace BucketLifecycle

/-- A small letter of the alphabet or a digit. -/
def SmallAlphanumeric (c : Char) : Prop :=
  ('a' ≤ c ∧ c ≤ 'z') ∨ ('0' ≤ c ∧ c ≤ '9')

instance (c : Char) : Decidable (SmallAlphanumeric c) :=
  inferInstanceAs (Decidable (_ ∨ _))

/-- The small letters are a range of characters. -/
theorem isLower_eq_true_iff {c : Char} : c.isLower = true ↔ 'a' ≤ c ∧ c ≤ 'z' := by
  have hlower : c.isLower = (decide ('a' ≤ c) && decide (c ≤ 'z')) := rfl
  rw [hlower, Bool.and_eq_true, decide_eq_true_iff, decide_eq_true_iff]

/-- The decimal digits are a range of characters. -/
theorem isDigit_eq_true_iff {c : Char} : c.isDigit = true ↔ '0' ≤ c ∧ c ≤ '9' := by
  have hdigit : c.isDigit = (decide ('0' ≤ c) && decide (c ≤ '9')) := rfl
  rw [hdigit, Bool.and_eq_true, decide_eq_true_iff, decide_eq_true_iff]

/-- Capital letters are 32 below their small ones, and nothing else is lowered. -/
theorem toNat_toLower (c : Char) :
    c.toLower.toNat = if 65 ≤ c.toNat ∧ c.toNat ≤ 90 then c.toNat + 32 else c.toNat := by
  unfold Char.toLower
  simp only [ge_iff_le, UInt32.le_iff_toNat_le, Char.toNat]
  split
  · next h =>
    have hcapital : 65 ≤ c.val.toNat ∧ c.val.toNat ≤ 90 := h
    rw [if_pos hcapital]
    change (c.val + 32).toNat = _
    rw [UInt32.toNat_add]
    simp only [UInt32.reduceToNat]
    omega
  · next h =>
    have hother : ¬(65 ≤ c.val.toNat ∧ c.val.toNat ≤ 90) := h
    rw [if_neg hother]

/-- Small letters and digits are letters and digits. -/
theorem SmallAlphanumeric.isAlphanum {c : Char} (h : SmallAlphanumeric c) :
    c.isAlphanum = true := by
  have halphanum : c.isAlphanum = (c.isUpper || c.isLower || c.isDigit) := rfl
  rw [halphanum]
  rcases h with hletter | hdigit
  · simp [isLower_eq_true_iff.2 hletter]
  · simp [isDigit_eq_true_iff.2 hdigit]

/-- The numbers of small letters and digits lie in two ranges. -/
theorem SmallAlphanumeric.toNat_bounds {c : Char} (h : SmallAlphanumeric c) :
    (97 ≤ c.toNat ∧ c.toNat ≤ 122) ∨ (48 ≤ c.toNat ∧ c.toNat ≤ 57) := by
  simp only [SmallAlphanumeric, Char.le_def, UInt32.le_iff_toNat_le] at h
  exact h

/-! ### The characters of one kind at the beginning of a text -/

/-- The characters of a kind at the start and what is left of them make up the text. -/
theorem append_drop_takeWhile (kind : Char → Bool) (cs : List Char) :
    cs.takeWhile kind ++ cs.drop (cs.takeWhile kind).length = cs :=
  List.prefix_iff_eq_append.1 (List.takeWhile_prefix kind)

/-- What is behind the characters of a kind does not begin with another one. -/
theorem first_behind_takeWhile {kind : Char → Bool} {cs rest : List Char} {c : Char}
    (h : cs.drop (cs.takeWhile kind).length = c :: rest) : kind c = false := by
  induction cs with
  | nil => cases h
  | cons a cs ih =>
    cases ha : kind a with
    | true =>
      rw [List.takeWhile_cons_of_pos ha] at h
      exact ih h
    | false =>
      rw [List.takeWhile_cons_of_neg (by simp [ha])] at h
      cases h
      exact ha

end BucketLifecycle
