import BucketLifecycle.Failure

/-!
# What a numeral says

The text of a whole number is one or more digits, with or without a sign in front (`SpellsInt`), and
says the same number however many zeros it begins with.  Reading a number of a bounded type gives
the number that the text spells (`spellsInt_of_readBounded`), and reads every spelling of a number
in the bounds (`readBounded_of_spellsInt`).
-/

set_option autoImplicit false

namespace BucketLifecycle.Text

/-- The text is that of a whole number. -/
inductive SpellsInt : List Char → Int → Prop
  | digits {ds : List Char} (h : isNumeral ds = true) : SpellsInt ds (digitsValue ds)
  | plus {ds : List Char} (h : isNumeral ds = true) : SpellsInt ('+' :: ds) (digitsValue ds)
  | minus {ds : List Char} (h : isNumeral ds = true) : SpellsInt ('-' :: ds) (-digitsValue ds)

/-- Digits are read on to the number that they spell, which stays within the bound. -/
theorem readDigits_eq_ok {bound value n : Nat} {past : NumeralError} {cs : List Char}
    (h : readDigits bound past value cs = .ok n) :
    (∀ c ∈ cs, c.isDigit = true) ∧ n = Nat.ofDigitChars 10 cs value ∧
      (value ≤ bound → n ≤ bound) := by
  induction cs generalizing value with
  | nil =>
    cases h
    exact ⟨nofun, rfl, id⟩
  | cons c cs ih =>
    unfold readDigits at h
    split at h
    · next hdigit =>
      dsimp only at h
      split at h
      · next hnext =>
        obtain ⟨hall, hvalue, hbound⟩ := ih h
        rw [Nat.ofDigitChars_cons]
        exact ⟨List.forall_mem_cons.2 ⟨hdigit, hall⟩, hvalue, fun _ => hbound hnext⟩
      · cases h
    · cases h

/-- Only numerals within the bound are read, each as the number that it spells. -/
theorem readNumeral_eq_ok {bound n : Nat} {past : NumeralError} {cs : List Char}
    (h : readNumeral bound past cs = .ok n) :
    isNumeral cs = true ∧ n = digitsValue cs ∧ n ≤ bound := by
  unfold readNumeral at h
  split at h
  · cases h
  · next hne =>
    obtain ⟨hall, hvalue, hbound⟩ := readDigits_eq_ok h
    refine ⟨?_, hvalue, hbound (Nat.zero_le _)⟩
    simpa [isNumeral] using ⟨by simpa using hne, hall⟩

/-- A number that is read is spelled by its text, and lies in the bounds. -/
theorem spellsInt_of_readBounded {lo hi n : Int} {cs : List Char} (hlo : lo ≤ 0) (hhi : 0 ≤ hi)
    (h : readBounded lo hi cs = .ok n) : SpellsInt cs n ∧ lo ≤ n ∧ n ≤ hi := by
  have hread {ds : List Char} (h : (readNumeral hi.toNat .tooLarge ds).map Int.ofNat = .ok n) :
      isNumeral ds = true ∧ n = digitsValue ds ∧ lo ≤ n ∧ n ≤ hi := by
    obtain ⟨m, hds, rfl⟩ := exists_of_map_eq_ok h
    obtain ⟨hnumeral, hvalue, hbound⟩ := readNumeral_eq_ok hds
    refine ⟨hnumeral, congrArg Int.ofNat hvalue, ?_⟩
    simp only [Int.ofNat_eq_natCast]
    omega
  unfold readBounded at h
  split at h
  · cases h
  · obtain ⟨hnumeral, rfl, hbounds⟩ := hread h
    exact ⟨.plus hnumeral, hbounds⟩
  · next ds =>
    split at h
    · obtain ⟨magnitude, hmagnitude, rfl⟩ := exists_of_map_eq_ok h
      obtain ⟨m, hds, hcast⟩ := exists_of_bind_eq_ok hmagnitude
      cases hcast
      obtain ⟨hnumeral, rfl, hbound⟩ := readNumeral_eq_ok hds
      exact ⟨.minus hnumeral, by omega⟩
    · cases h
  · obtain ⟨hnumeral, rfl, hbounds⟩ := hread h
    exact ⟨.digits hnumeral, hbounds⟩

/-- A spelled number that lies in the bounds is read, by a type that has negative numbers. -/
theorem readBounded_of_spellsInt {lo hi n : Int} {cs : List Char} (h : SpellsInt cs n)
    (hnegative : lo < 0) (hlo : lo ≤ n) (hhi : n ≤ hi) : readBounded lo hi cs = .ok n := by
  have hread {bound : Nat} {past : NumeralError} {ds : List Char} (hds : isNumeral ds = true)
      (hle : digitsValue ds ≤ bound) : readNumeral bound past ds = .ok (digitsValue ds) := by
    rw [readNumeral_of_isNumeral hds, if_pos hle]
  cases h with
  | digits hds =>
    rw [readBounded_of_isNumeral hds, hread hds (by omega)]
    rfl
  | @plus ds hds =>
    have hle : digitsValue ds ≤ hi.toNat := by omega
    simp only [readBounded, hread hds hle]
    rfl
  | @minus ds hds =>
    have hle : digitsValue ds ≤ (-lo).toNat := by omega
    simp only [readBounded, hnegative, if_true, hread hds hle]
    rfl

end BucketLifecycle.Text
