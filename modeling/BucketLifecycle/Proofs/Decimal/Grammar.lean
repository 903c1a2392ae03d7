import BucketLifecycle.Decimal.Reader
import BucketLifecycle.Proofs.Text.Characters
import BucketLifecycle.Proofs.Text.Numeral

/-!
# What a decimal text says

The text of a real number is a run of digits with at most one period among them, with or without an
exponent, or one of the words for infinity and for no number; a sign may stand in front of it.
`SpellsReal` says which number a text is for, and `readFloat_eq_some_iff` that the reader takes
these texts and no others.
-/

set_option autoImplicit false

namespace BucketLifecycle.Decimal

open Text

/-- Digits with at most one period, by all the digits and the number of those behind the period. -/
inductive SpellsMantissa : List Char → List Char → Nat → Prop
  | whole {ds : List Char} (h : isNumeral ds = true) : SpellsMantissa ds ds 0
  | pointed {before after : List Char} (h : isNumeral (before ++ after) = true) :
    SpellsMantissa (before ++ '.' :: after) (before ++ after) after.length

/-- A whole number behind the letter `e`, or nothing. -/
inductive SpellsExponent : List Char → Int → Prop
  | none : SpellsExponent [] 0
  | marked {c : Char} {cs : List Char} {e : Int} (hmark : c = 'e' ∨ c = 'E')
      (h : SpellsInt cs e) : SpellsExponent (c :: cs) e

/-- A text in small letters. -/
def inSmallLetters (cs : List Char) : String :=
  String.ofList (cs.map Char.toLower)

/-- The text of a real number without its sign. -/
inductive SpellsMagnitude (negative : Bool) : List Char → Float → Prop
  | infinite {cs : List Char} (h : inSmallLetters cs = "inf" ∨ inSmallLetters cs = "infinity") :
    SpellsMagnitude negative cs (if negative then -1 / 0 else 1 / 0)
  | undefined {cs : List Char} (h : inSmallLetters cs = "nan") :
    SpellsMagnitude negative cs (0 / 0)
  | decimal {mantissa exponent ds : List Char} {places : Nat} {e : Int}
      (hmantissa : SpellsMantissa mantissa ds places) (hexponent : SpellsExponent exponent e) :
    SpellsMagnitude negative (mantissa ++ exponent) (nearest negative (digitsValue ds) (e - places))

/-- The text of a real number, for the binary number that is nearest to it. -/
inductive SpellsReal : List Char → Float → Prop
  | unsigned {cs : List Char} {x : Float} (h : SpellsMagnitude false cs x) : SpellsReal cs x
  | plus {cs : List Char} {x : Float} (h : SpellsMagnitude false cs x) : SpellsReal ('+' :: cs) x
  | minus {cs : List Char} {x : Float} (h : SpellsMagnitude true cs x) : SpellsReal ('-' :: cs) x

/-- A numeral has digits only. -/
theorem isDigit_of_isNumeral {ds : List Char} (h : isNumeral ds = true) {c : Char} (hc : c ∈ ds) :
    c.isDigit = true := by
  rw [isNumeral, Bool.and_eq_true, List.all_eq_true] at h
  exact h.2 c hc

/-- What is no digit is not in a numeral. -/
theorem not_mem_of_isNumeral {ds : List Char} (h : isNumeral ds = true) {c : Char}
    (hc : c.isDigit = false) : c ∉ ds := by
  intro hmem
  rw [isDigit_of_isNumeral h hmem] at hc
  cases hc

/-- A numeral begins with a digit. -/
theorem exists_first_of_isNumeral {ds : List Char} (h : isNumeral ds = true) :
    ∃ c rest, ds = c :: rest ∧ c.isDigit = true := by
  cases ds with
  | nil => cases h
  | cons c rest => exact ⟨c, rest, rfl, isDigit_of_isNumeral h List.mem_cons_self⟩

/-! ### Mantissas and exponents -/

/-- A mantissa is read exactly where the grammar spells it. -/
theorem readMantissa_eq_some_iff {cs ds : List Char} {places : Nat} :
    readMantissa cs = some (ds, places) ↔ SpellsMantissa cs ds places := by
  constructor
  · intro h
    unfold readMantissa at h
    cases hcut : cutAt '.' cs with
    | none =>
      rw [hcut] at h
      dsimp only at h
      split at h
      · next hds =>
        cases h
        rw [List.append_nil] at hds ⊢
        exact .whole hds
      · cases h
    | some parts =>
      obtain ⟨before, after⟩ := parts
      obtain ⟨-, rfl⟩ := cutAt_eq_some_iff.1 hcut
      rw [hcut] at h
      dsimp only at h
      split at h
      · next hds =>
        cases h
        exact .pointed hds
      · cases h
  · intro h
    unfold readMantissa
    cases h with
    | whole hds =>
      rw [cutAt_of_not_mem (not_mem_of_isNumeral hds (by decide))]
      dsimp only
      rw [List.append_nil, if_pos hds]
      rfl
    | pointed hds =>
      have hbefore : '.' ∉ _ := fun hmem =>
        not_mem_of_isNumeral hds (by decide) (List.mem_append_left _ hmem)
      rw [cutAt_append_cons hbefore]
      exact if_pos hds

/-- An exponent is read exactly where the grammar spells it. -/
theorem readExponent_eq_some_iff {cs : List Char}
    (hcs : ∀ c rest, cs = c :: rest → c = 'e' ∨ c = 'E') {e : Int} :
    readExponent cs = some e ↔ SpellsExponent cs e := by
  constructor
  · intro h
    unfold readExponent at h
    split at h
    · cases h
      exact .none
    · split at h
      · next hds =>
        cases h
        exact .marked (hcs _ _ rfl) (.minus hds)
      · cases h
    · split at h
      · next hds =>
        cases h
        exact .marked (hcs _ _ rfl) (.plus hds)
      · cases h
    · split at h
      · next hds =>
        cases h
        exact .marked (hcs _ _ rfl) (.digits hds)
      · cases h
  · intro h
    cases h with
    | none => rfl
    | marked _ hint =>
      cases hint with
      | minus hds | plus hds =>
        unfold readExponent
        exact if_pos hds
      | digits hds =>
        -- A digit is no sign, so the text stands for itself.
        obtain ⟨c, rest, rfl, hc⟩ := exists_first_of_isNumeral hds
        unfold readExponent
        split
        · next heq => cases heq
        · next heq =>
          cases heq
          cases hc
        · next heq =>
          cases heq
          cases hc
        · next heq =>
          cases heq
          exact if_pos hds

/-- An exponent that is not left out begins with its letter. -/
theorem SpellsExponent.isMark {cs rest : List Char} {e : Int} {c : Char} (h : SpellsExponent cs e)
    (hcs : cs = c :: rest) : c = 'e' ∨ c = 'E' := by
  cases h with
  | none => cases hcs
  | marked hmark =>
    cases hcs
    exact hmark

/-- A mantissa begins with a digit or a point. -/
theorem SpellsMantissa.exists_first {cs ds : List Char} {places : Nat}
    (h : SpellsMantissa cs ds places) :
    ∃ c rest, cs = c :: rest ∧ (c.isDigit = true ∨ c = '.') := by
  cases h with
  | whole hds =>
    obtain ⟨c, rest, rfl, hc⟩ := exists_first_of_isNumeral hds
    exact ⟨c, rest, rfl, .inl hc⟩
  | @pointed before after hds =>
    cases before with
    | nil => exact ⟨'.', after, rfl, .inr rfl⟩
    | cons c before =>
      exact ⟨c, before ++ '.' :: after, rfl, .inl (isDigit_of_isNumeral hds List.mem_cons_self)⟩

/-- A mantissa has digits and a point only. -/
theorem SpellsMantissa.isDigit_or_eq {cs ds : List Char} {places : Nat}
    (h : SpellsMantissa cs ds places) : ∀ c ∈ cs, c.isDigit = true ∨ c = '.' := by
  intro c hc
  cases h with
  | whole hds => exact .inl (isDigit_of_isNumeral hds hc)
  | pointed hds =>
    rcases List.mem_append.1 hc with hbefore | hafter
    · exact .inl (isDigit_of_isNumeral hds (List.mem_append_left _ hbefore))
    · rcases List.mem_cons.1 hafter with rfl | hafter
      · exact .inr rfl
      · exact .inl (isDigit_of_isNumeral hds (List.mem_append_right _ hafter))

/-- A mantissa goes as far as the letter of the exponent, if there is one. -/
theorem takeWhile_of_spells {mantissa exponent ds : List Char} {places : Nat} {e : Int}
    (hmantissa : SpellsMantissa mantissa ds places) (hexponent : SpellsExponent exponent e) :
    ((mantissa ++ exponent).takeWhile fun c => c != 'e' && c != 'E') = mantissa := by
  rw [List.takeWhile_append_of_pos]
  · cases hexponent with
    | none => simp
    | marked hmark _ => rcases hmark with rfl | rfl <;> simp
  · intro c hc
    rcases hmantissa.isDigit_or_eq c hc with hdigit | rfl
    · have hnotMark : c ≠ 'e' ∧ c ≠ 'E' := by
        constructor <;> rintro rfl <;> cases hdigit
      simp [hnotMark]
    · rfl

/-! ### Magnitudes and signs -/

/-- Digits and points have no small form of their own. -/
theorem toLower_of_isDigit {c : Char} (h : c.isDigit = true ∨ c = '.') : c.toLower = c := by
  rcases h with h | rfl
  · rw [isDigit_eq_true_iff, Char.le_def, Char.le_def, UInt32.le_iff_toNat_le,
      UInt32.le_iff_toNat_le] at h
    have hsmall : c.toNat ≤ 57 := h.2
    rw [← Char.toNat_inj, toNat_toLower, if_neg (by omega)]
  · rfl

/-- A text begins as the word does that it is in small letters. -/
theorem exists_first_of_word {cs later : List Char} {word : String} {d : Char}
    (hword : word.toList = d :: later) (h : inSmallLetters cs = word) :
    ∃ c rest, cs = c :: rest ∧ c.toLower = d := by
  rw [← String.toList_inj, hword, inSmallLetters, String.toList_ofList] at h
  obtain ⟨c, rest, rfl, hc, -⟩ := List.map_eq_cons_iff.1 h
  exact ⟨c, rest, rfl, hc⟩

/-- A mantissa is no word. -/
theorem SpellsMantissa.ne_word {cs ds later exponent : List Char} {places : Nat} {word : String}
    {d : Char} (h : SpellsMantissa cs ds places) (hword : word.toList = d :: later)
    (hd : ¬(d.isDigit = true ∨ d = '.')) : inSmallLetters (cs ++ exponent) ≠ word := by
  intro heq
  obtain ⟨c, rest, rfl, hc⟩ := h.exists_first
  obtain ⟨c', rest', hsplit, hc'⟩ := exists_first_of_word hword heq
  cases hsplit
  rw [toLower_of_isDigit hc] at hc'
  exact hd (hc' ▸ hc)

/-- What is behind a mantissa begins with the letter of an exponent. -/
theorem isMark_behind_takeWhile {cs rest : List Char} {c : Char}
    (h : cs.drop (cs.takeWhile fun c => c != 'e' && c != 'E').length = c :: rest) :
    c = 'e' ∨ c = 'E' := by
  have hc := first_behind_takeWhile h
  rw [Bool.and_eq_false_iff] at hc
  exact hc.imp (fun h => by simpa using h) (fun h => by simpa using h)

/-- What is read as a number without sign is one of the grammar. -/
theorem spellsMagnitude_of_readMagnitude {negative : Bool} {cs : List Char} {x : Float}
    (h : readMagnitude negative cs = some x) : SpellsMagnitude negative cs x := by
  unfold readMagnitude at h
  dsimp only at h
  split at h
  · next hword =>
    cases h
    exact .infinite hword
  · split at h
    · next hword =>
      cases h
      exact .undefined hword
    · obtain ⟨⟨ds, places⟩, hmantissa, h⟩ := Option.bind_eq_some_iff.1 h
      obtain ⟨e, hexponent, h⟩ := Option.bind_eq_some_iff.1 h
      cases h
      have hdecimal : SpellsMagnitude negative _ _ := .decimal
        (readMantissa_eq_some_iff.1 hmantissa)
        ((readExponent_eq_some_iff fun _ _ => isMark_behind_takeWhile).1 hexponent)
      rwa [append_drop_takeWhile] at hdecimal

/-- Every number of the grammar without sign is read. -/
theorem readMagnitude_of_spellsMagnitude {negative : Bool} {cs : List Char} {x : Float}
    (h : SpellsMagnitude negative cs x) : readMagnitude negative cs = some x := by
  unfold readMagnitude
  cases h with
  | infinite h => exact if_pos h
  | undefined h =>
    unfold inSmallLetters at h
    dsimp only
    rw [h]
    rfl
  | @decimal mantissa exponent ds places e hmantissa hexponent =>
    have hne {word : String} {d : Char} {later : List Char} (hword : word.toList = d :: later)
        (hd : ¬(d.isDigit = true ∨ d = '.')) :
        String.ofList ((mantissa ++ exponent).map Char.toLower) ≠ word :=
      hmantissa.ne_word hword hd
    have hinfinite : ¬(String.ofList ((mantissa ++ exponent).map Char.toLower) = "inf" ∨
        String.ofList ((mantissa ++ exponent).map Char.toLower) = "infinity") :=
      not_or.2 ⟨hne rfl (by decide), hne rfl (by decide)⟩
    dsimp only
    rw [if_neg hinfinite, if_neg (hne rfl (by decide)), takeWhile_of_spells hmantissa hexponent,
      List.drop_left, readMantissa_eq_some_iff.2 hmantissa,
      (readExponent_eq_some_iff fun _ _ => hexponent.isMark).2 hexponent]
    rfl

/-- A number begins with a digit, with a period, or as one of the words does. -/
theorem SpellsMagnitude.exists_first {negative : Bool} {cs : List Char} {x : Float}
    (h : SpellsMagnitude negative cs x) : ∃ c rest, cs = c :: rest ∧
      (c.isDigit = true ∨ c = '.' ∨ c.toLower = 'i' ∨ c.toLower = 'n') := by
  cases h with
  | infinite h =>
    rcases h with h | h
    · obtain ⟨c, rest, rfl, hc⟩ := exists_first_of_word rfl h
      exact ⟨c, rest, rfl, .inr (.inr (.inl hc))⟩
    · obtain ⟨c, rest, rfl, hc⟩ := exists_first_of_word rfl h
      exact ⟨c, rest, rfl, .inr (.inr (.inl hc))⟩
  | undefined h =>
    obtain ⟨c, rest, rfl, hc⟩ := exists_first_of_word rfl h
    exact ⟨c, rest, rfl, .inr (.inr (.inr hc))⟩
  | decimal hmantissa =>
    obtain ⟨c, rest, rfl, hc⟩ := hmantissa.exists_first
    exact ⟨c, _, List.cons_append, hc.imp_right .inl⟩

/-- A number in front of which no sign stands does not begin with one. -/
theorem SpellsMagnitude.ne_sign {negative : Bool} {cs rest : List Char} {x : Float} {c : Char}
    (h : SpellsMagnitude negative cs x) (hcs : cs = c :: rest) : c ≠ '+' ∧ c ≠ '-' := by
  obtain ⟨c', rest', hfirst, hc⟩ := h.exists_first
  rw [hfirst] at hcs
  cases hcs
  constructor <;> rintro rfl <;> exact absurd hc (by decide)

/-- The reader takes the texts of real numbers, each for the number that it says. -/
theorem readFloat_eq_some_iff {cs : List Char} {x : Float} :
    readFloat cs = some x ↔ SpellsReal cs x := by
  constructor
  · intro h
    unfold readFloat at h
    split at h
    · exact .minus (spellsMagnitude_of_readMagnitude h)
    · exact .plus (spellsMagnitude_of_readMagnitude h)
    · exact .unsigned (spellsMagnitude_of_readMagnitude h)
  · intro h
    cases h with
    | plus h => exact readMagnitude_of_spellsMagnitude h
    | minus h => exact readMagnitude_of_spellsMagnitude h
    | unsigned h =>
      unfold readFloat
      split
      · exact absurd rfl (h.ne_sign rfl).2
      · exact absurd rfl (h.ne_sign rfl).1
      · exact readMagnitude_of_spellsMagnitude h

/-- A whole number is a real number. -/
theorem exists_spellsReal_of_spellsInt {cs : List Char} {n : Int} (h : SpellsInt cs n) :
    ∃ x, SpellsReal cs x := by
  have hmagnitude {ds : List Char} (negative : Bool) (hds : isNumeral ds = true) :
      ∃ x, SpellsMagnitude negative ds x := by
    have hdecimal : SpellsMagnitude negative (ds ++ []) _ := .decimal (.whole hds) .none
    rw [List.append_nil] at hdecimal
    exact ⟨_, hdecimal⟩
  cases h with
  | digits hds =>
    obtain ⟨x, hx⟩ := hmagnitude false hds
    exact ⟨x, .unsigned hx⟩
  | plus hds =>
    obtain ⟨x, hx⟩ := hmagnitude false hds
    exact ⟨x, .plus hx⟩
  | minus hds =>
    obtain ⟨x, hx⟩ := hmagnitude true hds
    exact ⟨x, .minus hx⟩

/-- A word that begins in another way is no real number. -/
theorem SpellsReal.ne_word {cs later : List Char} {x : Float} {word : String} {d : Char}
    (h : SpellsReal cs x) (hword : word.toList = d :: later)
    (hd : ¬(d.isDigit = true ∨ d = '.') ∧ d ≠ 'i' ∧ d ≠ 'n' ∧ d ≠ '+' ∧ d ≠ '-') :
    inSmallLetters cs ≠ word := by
  intro heq
  obtain ⟨c, rest, rfl, hc⟩ := exists_first_of_word hword heq
  obtain ⟨hdigit, hi, hn, hplus, hminus⟩ := hd
  cases h with
  | plus => exact hplus hc.symm
  | minus => exact hminus hc.symm
  | unsigned h =>
    obtain ⟨c', rest', hcs, hfirst⟩ := h.exists_first
    cases hcs
    rw [← or_assoc] at hfirst
    rcases hfirst with hfirst | hfirst | hfirst
    · exact hdigit (hc ▸ (toLower_of_isDigit hfirst).symm ▸ hfirst)
    · exact hi (hc.symm.trans hfirst)
    · exact hn (hc.symm.trans hfirst)

end BucketLifecycle.Decimal
