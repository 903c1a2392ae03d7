import BucketLifecycle.Failure
import BucketLifecycle.Timestamp.Reader
import BucketLifecycle.Timestamp.Writer

/-!
# Timestamps read back from their text

Every proper timestamp is read back from the text that it is written as: years of any sign and
length, whole seconds and fractions of each length, and leap seconds.  A leap second that is not
proper shares its text with the plain second behind it, and that one is read back.  So what is read
back of any timestamp is what it is `settled` to (`Timestamp.read_write`), and nothing is ever read
that is not proper (`Timestamp.isProper_of_read`).

Each part of the text has its own lemma, which says what is taken off the front of a text that
begins with that part.  All of them rest on one fact about runs of digits, `takeDigits_append`.
-/

set_option autoImplicit false

namespace BucketLifecycle

open Text (writeNat padZeros digitsValue trimStart trimStart_cons_of_not_isBlank)

/-! ### Digits with zeros in front -/

/-- Zeros in front do not change the value of digits. -/
theorem digitsValue_padZeros (width : Nat) (ds : List Char) :
    digitsValue (padZeros width ds) = digitsValue ds := by
  unfold padZeros digitsValue
  induction width - ds.length with
  | zero => rfl
  | succ zeros ih =>
    rw [List.replicate_succ, List.cons_append, Nat.ofDigitChars_cons]
    exact ih

/-- A padded numeral consists of digits. -/
theorem isDigit_of_mem_padZeros {width n : Nat} :
    ∀ c ∈ padZeros width (writeNat n), c.isDigit = true := by
  intro c hc
  rcases List.mem_append.1 hc with hc | hc
  · rw [List.eq_of_mem_replicate hc]
    rfl
  · exact Text.isDigit_of_mem_writeNat hc

/-- A padded numeral is not empty. -/
theorem padZeros_ne_nil (width n : Nat) : padZeros width (writeNat n) ≠ [] :=
  List.append_ne_nil_of_right_ne_nil _ (Text.writeNat_ne_nil n)

/-- A number that fits fills exactly the width that it is padded to. -/
theorem length_padZeros {width n : Nat} (hwidth : 0 < width) (h : n < Nat.pow 10 width) :
    (padZeros width (writeNat n)).length = width := by
  have hlength : (writeNat n).length ≤ width :=
    (Nat.length_toDigits_le_iff (by decide) hwidth).2 h
  simp only [padZeros, List.length_append, List.length_replicate]
  omega

/-! ### Numbers at the front of a text -/

/-- A text that goes on with no digit. -/
def NoDigit (cs : List Char) : Prop :=
  ∀ c, cs.head? = some c → c.isDigit = false

/-- Digits are not blank. -/
theorem not_isBlank_of_isDigit {c : Char} (h : c.isDigit = true) : Text.isBlank c = false := by
  obtain ⟨hlo, hhi⟩ := Char.isDigit_iff_toNat.1 h
  have h0 : '0'.toNat = 48 := rfl
  have h9 : '9'.toNat = 57 := rfl
  simp only [Text.isBlank, List.any_eq_false, Bool.and_eq_true, decide_eq_true_eq]
  intro run hrun hwithin
  -- Every run ends before the digits or begins behind them.
  have hruns : ∀ run ∈ Text.blankRuns, run.2 < 48 ∨ 57 < run.1 := by decide
  have := hruns run hrun
  omega

/-- There is nothing to trim before digits. -/
theorem trimStart_digits {ds rest : List Char} (hds : ∀ c ∈ ds, c.isDigit = true)
    (hne : ds ≠ []) : trimStart (ds ++ rest) = ds ++ rest := by
  obtain ⟨d, ds, rfl⟩ := List.exists_cons_of_ne_nil hne
  exact trimStart_cons_of_not_isBlank (not_isBlank_of_isDigit (hds d (List.mem_cons_self ..)))

/-- A run of digits is taken whole where no width cuts it and where it ends or a width ends it. -/
theorem takeDigits_append {width : Option Nat} {ds rest : List Char}
    (hds : ∀ c ∈ ds, c.isDigit = true) (hwidth : ∀ w, width = some w → ds.length ≤ w)
    (hend : width = some ds.length ∨ NoDigit rest) : takeDigits width (ds ++ rest) = ds := by
  have htake : ∀ k, k = 0 ∨ NoDigit rest → (ds ++ rest.take k).takeWhile Char.isDigit = ds := by
    intro k hk
    rw [List.takeWhile_append_of_pos hds]
    cases rest with
    | nil => simp
    | cons c rest =>
      cases k with
      | zero => simp
      | succ k =>
        have hc := (hk.resolve_left (Nat.succ_ne_zero k)) c rfl
        simp [hc]
  cases width with
  | none =>
    have hrest := hend.resolve_left nofun
    have h := htake rest.length (.inr hrest)
    rwa [List.take_length] at h
  | some w =>
    unfold takeDigits
    dsimp only
    rw [List.take_append, List.take_of_length_le (hwidth w rfl)]
    refine htake _ (hend.imp_left fun h => ?_)
    cases h
    exact Nat.sub_self _

/-- Digits are taken up to the width or up to what is no digit. -/
theorem takeNumber_append {width : Option Nat} {ds rest : List Char}
    (hds : ∀ c ∈ ds, c.isDigit = true) (hne : ds ≠ [])
    (hwidth : ∀ w, width = some w → ds.length ≤ w) (hend : width = some ds.length ∨ NoDigit rest) :
    takeNumber width (ds ++ rest) = .ok (digitsValue ds, rest) := by
  have htake := takeDigits_append hds hwidth hend
  have hempty : ds.isEmpty = false := List.isEmpty_eq_false_iff.2 hne
  simp [takeNumber, htake, hempty]

/-! ### The parts of a timestamp -/

/-- A number of a fixed width, with zeros in front where it is shorter. -/
theorem takeNumber_padZeros {width n : Nat} (hwidth : 0 < width) (h : n < Nat.pow 10 width)
    (rest : List Char) :
    takeNumber (some width) (padZeros width (writeNat n) ++ rest) = .ok (n, rest) := by
  have hlength := length_padZeros hwidth h
  have hfits : ∀ w, some width = some w → (padZeros width (writeNat n)).length ≤ w := by
    rintro w ⟨⟩
    exact Nat.le_of_eq hlength
  rw [takeNumber_append isDigit_of_mem_padZeros (padZeros_ne_nil width n) hfits
    (.inl (by rw [hlength])), digitsValue_padZeros, Text.digitsValue_writeNat]

/-- Two written digits are read back. -/
theorem takeTwo_writeTwo {lo hi n : Nat} (hn : n < 100) (hlo : lo ≤ n) (hhi : n ≤ hi)
    (rest : List Char) : takeTwo lo hi (writeTwo n ++ rest) = .ok (n, rest) := by
  have hnumber : takeNumber (some 2) (padZeros 2 (writeNat n) ++ rest) = .ok (n, rest) :=
    takeNumber_padZeros (by decide) hn rest
  unfold takeTwo writeTwo
  rw [trimStart_digits isDigit_of_mem_padZeros (padZeros_ne_nil 2 n), hnumber]
  simp [bind, Except.bind, hlo, hhi]

/-- A year of four digits stands without a sign. -/
theorem takeYear_of_short {n : Nat} (h : n < 10000) (rest : List Char) :
    takeYear (padZeros 4 (writeNat n) ++ rest) = .ok ((n : Int), rest) := by
  have hdigits : ∀ c ∈ padZeros 4 (writeNat n), c.isDigit = true := isDigit_of_mem_padZeros
  have hnumber : takeNumber (some 4) (padZeros 4 (writeNat n) ++ rest) = .ok (n, rest) :=
    takeNumber_padZeros (by decide) h rest
  have hlo : -2147483648 ≤ (n : Int) := by omega
  have hhi : (n : Int) ≤ 2147483647 := by omega
  unfold takeYear
  rw [trimStart_digits hdigits (padZeros_ne_nil 4 n)]
  -- A digit is no sign, so the number is read as it stands.
  obtain ⟨d, ds, hcons⟩ := List.exists_cons_of_ne_nil (padZeros_ne_nil 4 n)
  have hd : d.isDigit = true := hdigits d (by rw [hcons]; exact List.mem_cons_self ..)
  rw [hcons] at hnumber ⊢
  split
  · next heq =>
    cases heq
    exact absurd hd (by decide)
  · next heq =>
    cases heq
    exact absurd hd (by decide)
  · rw [hnumber]
    simp [bind, Except.bind, Except.map, hlo, hhi]

/-- A written year is read back. -/
theorem takeYear_writeYear {year : Int} (hlo : -2147483648 ≤ year) (hhi : year ≤ 2147483647)
    {rest : List Char} (hrest : NoDigit rest) :
    takeYear (writeYear year ++ rest) = .ok (year, rest) := by
  by_cases hshort : 0 ≤ year ∧ year ≤ 9999
  · obtain ⟨n, rfl⟩ := Int.eq_ofNat_of_zero_le hshort.1
    have hyear : writeYear n = padZeros 4 (writeNat n) := if_pos hshort
    rw [hyear]
    exact takeYear_of_short (by omega) rest
  · have hfits : ∀ w, none = some w → (padZeros 4 (writeNat year.natAbs)).length ≤ w := nofun
    have hnumber : takeNumber none (padZeros 4 (writeNat year.natAbs) ++ rest) =
        .ok (year.natAbs, rest) := by
      rw [takeNumber_append isDigit_of_mem_padZeros (padZeros_ne_nil 4 _) hfits (.inr hrest),
        digitsValue_padZeros, Text.digitsValue_writeNat]
    have hyear : writeYear year =
        (if year < 0 then '-' else '+') :: padZeros 4 (writeNat year.natAbs) := if_neg hshort
    unfold takeYear
    rw [hyear, List.cons_append]
    by_cases hneg : year < 0
    · have hnatAbs : -((year.natAbs : Nat) : Int) = year := by omega
      rw [if_pos hneg, trimStart_cons_of_not_isBlank (by decide)]
      simp only [hnumber, bind, Except.bind, Except.map]
      rw [hnatAbs, if_pos ⟨hlo, hhi⟩]
    · have hnatAbs : ((year.natAbs : Nat) : Int) = year := by omega
      rw [if_neg hneg, trimStart_cons_of_not_isBlank (by decide)]
      simp only [hnumber, bind, Except.bind, Except.map]
      rw [hnatAbs, if_pos ⟨hlo, hhi⟩]

/-- A character that is not blank is found where trimming ends. -/
theorem takeChar_trimStart {c : Char} (h : Text.isBlank c = false) (rest : List Char) :
    takeChar c (trimStart (c :: rest)) = .ok rest := by
  rw [trimStart_cons_of_not_isBlank h]
  simp [takeChar]

/-- A fraction of some digits stands for so many units of their last place. -/
theorem takeFraction_padZeros {width n : Nat} (hwidth : 0 < width) (hnine : width ≤ 9)
    (h : n < Nat.pow 10 width) {rest : List Char} (hrest : NoDigit rest) :
    takeFraction ('.' :: padZeros width (writeNat n) ++ rest) =
      .ok (n * Nat.pow 10 (9 - width), rest) := by
  have hlength := length_padZeros hwidth h
  have hdigits : ∀ c ∈ padZeros width (writeNat n), c.isDigit = true := isDigit_of_mem_padZeros
  have hfits : ∀ w, some 9 = some w → (padZeros width (writeNat n)).length ≤ w := by
    rintro w ⟨⟩
    rw [hlength]
    exact hnine
  have htake := takeDigits_append hdigits hfits (.inr hrest)
  have hnumber := takeNumber_append hdigits (padZeros_ne_nil width n) hfits (.inr hrest)
  rw [digitsValue_padZeros, Text.digitsValue_writeNat] at hnumber
  have hdrop : rest.dropWhile Char.isDigit = rest := by
    cases rest with
    | nil => rfl
    | cons c rest => simp [hrest c rfl]
  rw [List.cons_append]
  simp [takeFraction, htake, hnumber, hlength, hdrop, bind, Except.bind]

/-- A written fraction of a second is read back. -/
theorem takeFraction_writeFraction {nano : Nat} (h : nano < 1000000000) {rest : List Char}
    (hrest : NoDigit rest) (hpoint : rest.head? ≠ some '.') :
    takeFraction (writeFraction nano ++ rest) = .ok (nano, rest) := by
  unfold writeFraction
  split
  · next hzero =>
    rw [hzero, List.nil_append]
    unfold takeFraction
    split
    · exact absurd rfl hpoint
    · rfl
  split
  · next hmillis =>
    rw [takeFraction_padZeros (by decide) (by decide) (by show nano / 1000000 < 1000; omega) hrest]
    have hback : nano / 1000000 * Nat.pow 10 (9 - 3) = nano := by
      show nano / 1000000 * 1000000 = nano
      omega
    rw [hback]
  split
  · next hmicros =>
    rw [takeFraction_padZeros (by decide) (by decide) (by show nano / 1000 < 1000000; omega) hrest]
    have hback : nano / 1000 * Nat.pow 10 (9 - 6) = nano := by
      show nano / 1000 * 1000 = nano
      omega
    rw [hback]
  · rw [takeFraction_padZeros (by decide) (by decide) h hrest]
    have hback : nano * Nat.pow 10 (9 - 9) = nano := Nat.mul_one nano
    rw [hback]

/-- The parts of a date are those of a date. -/
theorem Date.mk?_eq (d : Date) : Date.mk? d.year d.month d.day = some d :=
  dif_pos d.valid

/-- A time without an offset stands for itself. -/
theorem Timestamp.ofLocal?_eq (t : Timestamp) : ofLocal? t.date t.second t.nano 0 = some t := by
  obtain ⟨hday, -⟩ := t.valid
  have hlow : ¬ (t.second : Int) < 0 := by omega
  have hhigh : ¬ 86400 ≤ (t.second : Int) := by omega
  have hsecond : ((t.second : Int) % 86400).toNat = t.second := by omega
  simp [ofLocal?, hlow, hhigh, hsecond, t.valid]

namespace Timestamp

variable {t : Timestamp}

/-- The timestamp with its leap second, where it is not proper, counted as the plain second behind
it.  That one is in the same minute, so neither the minute nor the date changes. -/
def settled (t : Timestamp) : Timestamp :=
  if h : 1000000000 ≤ t.nano ∧ t.second % 60 ≠ 59 then
    ⟨t.date, t.second + 1, t.nano - 1000000000, by
      obtain ⟨hsecond, hnano⟩ := t.valid
      constructor <;> omega⟩
  else t

/-- A proper instant is settled as it is. -/
theorem settled_of_isProper (h : t.IsProper) : t.settled = t :=
  dif_neg (by unfold IsProper at h; omega)

/-- Settling makes an instant proper. -/
theorem isProper_settled (t : Timestamp) : t.settled.IsProper := by
  obtain ⟨-, hnano⟩ := t.valid
  unfold settled
  split
  · left
    dsimp only
    omega
  · unfold IsProper
    omega

/-- Proper instants are the ones that settling leaves alone. -/
theorem settled_eq_self_iff : t.settled = t ↔ t.IsProper := by
  refine ⟨fun h => ?_, settled_of_isProper⟩
  rw [← h]
  exact t.isProper_settled

/-- A timestamp has the same text as what it is settled to. -/
theorem write_settled (t : Timestamp) : t.settled.write = t.write := by
  obtain ⟨-, hnano⟩ := t.valid
  unfold settled
  split
  · have hhour : (t.second + 1) / 3600 = t.second / 3600 := by omega
    have hminute : (t.second + 1) / 60 = t.second / 60 := by omega
    have hsecond : (t.second + 1) % 60 + (t.nano - 1000000000) / 1000000000 =
        t.second % 60 + t.nano / 1000000000 := by omega
    have hfraction : (t.nano - 1000000000) % 1000000000 = t.nano % 1000000000 := by omega
    unfold write
    dsimp only
    rw [hhour, hminute, hsecond, hfraction]
  · rfl

/-- Each proper timestamp is read back from its text. -/
theorem read_write_of_isProper (hproper : t.IsProper) : Timestamp.read t.write = .ok t := by
  unfold IsProper at hproper
  obtain ⟨hyearLo, hyearHi, hmonthLo, hmonthHi, hdayLo, hdayHi⟩ := t.date.valid
  obtain ⟨hsecond, hnano⟩ := t.valid
  have hdays : daysInMonth t.date.year t.date.month ≤ 31 := by
    unfold daysInMonth
    repeat' split
    all_goals decide
  -- The parts of the time of day come together again, also where the second is the sixtieth.
  have hofDay : t.second / 3600 * 3600 + t.second / 60 % 60 * 60 +
      min (t.second % 60 + t.nano / 1000000000) 59 = t.second := by omega
  have hnanos : t.nano % 1000000000 +
      (if t.second % 60 + t.nano / 1000000000 = 60 then 1000000000 else 0) = t.nano := by
    split <;> omega
  have hyear {rest : List Char} (hrest : NoDigit rest) :
      takeYear (writeYear t.date.year ++ rest) = .ok (t.date.year, rest) :=
    takeYear_writeYear (by omega) (by omega) hrest
  have hmonth : ∀ rest, takeTwo 1 12 (writeTwo t.date.month ++ rest) = .ok (t.date.month, rest) :=
    takeTwo_writeTwo (by omega) hmonthLo hmonthHi
  have hday : ∀ rest, takeTwo 1 31 (writeTwo t.date.day ++ rest) = .ok (t.date.day, rest) :=
    takeTwo_writeTwo (by omega) hdayLo (by omega)
  have hhour : ∀ rest, takeTwo 0 23 (writeTwo (t.second / 3600) ++ rest) =
      .ok (t.second / 3600, rest) :=
    takeTwo_writeTwo (by omega) (Nat.zero_le _) (by omega)
  have hminute : ∀ rest, takeTwo 0 59 (writeTwo (t.second / 60 % 60) ++ rest) =
      .ok (t.second / 60 % 60, rest) :=
    takeTwo_writeTwo (by omega) (Nat.zero_le _) (by omega)
  have hsixtieth : ∀ rest, takeTwo 0 60
      (writeTwo (t.second % 60 + t.nano / 1000000000) ++ rest) =
        .ok (t.second % 60 + t.nano / 1000000000, rest) :=
    takeTwo_writeTwo (by omega) (Nat.zero_le _) (by omega)
  have hfraction : takeFraction (writeFraction (t.nano % 1000000000) ++ ['Z']) =
      .ok (t.nano % 1000000000, ['Z']) :=
    takeFraction_writeFraction (Nat.mod_lt _ (by decide)) (by rintro c ⟨⟩; rfl) (by decide)
  have hseparator : ∀ rest, takeSeparator ('T' :: rest) = .ok rest := fun _ => rfl
  have hzone : takeZone (trimStart ['Z']) = .ok (0, []) := rfl
  have hend : (trimStart []).isEmpty = true := rfl
  unfold Timestamp.read Timestamp.write Date.write
  simp only [List.append_assoc, List.cons_append, bind, Except.bind]
  rw [hyear (by rintro c ⟨⟩; rfl)]
  simp only [takeChar_trimStart (c := '-') (by decide), takeChar_trimStart (c := ':') (by decide),
    hmonth, hday, hhour, hminute, hsixtieth, hseparator, hfraction, hzone, hend, Date.mk?_eq,
    hofDay, hnanos, Timestamp.ofLocal?_eq, pure, Except.pure]
  simp

/-- What is read back from the text of a timestamp is what it is settled to. -/
theorem read_write (t : Timestamp) : Timestamp.read t.write = .ok t.settled := by
  rw [← t.write_settled]
  exact read_write_of_isProper t.isProper_settled

end Timestamp

/-! ### What is read -/

/-- Digits that are read behind a number make less of it than one more and as many zeros. -/
theorem ofDigitChars_lt {ds : List Char} (h : ∀ d ∈ ds, d.isDigit = true) (value : Nat) :
    Nat.ofDigitChars 10 ds value < (value + 1) * Nat.pow 10 ds.length := by
  induction ds generalizing value with
  | nil =>
    rw [List.length_nil, Nat.ofDigitChars_nil]
    show value < (value + 1) * 1
    omega
  | cons d ds ih =>
    obtain ⟨hd, hds⟩ := List.forall_mem_cons.1 h
    obtain ⟨-, hhi⟩ := Char.isDigit_iff_toNat.1 hd
    have h0 : '0'.toNat = 48 := rfl
    have h9 : '9'.toNat = 57 := rfl
    have hpower : Nat.pow 10 (d :: ds).length = 10 * Nat.pow 10 ds.length := Nat.mul_comm _ 10
    rw [Nat.ofDigitChars_cons, hpower, ← Nat.mul_assoc]
    refine Nat.lt_of_lt_of_le (ih hds _) (Nat.mul_le_mul_right _ ?_)
    omega

/-- Digits spell a number that their count bounds. -/
theorem digitsValue_lt {ds : List Char} (h : ∀ d ∈ ds, d.isDigit = true) :
    digitsValue ds < Nat.pow 10 ds.length := by
  have hlt := ofDigitChars_lt h 0
  rwa [Nat.zero_add, Nat.one_mul] at hlt

/-- A fraction that is read is less than a second. -/
theorem lt_of_takeFraction {n : Nat} {cs rest : List Char} (h : takeFraction cs = .ok (n, rest)) :
    n < 1000000000 := by
  unfold takeFraction at h
  split at h
  · next behind =>
    obtain ⟨⟨m, after⟩, hnumber, h⟩ := exists_of_bind_eq_ok h
    cases h
    unfold takeNumber at hnumber
    dsimp only at hnumber
    split at hnumber
    · cases hnumber
    cases hnumber
    have hdigits : ∀ d ∈ takeDigits (some 9) behind, d.isDigit = true :=
      List.all_eq_true.1 List.all_takeWhile
    have hlength : (takeDigits (some 9) behind).length ≤ 9 :=
      Nat.le_trans (List.takeWhile_sublist _).length_le (List.length_take_le 9 behind)
    -- The digits and the zeros behind them are nine together.
    calc digitsValue (takeDigits (some 9) behind) * 10 ^ (9 - (takeDigits (some 9) behind).length)
        < 10 ^ (takeDigits (some 9) behind).length *
            10 ^ (9 - (takeDigits (some 9) behind).length) :=
          Nat.mul_lt_mul_of_pos_right (digitsValue_lt hdigits) (Nat.pow_pos (by decide))
      _ = 10 ^ 9 := by rw [← Nat.pow_add, Nat.add_sub_cancel' hlength]
  · cases h
    decide

/-- Offsets are whole minutes. -/
theorem dvd_of_takeOffset {offset : Int} {cs rest : List Char}
    (h : takeOffset cs = .ok (offset, rest)) : 60 ∣ offset := by
  unfold takeOffset at h
  obtain ⟨⟨negative, cs⟩, -, h⟩ := exists_of_bind_eq_ok h
  obtain ⟨⟨h1, h2, cs⟩, -, h⟩ := exists_of_bind_eq_ok h
  dsimp only at h
  split at h
  · cases h
  obtain ⟨⟨m1, m2, cs⟩, -, h⟩ := exists_of_bind_eq_ok h
  dsimp only at h
  split at h
  · cases h
  split at h
  · cases h
  have hseconds : (60 : Int) ∣ digitsValue [h1, h2] * 3600 + digitsValue [m1, m2] * 60 := by omega
  cases h
  split
  · exact Int.dvd_neg.2 hseconds
  · exact hseconds

/-- Zones are whole minutes away. -/
theorem dvd_of_takeZone {offset : Int} {cs rest : List Char}
    (h : takeZone cs = .ok (offset, rest)) : 60 ∣ offset := by
  unfold takeZone at h
  split at h
  · split at h
    · cases h
      exact Int.dvd_zero 60
    split at h
    · cases h
      exact Int.dvd_zero 60
    exact dvd_of_takeOffset h
  · split at h
    · cases h
      exact Int.dvd_zero 60
    exact dvd_of_takeOffset h
  · cases h

/-- A shift by whole minutes leaves a leap second at the end of a minute. -/
theorem isProper_of_ofLocal? {date : Date} {second nano : Nat} {offset : Int} {t : Timestamp}
    (h : Timestamp.ofLocal? date second nano offset = some t) (hoffset : 60 ∣ offset)
    (hproper : nano < 1000000000 ∨ second % 60 = 59) : t.IsProper := by
  obtain ⟨day, -, h⟩ := Option.bind_eq_some_iff.1 h
  split at h
  · cases h
    unfold Timestamp.IsProper
    dsimp only
    omega
  · cases h

/-- Whatever is read is proper: a sixtieth second is read as one behind the fifty-ninth. -/
theorem Timestamp.isProper_of_read {cs : List Char} {t : Timestamp}
    (h : Timestamp.read cs = .ok t) : t.IsProper := by
  unfold Timestamp.read at h
  obtain ⟨⟨year, cs⟩, -, h⟩ := exists_of_bind_eq_ok h
  obtain ⟨cs, -, h⟩ := exists_of_bind_eq_ok h
  obtain ⟨⟨month, cs⟩, -, h⟩ := exists_of_bind_eq_ok h
  obtain ⟨cs, -, h⟩ := exists_of_bind_eq_ok h
  obtain ⟨⟨day, cs⟩, -, h⟩ := exists_of_bind_eq_ok h
  obtain ⟨cs, -, h⟩ := exists_of_bind_eq_ok h
  obtain ⟨⟨hour, cs⟩, -, h⟩ := exists_of_bind_eq_ok h
  obtain ⟨cs, -, h⟩ := exists_of_bind_eq_ok h
  obtain ⟨⟨minute, cs⟩, -, h⟩ := exists_of_bind_eq_ok h
  obtain ⟨cs, -, h⟩ := exists_of_bind_eq_ok h
  obtain ⟨⟨second, cs⟩, -, h⟩ := exists_of_bind_eq_ok h
  obtain ⟨⟨fraction, cs⟩, hfraction, h⟩ := exists_of_bind_eq_ok h
  obtain ⟨⟨offset, cs⟩, hzone, h⟩ := exists_of_bind_eq_ok h
  have hnano := lt_of_takeFraction hfraction
  dsimp only at h
  split at h
  · cases h
  split at h
  · split at h
    · cases h
    split at h
    · next hlocal =>
      cases h
      refine isProper_of_ofLocal? hlocal (dvd_of_takeZone hzone) ?_
      split <;> omega
    · cases h
  · cases h

end BucketLifecycle
