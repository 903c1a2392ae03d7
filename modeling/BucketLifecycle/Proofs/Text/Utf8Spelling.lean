import BucketLifecycle.Proofs.Text.Utf8

/-!
# Bytes that spell a text

Only the bytes of a text are read as that text (`utf8Bytes_of_utf8Text?`), so a text has one
spelling, and bytes that are read without a mark are spelt again as they were.

The first byte of a character says what may follow it (`Begins`).  Each further byte adds six bits
to the number that is read, and the ranges of the first two keep that number among those of
characters of that length (`Begins.exists_char`).
-/

set_option autoImplicit false

namespace BucketLifecycle.Text

/-- A first byte of a longer character with what it says about the bytes to come: how many there
are, its own bits, and the range of the second. -/
inductive Begins (b : UInt8) : (missing value lo hi : Nat) → Prop
  | two {value : Nat} (hbyte : b.toNat = value + 0xC0) (hmin : 2 ≤ value) (hmax : value < 32) :
    Begins b 1 value 0x80 0xBF
  | three {value lo hi : Nat} (hbyte : b.toNat = value + 0xE0) (hmax : value < 16)
      (hlo : 0x80 ≤ lo) (hhi : hi ≤ 0xBF) (hshort : value = 0 → 0xA0 ≤ lo)
      (hhalf : value = 13 → hi ≤ 0x9F) : Begins b 2 value lo hi
  | four {value lo hi : Nat} (hbyte : b.toNat = value + 0xF0) (hlo : 0x80 ≤ lo) (hhi : hi ≤ 0xBF)
      (hshort : value = 0 → 0x90 ≤ lo) (hmax : value < 4 ∨ value = 4 ∧ hi ≤ 0x8F) :
    Begins b 3 value lo hi

/-- A first byte that is no error is a whole character or begins one. -/
theorem utf8First_cases {b : UInt8} (h : none ∉ (utf8First b).1) :
    (b.toNat < 0x80 ∧ utf8First b = ([some (Char.ofNat b.toNat)], .between)) ∨
      ∃ missing value lo hi, utf8First b = ([], .inside missing value lo hi) ∧
        Begins b missing value lo hi := by
  have hb : b.toNat < 256 := b.toNat_lt
  revert h
  unfold utf8First
  dsimp only
  split
  · next hone => exact fun _ => .inl ⟨hone, rfl⟩
  split
  · exact fun h => absurd (List.mem_singleton_self none) h
  split
  · exact fun _ => .inr ⟨_, _, _, _, rfl, .two (by omega) (by omega) (by omega)⟩
  split
  · exact fun _ => .inr ⟨_, _, _, _, rfl,
      .three (by omega) (by omega) (by omega) (by omega) (by omega) (by omega)⟩
  split
  · exact fun _ => .inr ⟨_, _, _, _, rfl,
      .three (by omega) (by omega) (by omega) (by omega) (by omega) (by omega)⟩
  split
  · exact fun _ => .inr ⟨_, _, _, _, rfl,
      .three (by omega) (by omega) (by omega) (by omega) (by omega) (by omega)⟩
  split
  · exact fun _ => .inr ⟨_, _, _, _, rfl,
      .four (by omega) (by omega) (by omega) (by omega) (by omega)⟩
  split
  · exact fun _ => .inr ⟨_, _, _, _, rfl,
      .four (by omega) (by omega) (by omega) (by omega) (by omega)⟩
  split
  · exact fun _ => .inr ⟨_, _, _, _, rfl,
      .four (by omega) (by omega) (by omega) (by omega) (by omega)⟩
  · exact fun h => absurd (List.mem_singleton_self none) h

/-- A byte inside a character completes it, goes on with it or breaks it off. -/
theorem utf8DecodeFrom_inside {missing value lo hi : Nat} {b : UInt8} (bs : Bytes) :
    utf8DecodeFrom (.inside missing value lo hi) (b :: bs) =
      if lo ≤ b.toNat ∧ b.toNat ≤ hi then
        if missing ≤ 1 then
          some (Char.ofNat (value * 64 + (b.toNat - 0x80))) :: utf8DecodeFrom .between bs
        else utf8DecodeFrom (.inside (missing - 1) (value * 64 + (b.toNat - 0x80)) 0x80 0xBF) bs
      else none :: ((utf8First b).1 ++ utf8DecodeFrom (utf8First b).2 bs) := by
  have hstep : utf8DecodeFrom (.inside missing value lo hi) (b :: bs) =
      (utf8Step (.inside missing value lo hi) b).1 ++
        utf8DecodeFrom (utf8Step (.inside missing value lo hi) b).2 bs := rfl
  rw [hstep]
  unfold utf8Step
  dsimp only
  split
  · split <;> rfl
  · rfl

/-- Where the decoder reads a text from inside a character, a byte in range comes next. -/
theorem exists_byte {missing value lo hi : Nat} {bs : Bytes} {cs : List Char}
    (h : utf8DecodeFrom (.inside missing value lo hi) bs = cs.map some) :
    ∃ b rest, bs = b :: rest ∧ lo ≤ b.toNat ∧ b.toNat ≤ hi ∧
      (if missing ≤ 1 then
        some (Char.ofNat (value * 64 + (b.toNat - 0x80))) :: utf8DecodeFrom .between rest
      else utf8DecodeFrom (.inside (missing - 1) (value * 64 + (b.toNat - 0x80)) 0x80 0xBF) rest) =
        cs.map some := by
  have hmark : none ∉ cs.map some := by simp
  rw [← h] at hmark
  cases bs with
  | nil => exact absurd (List.mem_singleton_self none) hmark
  | cons b rest =>
    rw [utf8DecodeFrom_inside] at h hmark
    by_cases hrange : lo ≤ b.toNat ∧ b.toNat ≤ hi
    · rw [if_pos hrange] at h
      exact ⟨b, rest, rfl, hrange.1, hrange.2, h⟩
    · rw [if_neg hrange] at hmark
      exact absurd List.mem_cons_self hmark

/-- The bytes of the character with a number. -/
theorem utf8EncodeChar_ofNat {v : Nat} (h : v.isValidChar) :
    String.utf8EncodeChar (Char.ofNat v) =
      if v ≤ 0x7F then [UInt8.ofNat v]
      else if v ≤ 0x7FF then [UInt8.ofNat (v / 64 % 32 + 192), UInt8.ofNat (v % 64 + 128)]
      else if v ≤ 0xFFFF then
        [UInt8.ofNat (v / 4096 % 16 + 224), UInt8.ofNat (v / 64 % 64 + 128),
          UInt8.ofNat (v % 64 + 128)]
      else
        [UInt8.ofNat (v / 262144 % 8 + 240), UInt8.ofNat (v / 4096 % 64 + 128),
          UInt8.ofNat (v / 64 % 64 + 128), UInt8.ofNat (v % 64 + 128)] := by
  have hvalue : (Char.ofNat v).val.toNat = v := by
    unfold Char.ofNat
    rw [dif_pos h]
    rfl
  unfold String.utf8EncodeChar
  rw [hvalue]

/-- A byte is the byte of its number. -/
theorem ofNat_eq_of_toNat {b : UInt8} {n : Nat} (h : n = b.toNat) : UInt8.ofNat n = b := by
  rw [h, UInt8.ofNat_toNat]

/-- Behind the first byte of a character stand the others. -/
theorem Begins.exists_char {b : UInt8} {missing value lo hi : Nat}
    (hbegins : Begins b missing value lo hi) {bs : Bytes} {cs : List Char}
    (h : utf8DecodeFrom (.inside missing value lo hi) bs = cs.map some) :
    ∃ c more rest, String.utf8EncodeChar c = b :: more ∧ bs = more ++ rest ∧
      some c :: utf8DecodeFrom .between rest = cs.map some := by
  cases hbegins with
  | two hbyte hmin hmax =>
    obtain ⟨b₂, rest, rfl, hlo₂, hhi₂, h⟩ := exists_byte h
    rw [if_pos (by omega)] at h
    refine ⟨_, [b₂], rest, ?_, rfl, h⟩
    rw [utf8EncodeChar_ofNat (.inl (by omega)), if_neg (by omega), if_pos (by omega),
      ofNat_eq_of_toNat (b := b) (by omega), ofNat_eq_of_toNat (b := b₂) (by omega)]
  | three hbyte hmax hlo hhi hshort hhalf =>
    obtain ⟨b₂, rest, rfl, hlo₂, hhi₂, h⟩ := exists_byte h
    rw [if_neg (by omega)] at h
    obtain ⟨b₃, rest, rfl, hlo₃, hhi₃, h⟩ := exists_byte h
    rw [if_pos (by omega)] at h
    refine ⟨_, [b₂, b₃], rest, ?_, rfl, h⟩
    rw [utf8EncodeChar_ofNat ?_, if_neg (by omega), if_neg (by omega), if_pos (by omega),
      ofNat_eq_of_toNat (b := b) (by omega), ofNat_eq_of_toNat (b := b₂) (by omega),
      ofNat_eq_of_toNat (b := b₃) (by omega)]
    unfold Nat.isValidChar
    omega
  | four hbyte hlo hhi hshort hmax =>
    obtain ⟨b₂, rest, rfl, hlo₂, hhi₂, h⟩ := exists_byte h
    rw [if_neg (by omega)] at h
    obtain ⟨b₃, rest, rfl, hlo₃, hhi₃, h⟩ := exists_byte h
    rw [if_neg (by omega)] at h
    obtain ⟨b₄, rest, rfl, hlo₄, hhi₄, h⟩ := exists_byte h
    rw [if_pos (by omega)] at h
    refine ⟨_, [b₂, b₃, b₄], rest, ?_, rfl, h⟩
    rw [utf8EncodeChar_ofNat ?_, if_neg (by omega), if_neg (by omega), if_neg (by omega),
      ofNat_eq_of_toNat (b := b) (by omega), ofNat_eq_of_toNat (b := b₂) (by omega),
      ofNat_eq_of_toNat (b := b₃) (by omega), ofNat_eq_of_toNat (b := b₄) (by omega)]
    unfold Nat.isValidChar
    omega

/-- Bytes that are read as a text are the bytes of that text. -/
theorem utf8Encode_of_utf8Decode {bs : Bytes} {cs : List Char}
    (h : utf8Decode bs = cs.map some) : utf8Encode cs = bs := by
  unfold utf8Decode at h
  induction hlength : bs.length using Nat.strongRecOn generalizing bs cs with
  | ind n ih =>
  cases bs with
  | nil =>
    rw [List.map_eq_nil_iff.1 h.symm]
    rfl
  | cons b bs =>
    have hmark : none ∉ cs.map some := by simp
    rw [utf8DecodeFrom_between] at h
    obtain ⟨hone, hfirst⟩ | ⟨missing, value, lo, hi, hfirst, hbegins⟩ :=
      utf8First_cases (b := b) fun hmem => hmark (h ▸ List.mem_append_left _ hmem)
    · rw [hfirst] at h
      obtain ⟨c, later, rfl, hc, hlater⟩ := List.map_eq_cons_iff.1 h.symm
      cases hc
      rw [utf8Encode_cons, ih bs.length (by simp [← hlength]) hlater.symm rfl,
        utf8EncodeChar_ofNat (.inl (by omega)), if_pos (by omega), UInt8.ofNat_toNat]
      rfl
    · rw [hfirst, List.nil_append] at h
      obtain ⟨c, more, rest, hchar, rfl, hread⟩ := hbegins.exists_char h
      obtain ⟨c', later, rfl, hc, hlater⟩ := List.map_eq_cons_iff.1 hread.symm
      cases hc
      have hshorter : rest.length < n := by
        rw [← hlength, List.length_cons, List.length_append]
        omega
      rw [utf8Encode_cons, ih rest.length hshorter hlater.symm rfl, hchar]
      rfl

/-- Bytes that are a text are the bytes of this text. -/
theorem utf8Bytes_of_utf8Text? {bs : Bytes} {s : String} (h : utf8Text? bs = some s) :
    utf8Bytes s = bs := by
  have hall : ∀ {marks : List (Option Char)} {cs : List Char}, marks.mapM id = some cs →
      marks = cs.map some := by
    intro marks
    induction marks with
    | nil =>
      intro cs hcs
      cases hcs
      rfl
    | cons mark marks ih =>
      intro cs hcs
      cases mark with
      | none => simp at hcs
      | some c =>
        rw [List.mapM_cons] at hcs
        cases hrest : marks.mapM id with
        | none => simp [hrest] at hcs
        | some rest =>
          rw [hrest] at hcs
          cases hcs
          rw [ih hrest]
          rfl
  unfold utf8Text? at h
  obtain ⟨cs, hcs, rfl⟩ := Option.map_eq_some_iff.1 h
  rw [utf8Bytes, String.toList_ofList]
  exact utf8Encode_of_utf8Decode (hall hcs)

/-- Different texts have different bytes. -/
theorem utf8Encode_injective {cs ds : List Char} (h : utf8Encode cs = utf8Encode ds) : cs = ds := by
  have hmarks := congrArg utf8Decode h
  rw [utf8Decode_utf8Encode, utf8Decode_utf8Encode] at hmarks
  exact (List.map_inj_right fun _ _ => Option.some.inj).1 hmarks

/-- A byte of ASCII is that of a character of ASCII. -/
theorem toNat_eq_of_mem_utf8EncodeChar {b : UInt8} {c : Char} (h : b ∈ String.utf8EncodeChar c)
    (hb : b.toNat < 0x80) : c.toNat = b.toNat := by
  -- Every byte of a longer character lies beyond ASCII.
  have hlarge {n : Nat} (hmin : 0x80 ≤ n) (hmax : n < 256) : b ≠ UInt8.ofNat n := by
    rintro rfl
    rw [UInt8.toNat_ofNat_of_lt' hmax] at hb
    omega
  unfold String.utf8EncodeChar at h
  rw [Char.toNat_val] at h
  dsimp only at h
  split at h
  · rw [List.mem_singleton.1 h, UInt8.toNat_ofNat_of_lt' (show c.toNat < 256 by omega)]
  split at h
  · simp only [List.mem_cons, List.not_mem_nil, or_false] at h
    rcases h with h | h <;> exact absurd h (hlarge (by omega) (by omega))
  split at h
  · simp only [List.mem_cons, List.not_mem_nil, or_false] at h
    rcases h with h | h | h <;> exact absurd h (hlarge (by omega) (by omega))
  · simp only [List.mem_cons, List.not_mem_nil, or_false] at h
    rcases h with h | h | h | h <;> exact absurd h (hlarge (by omega) (by omega))

end BucketLifecycle.Text
