import BucketLifecycle.Text.Utf8

/-!
# Text read back from its bytes

Decoding undoes encoding: the bytes of a text are read as that text, with no mark in it
(`utf8Text?_utf8Bytes`).

A character of one to four bytes takes the decoder from one character to the next.  Its first byte
says how many bytes are missing and, where shorter characters or halves of characters must be kept
out, narrows the range of the second; `utf8First_three` and `utf8First_four` say that the second
byte of a character lies in that range.
-/

set_option autoImplicit false

namespace BucketLifecycle.Text

/-- Between characters a byte is read as a first one. -/
theorem utf8DecodeFrom_between (b : UInt8) (bs : Bytes) :
    utf8DecodeFrom .between (b :: bs) =
      (utf8First b).1 ++ utf8DecodeFrom (utf8First b).2 bs := rfl

section

variable {value lo hi n : Nat}

/-- The last byte of a character. -/
theorem utf8DecodeFrom_last (hlo : lo ≤ n) (hhi : n ≤ hi) (hn : n < 256) (bs : Bytes) :
    utf8DecodeFrom (.inside 1 value lo hi) (UInt8.ofNat n :: bs) =
      some (Char.ofNat (value * 64 + (n - 0x80))) :: utf8DecodeFrom .between bs := by
  have hbyte : (UInt8.ofNat n).toNat = n := UInt8.toNat_ofNat_of_lt' hn
  simp [utf8DecodeFrom, utf8Step, hbyte, hlo, hhi]

/-- A byte inside a character, with others still to come. -/
theorem utf8DecodeFrom_more {missing : Nat} (hlo : lo ≤ n) (hhi : n ≤ hi) (hn : n < 256)
    (bs : Bytes) :
    utf8DecodeFrom (.inside (missing + 2) value lo hi) (UInt8.ofNat n :: bs) =
      utf8DecodeFrom (.inside (missing + 1) (value * 64 + (n - 0x80)) 0x80 0xBF) bs := by
  have hbyte : (UInt8.ofNat n).toNat = n := UInt8.toNat_ofNat_of_lt' hn
  simp [utf8DecodeFrom, utf8Step, hbyte, hlo, hhi]

end

/-- The only byte of a character of one byte. -/
theorem utf8First_one {v : Nat} (h : v ≤ 0x7F) :
    utf8First (UInt8.ofNat v) = ([some (Char.ofNat v)], .between) := by
  have hbyte : (UInt8.ofNat v).toNat = v := UInt8.toNat_ofNat_of_lt' (show v < 256 by omega)
  unfold utf8First
  rw [hbyte, if_pos (by omega)]

/-- The first byte of a character of two bytes. -/
theorem utf8First_two {v : Nat} (hlo : 0x7F < v) (hhi : v ≤ 0x7FF) :
    utf8First (UInt8.ofNat (v / 64 % 32 + 192)) = ([], .inside 1 (v / 64) 0x80 0xBF) := by
  have hbyte : (UInt8.ofNat (v / 64 % 32 + 192)).toNat = v / 64 + 192 := by
    rw [UInt8.toNat_ofNat_of_lt' (show v / 64 % 32 + 192 < 256 by omega)]
    omega
  unfold utf8First
  rw [hbyte, if_neg (by omega), if_neg (by omega), if_pos (by omega)]
  simp

/-- The first byte of a character of three bytes, with bounds on the second. -/
theorem utf8First_three {v : Nat} (hlo : 0x7FF < v) (hhi : v ≤ 0xFFFF) (hvalid : v.isValidChar) :
    ∃ lo hi, utf8First (UInt8.ofNat (v / 4096 % 16 + 224)) = ([], .inside 2 (v / 4096) lo hi) ∧
      lo ≤ v / 64 % 64 + 128 ∧ v / 64 % 64 + 128 ≤ hi := by
  have hbyte : (UInt8.ofNat (v / 4096 % 16 + 224)).toNat = v / 4096 + 224 := by
    rw [UInt8.toNat_ofNat_of_lt' (show v / 4096 % 16 + 224 < 256 by omega)]
    omega
  unfold utf8First
  rw [hbyte, if_neg (by omega), if_neg (by omega), if_neg (by omega)]
  -- No character of three bytes is one of two, and none is half of a character.
  by_cases hfirst : v / 4096 = 0
  · rw [if_pos (by omega), hfirst]
    exact ⟨_, _, rfl, by omega, by omega⟩
  rw [if_neg (by omega)]
  by_cases hhalf : v / 4096 = 13
  · rw [if_pos (by omega), hhalf]
    have hvalid : v < 55296 ∨ 57343 < v ∧ v < 1114112 := hvalid
    exact ⟨_, _, rfl, by omega, by omega⟩
  rw [if_neg (by omega), if_pos (by omega), Nat.add_sub_cancel]
  exact ⟨_, _, rfl, by omega, by omega⟩

/-- The first byte of a character of four bytes, with bounds on the second. -/
theorem utf8First_four {v : Nat} (hlo : 0xFFFF < v) (hvalid : v.isValidChar) :
    ∃ lo hi,
      utf8First (UInt8.ofNat (v / 262144 % 8 + 240)) = ([], .inside 3 (v / 262144) lo hi) ∧
        lo ≤ v / 4096 % 64 + 128 ∧ v / 4096 % 64 + 128 ≤ hi := by
  have hvalid : v < 55296 ∨ 57343 < v ∧ v < 1114112 := hvalid
  have hbyte : (UInt8.ofNat (v / 262144 % 8 + 240)).toNat = v / 262144 + 240 := by
    rw [UInt8.toNat_ofNat_of_lt' (show v / 262144 % 8 + 240 < 256 by omega)]
    omega
  unfold utf8First
  rw [hbyte, if_neg (by omega), if_neg (by omega), if_neg (by omega), if_neg (by omega),
    if_neg (by omega), if_neg (by omega)]
  by_cases hfirst : v / 262144 = 0
  · rw [if_pos (by omega), hfirst]
    exact ⟨_, _, rfl, by omega, by omega⟩
  rw [if_neg (by omega)]
  by_cases hlast : v / 262144 = 4
  · rw [if_neg (by omega), if_pos (by omega), hlast]
    exact ⟨_, _, rfl, by omega, by omega⟩
  rw [if_pos (by omega), Nat.add_sub_cancel]
  exact ⟨_, _, rfl, by omega, by omega⟩

/-- The bytes of a character are read as that character. -/
theorem utf8DecodeFrom_encodeChar (c : Char) (bs : Bytes) :
    utf8DecodeFrom .between (String.utf8EncodeChar c ++ bs) =
      some c :: utf8DecodeFrom .between bs := by
  have hvalid : c.val.toNat.isValidChar := c.valid
  have hchar {n : Nat} (hn : n = c.val.toNat) : Char.ofNat n = c := by
    rw [hn]
    exact Char.ofNat_toNat c
  unfold String.utf8EncodeChar
  generalize c.val.toNat = v at hvalid hchar
  dsimp only
  split
  · next h =>
    rw [List.singleton_append, utf8DecodeFrom_between, utf8First_one h, hchar rfl]
    rfl
  split
  · next hlo hhi =>
    rw [List.cons_append, utf8DecodeFrom_between, utf8First_two (by omega) hhi]
    dsimp only
    rw [List.nil_append, List.singleton_append,
      utf8DecodeFrom_last (by omega) (by omega) (by omega), hchar (by omega)]
  split
  · next hlo hhi =>
    obtain ⟨lo, hi, hfirst, hmin, hmax⟩ := utf8First_three (by omega) hhi hvalid
    rw [List.cons_append, utf8DecodeFrom_between, hfirst]
    dsimp only
    rw [List.nil_append, List.cons_append, utf8DecodeFrom_more hmin hmax (by omega),
      List.singleton_append, utf8DecodeFrom_last (by omega) (by omega) (by omega),
      hchar (by omega)]
  · next hlo =>
    obtain ⟨lo, hi, hfirst, hmin, hmax⟩ := utf8First_four (by omega) hvalid
    rw [List.cons_append, utf8DecodeFrom_between, hfirst]
    dsimp only
    rw [List.nil_append, List.cons_append, utf8DecodeFrom_more hmin hmax (by omega),
      List.cons_append, utf8DecodeFrom_more (by omega) (by omega) (by omega),
      List.singleton_append, utf8DecodeFrom_last (by omega) (by omega) (by omega),
      hchar (by omega)]

/-- A text is read back from its bytes. -/
theorem utf8Decode_utf8Encode (cs : List Char) : utf8Decode (utf8Encode cs) = cs.map some := by
  unfold utf8Decode
  induction cs with
  | nil => rfl
  | cons c cs ih =>
    rw [utf8Encode_cons, utf8DecodeFrom_encodeChar, ih]
    rfl

/-- The bytes of a text are read as that text. -/
theorem utf8Text?_utf8Bytes (s : String) : utf8Text? (utf8Bytes s) = some s := by
  have hall : ∀ cs : List Char, (cs.map some).mapM id = some cs := by
    intro cs
    induction cs with
    | nil => rfl
    | cons c cs ih => simp [List.mapM_cons, ih]
  unfold utf8Text? utf8Bytes
  rw [utf8Decode_utf8Encode, hall]
  simp

end BucketLifecycle.Text
