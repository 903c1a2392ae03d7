import BucketLifecycle.Text.Segments
import BucketLifecycle.Url.Percent

/-!
# What percent encoding keeps

A segment of a path is read back as the bytes that were written (`decode_encodeSegment`), and so is
a value of a query: a plain character stands for itself, a blank has become a plus sign, and every
other character is there as its bytes, none of whose digits is a plus sign
(`formDecode_formEncode`).

An encoded text holds none of the marks around it.  A query, cut at its ampersands and then at equal
signs, falls apart into the names and values that it was made of (`formParameters_formQuery`).
-/

set_option autoImplicit false

namespace BucketLifecycle.Percent

/-- Plain characters are left as they are. -/
theorem encodeOutside_eq_self {plain : Char → Bool} {cs : List Char}
    (h : ∀ c ∈ cs, plain c = true) : encodeOutside plain cs = cs := by
  unfold encodeOutside
  induction cs with
  | nil => rfl
  | cons c cs ih =>
    rw [List.flatMap_cons, if_pos (h c List.mem_cons_self),
      ih fun d hd => h d (List.mem_cons_of_mem _ hd), List.singleton_append]

/-- A written hexadecimal digit is read back. -/
theorem hexValue?_hexUpper : ∀ n < 16, Text.hexValue? (hexUpper n) = some n := by
  decide

/-- An encoded byte is decoded to itself. -/
theorem decode_encodeByte (b : UInt8) (rest : List Char) :
    decode (encodeByte b ++ rest) = b :: decode rest := by
  have hb : b.toNat < 256 := b.toNat_lt
  show decode ('%' :: hexUpper (b.toNat / 16) :: hexUpper (b.toNat % 16) :: rest) = _
  rw [decode, hexValue?_hexUpper _ (by omega), hexValue?_hexUpper _ (by omega)]
  dsimp only
  rw [Nat.div_add_mod, UInt8.ofNat_toNat]

/-- An encoded character is decoded to its bytes. -/
theorem decode_encodeChar (c : Char) (rest : List Char) :
    decode (encodeChar c ++ rest) = String.utf8EncodeChar c ++ decode rest := by
  unfold encodeChar
  induction String.utf8EncodeChar c with
  | nil => rfl
  | cons b bs ih =>
    rw [List.flatMap_cons, List.append_assoc, decode_encodeByte, ih, List.cons_append]

/-- What a character is encoded as: percent signs, and digits that are plain everywhere. -/
theorem mem_encodeChar {c d : Char} (h : d ∈ encodeChar c) : d = '%' ∨ d.isAlphanum = true := by
  have hdigit : ∀ n < 16, (hexUpper n).isAlphanum = true := by
    decide
  obtain ⟨b, -, hd⟩ := List.mem_flatMap.1 h
  have hb : b.toNat < 256 := b.toNat_lt
  simp only [encodeByte, List.mem_cons, List.not_mem_nil, or_false] at hd
  rcases hd with rfl | rfl | rfl
  · exact .inl rfl
  · exact .inr (hdigit _ (by omega))
  · exact .inr (hdigit _ (by omega))

/-- An encoded segment holds only percent signs and unreserved characters. -/
theorem mem_encodeSegment {d : Char} {cs : List Char} (h : d ∈ encodeSegment cs) :
    d = '%' ∨ isUnreserved d = true := by
  obtain ⟨c, -, hd⟩ := List.mem_flatMap.1 h
  split at hd
  · next hplain =>
    rw [List.mem_singleton.1 hd]
    exact .inr hplain
  · refine (mem_encodeChar hd).imp_right fun hd => ?_
    simp [isUnreserved, hd]

/-- An encoded form holds only plus signs, percent signs and plain characters. -/
theorem mem_formEncode {d : Char} {cs : List Char} (h : d ∈ formEncode cs) :
    d = '+' ∨ d = '%' ∨ isFormPlain d = true := by
  obtain ⟨c, -, hd⟩ := List.mem_flatMap.1 h
  split at hd
  · exact .inl (List.mem_singleton.1 hd)
  split at hd
  · next hplain =>
    rw [List.mem_singleton.1 hd]
    exact .inr (.inr hplain)
  · refine .inr ((mem_encodeChar hd).imp_right fun hd => ?_)
    simp [isFormPlain, hd]

/-- What is no percent sign is decoded to its own bytes. -/
theorem decode_cons {c : Char} (h : c ≠ '%') (rest : List Char) :
    decode (c :: rest) = String.utf8EncodeChar c ++ decode rest := by
  rw [decode]
  intro a b tail heq
  exact absurd heq h

/-- The bytes of a segment in a path are those of the segment. -/
theorem decode_encodeSegment (cs : List Char) : decode (encodeSegment cs) = Text.utf8Encode cs := by
  unfold encodeSegment encodeOutside
  induction cs with
  | nil => rfl
  | cons c cs ih =>
    rw [List.flatMap_cons, Text.utf8Encode_cons, ← ih]
    split
    · next hplain =>
      refine decode_cons ?_ _
      rintro rfl
      exact absurd hplain (by decide)
    · exact decode_encodeChar c _

/-- The bytes of a value in a query are those of the value. -/
theorem formDecode_formEncode (cs : List Char) :
    formDecode (formEncode cs) = Text.utf8Encode cs := by
  unfold formDecode formEncode
  -- The plus signs that are turned into blanks again are those that blanks have become.
  induction cs with
  | nil => rfl
  | cons c cs ih =>
    rw [List.flatMap_cons, List.map_append, Text.utf8Encode_cons, ← ih]
    split
    · next hblank =>
      rw [hblank]
      exact decode_cons (by decide) _
    split
    · next hplain =>
      have hplus : c ≠ '+' := by
        rintro rfl
        exact absurd hplain (by decide)
      have hpercent : c ≠ '%' := by
        rintro rfl
        exact absurd hplain (by decide)
      rw [List.map_singleton, if_neg hplus]
      exact decode_cons hpercent _
    · have hkept : (encodeChar c).map (fun d => if d = '+' then ' ' else d) = encodeChar c := by
        refine (List.map_congr_left fun d hd => if_neg ?_).trans (List.map_id _)
        rintro rfl
        exact absurd (mem_encodeChar hd) (by decide)
      rw [hkept, decode_encodeChar]

/-- Pairs are joined like segments, with an ampersand. -/
theorem joinPairs_eq (pairs : List (List Char)) :
    formQuery.joinPairs pairs = Text.joinSegments '&' pairs := by
  induction pairs with
  | nil => rfl
  | cons pair rest ih =>
    cases rest with
    | nil => rfl
    | cons next rest => rw [formQuery.joinPairs, ih, Text.joinSegments]

/-- The names and values that a query spells. -/
def formParameters (query : List Char) : List (Bytes × Bytes) :=
  ((Text.segments '&' query).filter fun pair => !pair.isEmpty).map fun pair =>
    let (name, value) := (Text.cutAt '=' pair).getD (pair, [])
    (formDecode name, formDecode value)

/-- A query is read as the names and values that it was made of. -/
theorem formParameters_formQuery (pairs : List (String × String)) :
    formParameters (formQuery pairs) =
      pairs.map fun (k, v) => (Text.utf8Bytes k, Text.utf8Bytes v) := by
  cases pairs with
  | nil => rfl
  | cons first rest =>
    have hpieces : Text.segments '&' (formQuery (first :: rest)) =
        (first :: rest).map fun (k, v) => formEncode k.toList ++ '=' :: formEncode v.toList := by
      rw [formQuery, joinPairs_eq]
      refine Text.segments_joinSegments (by simp) fun piece hpiece hmem => ?_
      obtain ⟨pair, -, rfl⟩ := List.mem_map.1 hpiece
      rcases List.mem_append.1 hmem with hname | hvalue
      · exact absurd (mem_formEncode hname) (by decide)
      rcases List.mem_cons.1 hvalue with hmark | hvalue
      · exact absurd hmark (by decide)
      · exact absurd (mem_formEncode hvalue) (by decide)
    rw [formParameters, hpieces, List.filter_eq_self.2 ?_, List.map_map]
    · refine List.map_congr_left fun pair _ => ?_
      have hname : '=' ∉ formEncode pair.1.toList := fun h =>
        absurd (mem_formEncode h) (by decide)
      simp only [Function.comp_apply, Text.cutAt_append_cons hname, Option.getD_some,
        formDecode_formEncode]
      rfl
    · intro piece hpiece
      obtain ⟨pair, -, rfl⟩ := List.mem_map.1 hpiece
      simp

end BucketLifecycle.Percent
