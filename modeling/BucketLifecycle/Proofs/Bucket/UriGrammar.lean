import BucketLifecycle.Bucket.SnapshotJson
import BucketLifecycle.Proofs.Json.Meaning
import BucketLifecycle.Proofs.Text.Characters

/-!
# The grammar of bucket and object URIs

Which texts name a bucket, and which an object, is said here by a grammar: a scheme, a name, and how
the two are put together.  The readers cut a text up and check its parts one after another;
`BucketUri.parse_eq_ok_iff` and `ObjectUri.parse_eq_ok_iff` say that they take exactly the texts of
the grammar and find in them the parts that these are put together from.  Each step of a reader has
its own equivalence before that: the class of characters, the scheme, the name, the cut behind the
scheme.

No character of a scheme is a colon and none of a name is a slash, and so there is only one way to
take a text apart.  Both readers rest on this, and it is why they agree on what a bucket is.
-/

set_option autoImplicit false

namespace BucketLifecycle

open Text (segments cutAt cutAtSequence)

/-! ### The grammar -/

/-- A scheme: a small letter, and behind it small letters, digits, `+`, `.` and `-`. -/
def SchemeText (cs : List Char) : Prop :=
  ∃ first rest, cs = first :: rest ∧ ('a' ≤ first ∧ first ≤ 'z') ∧
    ∀ c ∈ rest, SmallAlphanumeric c ∨ c = '+' ∨ c = '.' ∨ c = '-'

/-- A name: 3 to 63 characters, of which the first and the last are small letters or digits, and
those between them may be `.`, `_` and `-` too. -/
def NameText (cs : List Char) : Prop :=
  3 ≤ cs.length ∧ cs.length ≤ 63 ∧ ∃ first middle last, cs = first :: (middle ++ [last]) ∧
    SmallAlphanumeric first ∧ SmallAlphanumeric last ∧
    ∀ c ∈ middle, SmallAlphanumeric c ∨ c = '.' ∨ c = '_' ∨ c = '-'

/-- No part of a path between slashes moves about instead of naming. -/
def PlainPath (path : String) : Prop :=
  ∀ part ∈ path.toList.splitOn '/', part ≠ ['.'] ∧ part ≠ ['.', '.']

/-! ### Characters -/

/-- The small letters and digits are those of ASCII. -/
theorem isLowerAlphanum_eq_true_iff {c : Char} :
    isLowerAlphanum c = true ↔ SmallAlphanumeric c := by
  rw [isLowerAlphanum, Bool.or_eq_true, isLower_eq_true_iff, isDigit_eq_true_iff, SmallAlphanumeric]

/-- A scheme has small letters, digits, and three marks. -/
theorem isSchemeChar_eq_true_iff {c : Char} :
    isSchemeChar c = true ↔ SmallAlphanumeric c ∨ c = '+' ∨ c = '.' ∨ c = '-' := by
  simp only [isSchemeChar, Bool.or_eq_true, beq_iff_eq, isLowerAlphanum_eq_true_iff]
  tauto

/-- The name of a bucket has small letters, digits, and three marks. -/
theorem isNameChar_eq_true_iff {c : Char} :
    isNameChar c = true ↔ SmallAlphanumeric c ∨ c = '.' ∨ c = '_' ∨ c = '-' := by
  simp only [isNameChar, Bool.or_eq_true, beq_iff_eq, isLowerAlphanum_eq_true_iff]
  tauto

/-- Small letters and digits may stand in a name. -/
theorem SmallAlphanumeric.isNameChar {c : Char} (h : SmallAlphanumeric c) : isNameChar c = true :=
  isNameChar_eq_true_iff.2 (.inl h)

/-- A character of a name is one byte. -/
theorem utf8Size_of_isNameChar {c : Char} (h : isNameChar c = true) : c.utf8Size = 1 := by
  have hascii : c.val ≤ 0x7F := by
    rcases isNameChar_eq_true_iff.1 h with (⟨-, hle⟩ | ⟨-, hle⟩) | rfl | rfl | rfl
    · exact UInt32.le_trans hle (by decide)
    · exact UInt32.le_trans hle (by decide)
    all_goals decide
  unfold Char.utf8Size
  exact if_pos hascii

/-- A name has as many bytes as characters. -/
theorem byteLength_of_all_isNameChar {cs : List Char} (h : ∀ c ∈ cs, isNameChar c = true) :
    byteLength cs = cs.length := by
  induction cs with
  | nil => rfl
  | cons c cs ih =>
    obtain ⟨hc, hcs⟩ := List.forall_mem_cons.1 h
    show c.utf8Size + byteLength cs = cs.length + 1
    rw [utf8Size_of_isNameChar hc, ih hcs, Nat.add_comm]

/-! ### Schemes and names -/

/-- The test for schemes accepts exactly those of the grammar. -/
theorem isScheme_eq_true_iff {cs : List Char} : isScheme cs = true ↔ SchemeText cs := by
  cases cs with
  | nil => simp [isScheme, SchemeText]
  | cons first rest =>
    simp [isScheme, SchemeText, isLower_eq_true_iff, isSchemeChar_eq_true_iff]

/-- No scheme has a colon. -/
theorem SchemeText.colon_not_mem {cs : List Char} (h : SchemeText cs) : ':' ∉ cs := by
  obtain ⟨first, rest, rfl, hfirst, hrest⟩ := h
  rw [List.mem_cons, not_or]
  constructor
  · rintro rfl
    exact absurd hfirst.1 (by decide)
  · intro hmem
    exact absurd (isSchemeChar_eq_true_iff.2 (hrest _ hmem)) (by decide)

/-- A name has nothing but what may stand in one. -/
theorem NameText.isNameChar {cs : List Char} (h : NameText cs) : ∀ c ∈ cs, isNameChar c = true := by
  obtain ⟨-, -, first, middle, last, rfl, hfirst, hlast, hmiddle⟩ := h
  intro c hc
  rcases List.mem_cons.1 hc with rfl | hc
  · exact hfirst.isNameChar
  rcases List.mem_append.1 hc with hc | hc
  · exact isNameChar_eq_true_iff.2 (hmiddle c hc)
  · rw [List.mem_singleton.1 hc]
    exact hlast.isNameChar

/-- No name has a slash. -/
theorem NameText.slash_not_mem {cs : List Char} (h : NameText cs) : '/' ∉ cs := by
  intro hmem
  exact absurd (h.isNameChar _ hmem) (by decide)

/-- No name is empty. -/
theorem NameText.ne_nil {cs : List Char} (h : NameText cs) : cs ≠ [] := by
  rintro rfl
  exact absurd h.1 (by decide)

/-- The checks pass exactly the names. -/
theorem checkName_eq_ok_iff {cs : List Char} : checkName cs = .ok () ↔ NameText cs := by
  constructor
  · intro h
    unfold checkName at h
    split at h
    · cases h
    next hlength =>
    split at h
    · cases h
    next hall =>
    split at h
    next hends =>
      have hchars : ∀ c ∈ cs, isNameChar c = true :=
        List.all_eq_true.1 (by simpa using hall)
      rw [byteLength_of_all_isNameChar hchars] at hlength
      simp only [Bool.or_eq_true, decide_eq_true_eq, not_or, Nat.not_lt] at hlength
      obtain ⟨first, tail, rfl⟩ : ∃ first tail, cs = first :: tail :=
        List.exists_cons_of_length_pos (by omega)
      obtain ⟨middle, last, rfl⟩ : ∃ middle last, tail = middle ++ [last] := by
        rcases List.eq_nil_or_concat tail with rfl | ⟨middle, last, rfl⟩
        · simp at hlength
        · exact ⟨middle, last, by simp⟩
      rw [List.head?_cons, ← List.cons_append, List.getLast?_concat, Option.all_some,
        Option.all_some, Bool.and_eq_true, isLowerAlphanum_eq_true_iff,
        isLowerAlphanum_eq_true_iff] at hends
      refine ⟨hlength.1, hlength.2, first, middle, last, rfl, hends.1, hends.2, ?_⟩
      intro c hc
      exact isNameChar_eq_true_iff.1 (hchars c (by simp [hc]))
    · cases h
  · intro h
    have hchars := h.isNameChar
    have hlength := byteLength_of_all_isNameChar hchars
    obtain ⟨hmin, hmax, first, middle, last, rfl, hfirst, hlast, -⟩ := h
    unfold checkName
    rw [hlength, if_neg (by simp only [Bool.or_eq_true, decide_eq_true_eq]; omega),
      if_neg (by rw [List.all_eq_true.2 hchars]; decide), if_pos]
    rw [List.head?_cons, ← List.cons_append, List.getLast?_concat, Option.all_some,
      Option.all_some, Bool.and_eq_true, isLowerAlphanum_eq_true_iff, isLowerAlphanum_eq_true_iff]
    exact ⟨hfirst, hlast⟩

/-! ### Readers, part by part -/

/-- A text is split into a scheme and what follows the mark behind it. -/
theorem splitScheme_eq_ok_iff {cs scheme rest : List Char} :
    splitScheme cs = .ok (scheme, rest) ↔
      SchemeText scheme ∧ cs = scheme ++ (schemeMark ++ rest) := by
  unfold splitScheme
  constructor
  · intro h
    split at h
    · cases h
    next before after hcut =>
    split at h
    next hscheme =>
      cases h
      exact ⟨isScheme_eq_true_iff.1 hscheme, Text.eq_append_of_cutAtSequence hcut⟩
    · cases h
  · rintro ⟨hscheme, rfl⟩
    have hcut : cutAtSequence schemeMark (scheme ++ (schemeMark ++ rest)) = some (scheme, rest) :=
      Text.cutAtSequence_append hscheme.colon_not_mem rest
    rw [hcut]
    exact if_pos (isScheme_eq_true_iff.2 hscheme)

/-- Behind the scheme stands the name, with one slash at most. -/
theorem BucketUri.ofParts_eq_ok_iff {scheme rest : List Char} {b : BucketUri} :
    BucketUri.ofParts scheme rest = .ok b ↔ b.scheme.toList = scheme ∧ NameText b.name.toList ∧
      (rest = b.name.toList ∨ rest = b.name.toList ++ ['/']) := by
  unfold BucketUri.ofParts
  dsimp only
  constructor
  · intro h
    have hrest : rest = (if rest.getLast? = some '/' then rest.dropLast else rest) ∨
        rest = (if rest.getLast? = some '/' then rest.dropLast else rest) ++ ['/'] := by
      split
      next hlast => exact .inr (List.dropLast_append_getLast? _ hlast).symm
      · exact .inl rfl
    generalize (if rest.getLast? = some '/' then rest.dropLast else rest) = name at h hrest
    split at h
    · cases h
    split at h
    · cases h
    cases hcheck : checkName name with
    | error e =>
      rw [hcheck] at h
      cases h
    | ok u =>
      rw [hcheck] at h
      cases h
      rw [String.toList_ofList, String.toList_ofList]
      exact ⟨rfl, checkName_eq_ok_iff.1 hcheck, hrest⟩
  · rintro ⟨rfl, hname, hrest⟩
    have hcut : (if rest.getLast? = some '/' then rest.dropLast else rest) = b.name.toList := by
      rcases hrest with rfl | rfl
      · refine if_neg fun hlast => hname.slash_not_mem ?_
        exact List.mem_of_getLast? hlast
      · rw [if_pos (by simp), List.dropLast_concat]
    rw [hcut, if_neg (by simpa using hname.ne_nil), if_neg (by simpa using hname.slash_not_mem),
      checkName_eq_ok_iff.2 hname, String.ofList_toList, String.ofList_toList]

/-! ### Bucket URIs -/

/-- The text of a slash is that one character. -/
theorem toList_slash : "/".toList = ['/'] := by
  simp

/-- A URI is put together of its scheme, the mark and the rest, as a text and as characters. -/
theorem eq_uri_iff {s scheme rest : String} :
    s = scheme ++ "://" ++ rest ↔ s.toList = scheme.toList ++ (schemeMark ++ rest.toList) := by
  rw [← String.toList_inj]
  simp [schemeMark]

/-- A bucket is read from its scheme and its name, with one slash behind it or none. -/
theorem BucketUri.ofChars_eq_ok_iff {cs : List Char} {b : BucketUri} :
    BucketUri.ofChars cs = .ok b ↔ SchemeText b.scheme.toList ∧ NameText b.name.toList ∧
      ∃ rest, cs = b.scheme.toList ++ (schemeMark ++ rest) ∧
        (rest = b.name.toList ∨ rest = b.name.toList ++ ['/']) := by
  constructor
  · intro h
    obtain ⟨⟨scheme, rest⟩, hsplit, hparts⟩ := exists_of_bind_eq_ok h
    obtain ⟨hscheme, rfl⟩ := splitScheme_eq_ok_iff.1 hsplit
    obtain ⟨rfl, hname, hrest⟩ := BucketUri.ofParts_eq_ok_iff.1 hparts
    exact ⟨hscheme, hname, rest, rfl, hrest⟩
  · rintro ⟨hscheme, hname, rest, rfl, hrest⟩
    unfold BucketUri.ofChars
    rw [splitScheme_eq_ok_iff.2 ⟨hscheme, rfl⟩]
    exact BucketUri.ofParts_eq_ok_iff.2 ⟨rfl, hname, hrest⟩

/-- A text reads as a bucket exactly if it is the scheme, the mark and the name of the bucket, or
these with a slash behind. -/
theorem BucketUri.parse_eq_ok_iff {s : String} {b : BucketUri} :
    BucketUri.parse s = .ok b ↔ SchemeText b.scheme.toList ∧ NameText b.name.toList ∧
      (s = b.scheme ++ "://" ++ b.name ∨ s = b.scheme ++ "://" ++ b.name ++ "/") := by
  have hchars : BucketUri.parse s = .ok b ↔ BucketUri.ofChars s.toList = .ok b := by
    refine ⟨eq_ok_of_mapError, fun h => ?_⟩
    rw [BucketUri.parse, h]
    rfl
  have hslash : b.scheme ++ "://" ++ b.name ++ "/" = b.scheme ++ "://" ++ (b.name ++ "/") :=
    String.append_assoc
  rw [hchars, BucketUri.ofChars_eq_ok_iff, hslash, eq_uri_iff, eq_uri_iff, String.toList_append,
    toList_slash]
  simp only [and_congr_right_iff]
  intro _ _
  constructor
  · rintro ⟨rest, htext, rfl | rfl⟩
    · exact .inl htext
    · exact .inr htext
  · rintro (htext | htext)
    · exact ⟨_, htext, .inl rfl⟩
    · exact ⟨_, htext, .inr rfl⟩

/-- A bucket is shown as its scheme and its name. -/
theorem BucketUri.toText_eq (b : BucketUri) : b.toText = b.scheme ++ "://" ++ b.name := by
  rw [eq_uri_iff, BucketUri.toText, String.toList_ofList, BucketUri.chars, List.append_assoc]

/-- A bucket is read back from its text. -/
theorem BucketUri.parse_toText {s : String} {b : BucketUri} (h : BucketUri.parse s = .ok b) :
    BucketUri.parse b.toText = .ok b := by
  obtain ⟨hscheme, hname, -⟩ := BucketUri.parse_eq_ok_iff.1 h
  exact BucketUri.parse_eq_ok_iff.2 ⟨hscheme, hname, .inl b.toText_eq⟩

/-- The JSON text is a literal that spells a text. -/
def SpellsText (json s : String) : Prop :=
  ∃ n, Json.Document.ofString json = ⟨n, false⟩ ∧ n.IsText s

/-- What a JSON literal decodes to is what the text that it spells reads as. -/
theorem BucketUri.run_decode {json s : String} (h : SpellsText json s) :
    Json.Decoder.run BucketUri.decode json =
      (BucketUri.parse s).mapError fun e => .rejected e.message := by
  obtain ⟨n, hdocument, lit, rfl, htext⟩ := h
  unfold Json.Decoder.run
  rw [hdocument, Json.Decoder.document, BucketUri.decode, Json.Decoder.textAs, htext]
  cases hparse : BucketUri.parse s <;>
    simp [Json.liftGrammar, Except.mapError, bind, Except.bind, pure, Except.pure, hparse]

/-- Nothing but a literal decodes to a bucket. -/
theorem BucketUri.exists_spellsText {json : String} {b : BucketUri}
    (h : Json.Decoder.run BucketUri.decode json = .ok b) :
    ∃ s, SpellsText json s ∧ BucketUri.parse s = .ok b := by
  obtain ⟨a, hdecode, hend⟩ := exists_of_bind_eq_ok h
  split at hend
  · cases hend
  next htrailing =>
  cases hend
  obtain ⟨s, htext, hread⟩ := Json.textAs_eq_ok hdecode
  rw [Bool.not_eq_true] at htrailing
  exact ⟨s, ⟨_, by rw [← htrailing], htext⟩, eq_ok_of_mapError hread⟩

/-- A bucket is written in JSON as the literal of its text. -/
theorem BucketUri.spellsText_encode (b : BucketUri) : SpellsText b.encode.text b.toText :=
  ⟨_, Json.Document.ofString_text (.string _), _, rfl, Json.StringLit.text_ofString _⟩

/-- A bucket that was read is read back from its JSON text. -/
theorem BucketUri.run_encode {s : String} {b : BucketUri} (h : BucketUri.parse s = .ok b) :
    Json.Decoder.run BucketUri.decode b.encode.text = .ok b := by
  rw [BucketUri.run_decode b.spellsText_encode, BucketUri.parse_toText h]
  rfl

/-- The grammar of bucket URIs.  Exactly the texts that are put together from a scheme and a name
are read, with one slash behind or none, and the reader finds these two.  The bucket is written as
the text without the slash, which is read as the same bucket.  A JSON literal comes to what the text
that it spells comes to, whether that is a bucket or not, nothing else in JSON is a bucket, and a
bucket that was read is read again from its JSON text. -/
theorem bucketUri_grammar (s : String) :
    (∀ b, BucketUri.parse s = .ok b ↔ SchemeText b.scheme.toList ∧ NameText b.name.toList ∧
      (s = b.scheme ++ "://" ++ b.name ∨ s = b.scheme ++ "://" ++ b.name ++ "/")) ∧
    (∀ b, BucketUri.parse s = .ok b → b.toText = b.scheme ++ "://" ++ b.name ∧
      BucketUri.parse b.toText = .ok b ∧ Json.Decoder.run BucketUri.decode b.encode.text = .ok b) ∧
    (∀ json, SpellsText json s → Json.Decoder.run BucketUri.decode json =
      (BucketUri.parse s).mapError fun e => .rejected e.message) ∧
    ∀ json b, Json.Decoder.run BucketUri.decode json = .ok b →
      ∃ t, SpellsText json t ∧ BucketUri.parse t = .ok b := by
  refine ⟨fun b => BucketUri.parse_eq_ok_iff, fun b h => ?_, fun json => BucketUri.run_decode,
    fun json b => BucketUri.exists_spellsText⟩
  exact ⟨b.toText_eq, BucketUri.parse_toText h, BucketUri.run_encode h⟩

/-! ### Object URIs -/

/-- Cutting at a separator is the splitting of the library. -/
theorem segments_eq_splitOn {α : Type} [DecidableEq α] (sep : α) (xs : List α) :
    segments sep xs = xs.splitOn sep := by
  induction xs with
  | nil => simp [segments]
  | cons x xs ih =>
    have hcons : (x :: xs).splitOn sep =
        if x = sep then [] :: xs.splitOn sep else (xs.splitOn sep).modifyHead (x :: ·) := by
      unfold List.splitOn
      rw [List.splitOnP_cons_eq_if_modifyHead]
      simp only [beq_iff_eq]
    have hne : xs.splitOn sep ≠ [] := ih ▸ Text.segments_ne_nil sep xs
    rw [segments, ih, hcons]
    cases hs : xs.splitOn sep with
    | nil => exact absurd hs hne
    | cons piece rest => rfl

/-- No segment of a path is relative where the path is plain. -/
theorem any_isRelativeSegment_eq_false_iff {path : String} :
    (segments '/' path.toList).any isRelativeSegment = false ↔ PlainPath path := by
  rw [segments_eq_splitOn, List.any_eq_false]
  simp [isRelativeSegment, PlainPath]

/-- Behind the scheme stands the name, and the path behind a slash where there is one. -/
theorem ObjectUri.ofChars_eq_ok_iff {cs : List Char} {u : ObjectUri} :
    ObjectUri.ofChars cs = .ok u ↔ SchemeText u.bucket.scheme.toList ∧
      NameText u.bucket.name.toList ∧ PlainPath u.path ∧
      ∃ rest, cs = u.bucket.scheme.toList ++ (schemeMark ++ rest) ∧
        (rest = u.bucket.name.toList ∧ u.path = "" ∨
          rest = u.bucket.name.toList ++ '/' :: u.path.toList) := by
  constructor
  · intro h
    obtain ⟨⟨scheme, rest⟩, hsplit, hparts⟩ := exists_of_bind_eq_ok h
    obtain ⟨hscheme, rfl⟩ := splitScheme_eq_ok_iff.1 hsplit
    obtain ⟨name, path, hcut, hname, hrest⟩ : ∃ name path,
        (cutAt '/' rest).getD (rest, []) = (name, path) ∧ '/' ∉ name ∧
          (rest = name ∧ path = [] ∨ rest = name ++ '/' :: path) := by
      cases hcut : cutAt '/' rest with
      | none => exact ⟨rest, [], rfl, Text.cutAt_eq_none_iff.1 hcut, .inl ⟨rfl, rfl⟩⟩
      | some parts =>
        obtain ⟨hname, hrest⟩ := Text.cutAt_eq_some_iff.1 hcut
        exact ⟨parts.1, parts.2, rfl, hname, .inr hrest⟩
    dsimp only at hparts
    rw [hcut] at hparts
    split at hparts
    · cases hparts
    next hrelative =>
    obtain ⟨bucket, hbucket, hdone⟩ := exists_of_bind_eq_ok hparts
    cases hdone
    obtain ⟨rfl, hnameText, heq | heq⟩ := BucketUri.ofParts_eq_ok_iff.1 hbucket
    · subst heq
      refine ⟨hscheme, hnameText, ?_, rest, rfl, ?_⟩
      · rw [← any_isRelativeSegment_eq_false_iff, String.toList_ofList]
        simpa using hrelative
      · rw [String.toList_ofList]
        refine hrest.imp_left fun ⟨hrest, hpath⟩ => ⟨hrest, ?_⟩
        rw [hpath, String.ofList_nil]
    · have hslash : name = bucket.name.toList ++ ['/'] := heq
      exact absurd (hslash ▸ by simp) hname
  · rintro ⟨hscheme, hname, hpath, rest, rfl, hrest⟩
    have hcut : (cutAt '/' rest).getD (rest, []) = (u.bucket.name.toList, u.path.toList) := by
      rcases hrest with ⟨rfl, hempty⟩ | rfl
      · rw [Text.cutAt_of_not_mem hname.slash_not_mem, hempty]
        rfl
      · rw [Text.cutAt_append_cons hname.slash_not_mem]
        rfl
    unfold ObjectUri.ofChars
    rw [splitScheme_eq_ok_iff.2 ⟨hscheme, rfl⟩]
    have hparts := BucketUri.ofParts_eq_ok_iff.2 ⟨rfl, hname, .inl rfl⟩
    simp [bind, Except.bind, hcut, any_isRelativeSegment_eq_false_iff.2 hpath, hparts,
      pure, Except.pure]

/-- A text reads as an object exactly if it is the text of a bucket, and the path of the object
behind a slash; where the path is empty, the slash may be missing. -/
theorem ObjectUri.parse_eq_ok_iff {s : String} {u : ObjectUri} :
    ObjectUri.parse s = .ok u ↔ SchemeText u.bucket.scheme.toList ∧
      NameText u.bucket.name.toList ∧ PlainPath u.path ∧
      (s = u.bucket.toText ∧ u.path = "" ∨ s = u.bucket.toText ++ "/" ++ u.path) := by
  have hchars : ObjectUri.parse s = .ok u ↔ ObjectUri.ofChars s.toList = .ok u := by
    refine ⟨eq_ok_of_mapError, fun h => ?_⟩
    rw [ObjectUri.parse, h]
    rfl
  have hslash : u.bucket.scheme ++ "://" ++ u.bucket.name ++ "/" ++ u.path =
      u.bucket.scheme ++ "://" ++ (u.bucket.name ++ ("/" ++ u.path)) := by
    simp only [String.append_assoc]
  rw [hchars, ObjectUri.ofChars_eq_ok_iff, u.bucket.toText_eq, hslash, eq_uri_iff, eq_uri_iff,
    String.toList_append, String.toList_append, toList_slash]
  simp only [and_congr_right_iff]
  intro _ _ _
  constructor
  · rintro ⟨rest, htext, ⟨rfl, hpath⟩ | rfl⟩
    · exact .inl ⟨htext, hpath⟩
    · exact .inr htext
  · rintro (⟨htext, hpath⟩ | htext)
    · exact ⟨_, htext, .inl ⟨rfl, hpath⟩⟩
    · exact ⟨_, htext, .inr rfl⟩

/-- A scheme and a name read as a bucket of that name exactly where both follow the grammar. -/
theorem BucketUri.parse_uri_eq_ok_iff {scheme : String} {b : BucketUri} :
    BucketUri.parse (scheme ++ "://" ++ b.name) = .ok b ↔
      scheme = b.scheme ∧ SchemeText b.scheme.toList ∧ NameText b.name.toList := by
  rw [BucketUri.parse_eq_ok_iff]
  constructor
  · rintro ⟨hscheme, hname, htext | htext⟩
    · rw [eq_uri_iff, eq_uri_iff.1 rfl] at htext
      exact ⟨String.toList_inj.1 (List.append_cancel_right htext), hscheme, hname⟩
    · -- A name behind which a slash makes the same text ends in a slash itself.
      have hlast : (b.scheme ++ "://" ++ b.name ++ "/").toList.getLast? = some '/' := by
        rw [String.toList_append, toList_slash, List.getLast?_concat]
      rw [← htext, String.toList_append, List.getLast?_append_of_ne_nil _ hname.ne_nil] at hlast
      exact absurd (List.mem_of_getLast? hlast) hname.slash_not_mem
  · rintro ⟨rfl, hscheme, hname⟩
    exact ⟨hscheme, hname, .inl rfl⟩

/-- The empty path is plain. -/
theorem plainPath_empty : PlainPath "" := by
  unfold PlainPath
  decide

/-- A bucket is what an object with an empty path is in. -/
theorem BucketUri.parse_eq_ok_iff_objectUri {s : String} {b : BucketUri} :
    BucketUri.parse s = .ok b ↔ ObjectUri.parse s = .ok ⟨b, ""⟩ := by
  rw [BucketUri.parse_eq_ok_iff, ObjectUri.parse_eq_ok_iff, b.toText_eq, String.append_empty]
  simp [plainPath_empty]

/-- An object is shown as its bucket and its path. -/
theorem ObjectUri.toText_eq (u : ObjectUri) : u.toText = u.bucket.toText ++ "/" ++ u.path := by
  rw [← String.toList_inj]
  simp [ObjectUri.toText, BucketUri.toText]

/-- The grammar of object URIs.  Exactly the texts are read that are put together from the text of a
bucket and a path without relative segments, with the path behind a slash or, where it is empty, no
slash; the reader finds the bucket and the path, and finds them again in the text that the object is
written as.  A text names a bucket exactly if it names the object with the empty path there.  What
is turned down is turned down as a whole, with the text itself. -/
theorem objectUri_grammar (s : String) :
    (∀ u, ObjectUri.parse s = .ok u ↔ ∃ scheme name,
      BucketUri.parse (scheme ++ "://" ++ name) = .ok u.bucket ∧ u.bucket.name = name ∧
        PlainPath u.path ∧ (s = scheme ++ "://" ++ name ∧ u.path = "" ∨
          s = scheme ++ "://" ++ name ++ "/" ++ u.path)) ∧
    (∀ u, ObjectUri.parse s = .ok u → ObjectUri.parse u.toText = .ok u) ∧
    (∀ b, BucketUri.parse s = .ok b ↔ ∃ u, ObjectUri.parse s = .ok u ∧ u.path = "" ∧ u.bucket = b) ∧
    (∀ e, ObjectUri.parse s = .error e →
      ∃ reason, LifecycleError.ofUri e = .invalidIdentifier s reason) ∧
    ∀ e, BucketUri.parse s = .error e →
      ∃ reason, LifecycleError.ofUri e = .invalidIdentifier s reason := by
  refine ⟨fun u => ?_, fun u h => ?_, fun b => ?_, fun e h => ?_, fun e h => ?_⟩
  · rw [ObjectUri.parse_eq_ok_iff, u.bucket.toText_eq]
    constructor
    · rintro ⟨hscheme, hname, hpath, htext⟩
      exact ⟨_, _, BucketUri.parse_uri_eq_ok_iff.2 ⟨rfl, hscheme, hname⟩, rfl, hpath, htext⟩
    · rintro ⟨scheme, name, hbucket, rfl, hpath, htext⟩
      obtain ⟨rfl, hscheme, hname⟩ := BucketUri.parse_uri_eq_ok_iff.1 hbucket
      exact ⟨hscheme, hname, hpath, htext⟩
  · obtain ⟨hscheme, hname, hpath, -⟩ := ObjectUri.parse_eq_ok_iff.1 h
    exact ObjectUri.parse_eq_ok_iff.2 ⟨hscheme, hname, hpath, .inr u.toText_eq⟩
  · rw [BucketUri.parse_eq_ok_iff_objectUri]
    refine ⟨fun h => ⟨_, h, rfl, rfl⟩, ?_⟩
    rintro ⟨⟨bucket, path⟩, h, rfl, rfl⟩
    exact h
  · obtain ⟨reason, -, rfl⟩ := exists_of_mapError_eq_error h
    exact ⟨reason.message, rfl⟩
  · obtain ⟨reason, -, rfl⟩ := exists_of_mapError_eq_error h
    exact ⟨reason.message, rfl⟩

end BucketLifecycle
