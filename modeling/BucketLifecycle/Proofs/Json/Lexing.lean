import BucketLifecycle.Proofs.Json.Lexeme

/-!
# The lexer and its grammar

The lexer reads one character at a time.  What it has read of the lexeme that it is in is told by
`Mode.Reads`; each step keeps this (`LexState.Reads.step`), so where no token is broken the text is
one of the grammar (`lexed_tokens`).  In the other direction each lexeme leads the lexer from where
a token may begin to where the next one may begin, or to a number that the next character ends
(`LexState.Settled`).  Two numbers in a row could not be told from one; no other tokens run together
(`tokens_of_lexed`).
-/

set_option autoImplicit false

namespace BucketLifecycle.Json

/-! ### String literals -/

/-- The lexer takes hexadecimal digits to their number. -/
theorem HexText.foldl_step {hs : List Char} {n : Nat} (h : HexText hs n) (hlength : hs.length < 4)
    (tokens : List Token) (pieces : List Piece) :
    hs.foldl LexState.step ⟨tokens, .hex pieces 0 0⟩ = ⟨tokens, .hex pieces hs.length n⟩ := by
  induction h with
  | nil => rfl
  | @digit hs n d c h hc ih =>
    rw [List.length_append, List.length_singleton] at hlength
    rw [List.foldl_append, ih (by omega)]
    have hroom : hs.length < 3 := by omega
    simp [LexState.step, hc, hroom]

/-- The fourth digit of an escape by number ends it. -/
theorem HexText.foldl_four {hs : List Char} {n : Nat} (h : HexText hs n) (hlength : hs.length = 4)
    (tokens : List Token) (pieces : List Piece) :
    hs.foldl LexState.step ⟨tokens, .hex pieces 0 0⟩ = ⟨tokens, .string (addUnit pieces n)⟩ := by
  cases h with
  | nil => cases hlength
  | @digit hs n d c h hc =>
    rw [List.length_append, List.length_singleton] at hlength
    rw [List.foldl_append, h.foldl_step (by omega)]
    have hfull : ¬ hs.length < 3 := by omega
    simp [LexState.step, hc, hfull]

/-- The lexer takes the body of a string to its pieces. -/
theorem StringBody.foldl_step {pieces : List Piece} {body : List Char}
    (h : StringBody pieces body) (tokens : List Token) :
    body.foldl LexState.step ⟨tokens, .string []⟩ = ⟨tokens, .string pieces⟩ := by
  induction h with
  | nil => rfl
  | char _ hquote hbackslash hcontrol ih =>
    rw [List.foldl_append, ih]
    simp [LexState.step, hquote, hbackslash, hcontrol]
  | @short _ _ c e _ he ih =>
    have hu : e ≠ 'u' := by
      rintro rfl
      cases he
    rw [List.foldl_append, ih]
    simp [LexState.step, hu, he]
  | unit _ hhex hlength ih =>
    rw [List.foldl_append, ih, List.foldl_cons, List.foldl_cons]
    exact hhex.foldl_four hlength tokens _

/-! ### From the grammar to the tokens -/

/-- All tokens so far (in reverse) are read, up to a number that may end where it stands. -/
def LexState.Settled (st : LexState) (tokens : List Token) : Prop :=
  st = ⟨tokens, .start⟩ ∨
    ∃ part lit before, part.complete = true ∧ tokens = .number lit :: before ∧
      st = ⟨before, .number part lit⟩

def Token.IsNumber (t : Token) : Prop :=
  ∃ lit, t = .number lit

/-- No number follows another one. -/
def Apart (ts : List Token) : Prop :=
  ts.IsChain fun t u => ¬(t.IsNumber ∧ u.IsNumber)

/-- Tokens that may stand side by side still may with a token between them that is no number. -/
theorem apart_join {ts us : List Token} {t : Token} (hts : Apart ts) (hus : Apart us)
    (ht : ¬t.IsNumber) : Apart (ts ++ t :: us) := by
  refine List.isChain_append.2 ⟨hts, List.isChain_cons.2 ⟨fun u _ h => ht h.1, hus⟩, ?_⟩
  rintro s - u hu h
  cases hu
  exact ht h.2

/-- One token may stand alone. -/
theorem apart_singleton (t : Token) : Apart [t] :=
  .singleton t

/-- At a character that ends numbers a settled lexer begins anew. -/
theorem LexState.Settled.step {st : LexState} {tokens : List Token} (h : st.Settled tokens)
    {c : Char} (hc : EndsNumber c) : st.step c = LexState.begin tokens c := by
  rcases h with rfl | ⟨part, lit, before, hpart, rfl, rfl⟩
  · rfl
  · simp [LexState.step, NumberPart.step_of_endsNumber hpart lit hc]

/-- A settled lexer ends with its tokens. -/
theorem LexState.Settled.finish {st : LexState} {tokens : List Token} (h : st.Settled tokens) :
    st.finish = tokens.reverse := by
  rcases h with rfl | ⟨part, lit, before, hpart, rfl, rfl⟩
  · exact List.append_nil _
  · simp [LexState.finish, hpart]

/-- The lexer reads the text of a token wherever one may begin. -/
theorem Lexeme.settles {t : Token} {cs : List Char} (h : Lexeme t cs) (tokens : List Token) :
    (cs.foldl LexState.step ⟨tokens, .start⟩).Settled (t :: tokens) := by
  cases h with
  | number h =>
    obtain ⟨part, hcomplete, hleads⟩ := h.leadsTo
    exact .inr ⟨part, _, tokens, hcomplete, rfl, hleads tokens⟩
  | string h =>
    refine .inl ?_
    rw [List.cons_append, List.foldl_cons, List.foldl_append]
    show List.foldl _ (List.foldl LexState.step ⟨tokens, .string []⟩ _) _ = _
    rw [h.foldl_step]
    simp [LexState.step, stringToken]
  | _ => exact .inl rfl

/-- The first character of a token that is no number ends a number in front of it. -/
theorem Lexeme.exists_cons {t : Token} {cs : List Char} (h : Lexeme t cs) (ht : ¬t.IsNumber) :
    ∃ c rest, cs = c :: rest ∧ EndsNumber c := by
  cases h with
  | number => exact absurd ⟨_, rfl⟩ ht
  | _ => exact ⟨_, _, rfl, by decide⟩

/-- A settled lexer takes a lexeme to its token and is settled again. -/
theorem LexState.Settled.token {st : LexState} {tokens : List Token} (h : st.Settled tokens)
    {t : Token} {cs : List Char} (ht : Lexeme t cs)
    (hapart : ∀ s ∈ tokens.head?, ¬(s.IsNumber ∧ t.IsNumber)) :
    (cs.foldl LexState.step st).Settled (t :: tokens) := by
  rcases h with rfl | ⟨part, lit, before, hpart, rfl, rfl⟩
  · exact ht.settles tokens
  · have hnumber : ¬t.IsNumber := fun h => hapart _ rfl ⟨⟨lit, rfl⟩, h⟩
    obtain ⟨c, rest, rfl, hc⟩ := ht.exists_cons hnumber
    have hsettled : LexState.Settled ⟨before, .number part lit⟩ (.number lit :: before) :=
      .inr ⟨part, lit, before, hpart, rfl, rfl⟩
    rw [List.foldl_cons, hsettled.step hc]
    exact ht.settles (.number lit :: before)

/-- A blank begins no token, and it ends numbers. -/
theorem begin_isSpace {c : Char} (h : isSpace c = true) (tokens : List Token) :
    LexState.begin tokens c = ⟨tokens, .start⟩ ∧ EndsNumber c := by
  have hcases : c = ' ' ∨ c = '\n' ∨ c = '\t' ∨ c = '\r' := by
    simpa [isSpace, or_assoc] using h
  rcases hcases with rfl | rfl | rfl | rfl <;> exact ⟨rfl, by decide⟩

/-- The lexer takes a text of tokens to those tokens. -/
theorem Lexed.settles {ts : List Token} {cs : List Char} (h : Lexed ts cs) (hapart : Apart ts) :
    (cs.foldl LexState.step ⟨[], .start⟩).Settled ts.reverse := by
  induction h with
  | nil => exact .inl rfl
  | blank _ hc ih =>
    obtain ⟨hbegin, hends⟩ := begin_isSpace hc _
    rw [List.foldl_append, List.foldl_cons, List.foldl_nil, (ih hapart).step hends, hbegin]
    exact .inl rfl
  | token _ ht ih =>
    obtain ⟨hbefore, -, hlast⟩ := List.isChain_append.1 hapart
    rw [List.foldl_append, List.reverse_append]
    refine (ih hbefore).token ht fun s hs => ?_
    rw [List.head?_reverse] at hs
    exact hlast s hs _ rfl

/-- The lexer finds the tokens of a text of the grammar. -/
theorem tokens_of_lexed {ts : List Token} {cs : List Char} (h : Lexed ts cs) (hapart : Apart ts) :
    tokens cs = ts := by
  unfold tokens
  rw [(h.settles hapart).finish, List.reverse_reverse]

/-! ### From the tokens to the grammar -/

/-- A token that a text of the grammar has. -/
def Token.Whole : Token → Prop
  | .string s => s.ending = .closed
  | .broken _ => False
  | _ => True

/-- A broken token is not whole. -/
theorem not_whole_broken (g : Gap) : ¬(Token.broken g).Whole :=
  id

/-- A string that is not closed is no whole token. -/
theorem not_whole_stringToken {ending : StringEnd} (h : ending ≠ .closed) (pieces : List Piece) :
    ¬(stringToken pieces ending).Whole :=
  h

/-- What has been read of the token that is being read. -/
inductive Mode.Reads : Mode → List Char → Prop
  | start : Mode.Reads .start []
  | word {w : Char} {back rest : List Char} {token : Token} (h : Lexeme token (back ++ w :: rest)) :
      Mode.Reads (.word (w :: rest) token) back
  | number {part : NumberPart} {lit : NumberLit} {back : List Char} (h : PartText part lit back) :
      Mode.Reads (.number part lit) back
  | string {pieces : List Piece} {body : List Char} (h : StringBody pieces body) :
      Mode.Reads (.string pieces) ('"' :: body)
  | escape {pieces : List Piece} {body : List Char} (h : StringBody pieces body) :
      Mode.Reads (.escape pieces) ('"' :: body ++ ['\\'])
  | hex {pieces : List Piece} {body hs : List Char} {value : Nat} (h : StringBody pieces body)
      (hhex : HexText hs value) (hlength : hs.length < 4) :
      Mode.Reads (.hex pieces hs.length value) ('"' :: body ++ '\\' :: 'u' :: hs)
  | badHex {pieces : List Piece} {bytes : Nat} {back : List Char} :
      Mode.Reads (.badHex pieces bytes) back

/-- What has been read of a text: the text of some tokens and the beginning of another one, or
anything once a token is broken. -/
inductive LexState.Reads : LexState → List Char → Prop
  | reading {ts : List Token} {mode : Mode} {front back : List Char} (h : Lexed ts front)
      (hmode : mode.Reads back) : LexState.Reads ⟨ts.reverse, mode⟩ (front ++ back)
  | stopped {last : Token} {tokens : List Token} {cs : List Char} (h : ¬last.Whole) :
      LexState.Reads ⟨last :: tokens, .stopped⟩ cs

/-- What a character between tokens is. -/
theorem begin_cases (c : Char) :
    (∃ t, Json.begin c = (some t, .start) ∧ Lexeme t [c]) ∨
      (∃ mode, Json.begin c = (none, mode) ∧ mode.Reads [c]) ∨
      (isSpace c = true ∧ Json.begin c = (none, .start)) ∨
      Json.begin c = (some (.broken .stray), .stopped) := by
  unfold Json.begin
  split
  case h_7 => exact .inr (.inl ⟨_, rfl, .string .nil⟩)
  case h_8 => exact .inr (.inl ⟨_, rfl, .word .null⟩)
  case h_9 => exact .inr (.inl ⟨_, rfl, .word .true⟩)
  case h_10 => exact .inr (.inl ⟨_, rfl, .word .false⟩)
  case h_11 => exact .inr (.inl ⟨_, rfl, .number .sign⟩)
  case h_12 => exact .inr (.inl ⟨_, rfl, .number (.zero false)⟩)
  case h_13 hzero =>
    split
    · next hspace => exact .inr (.inr (.inl ⟨hspace, rfl⟩))
    split
    · next hdigit =>
      have hpart := @PartText.whole false c [] hdigit hzero (List.forall_mem_nil _)
      exact .inr (.inl ⟨_, rfl, .number hpart⟩)
    · exact .inr (.inr (.inr rfl))
  all_goals exact .inl ⟨_, rfl, by constructor⟩

section

variable {ts : List Token} {front : List Char}

/-- A text of tokens is what a lexer in front of the next one has read. -/
theorem Lexed.reads (h : Lexed ts front) : LexState.Reads ⟨ts.reverse, .start⟩ front := by
  simpa using LexState.Reads.reading h .start

/-- A lexeme behind a text of tokens has been read as one more token. -/
theorem Lexed.reads_token (h : Lexed ts front) {t : Token} {back : List Char} (ht : Lexeme t back) :
    LexState.Reads ⟨t :: ts.reverse, .start⟩ (front ++ back) := by
  simpa using (h.token ht).reads

/-- The first character of a token has been read behind a text of tokens. -/
theorem Lexed.reads_begin (h : Lexed ts front) (c : Char) :
    (LexState.begin ts.reverse c).Reads (front ++ [c]) := by
  unfold LexState.begin
  rcases begin_cases c with ⟨t, hbegin, ht⟩ | ⟨mode, hbegin, hmode⟩ | ⟨hspace, hbegin⟩ | hbegin
  · rw [hbegin]
    exact h.reads_token ht
  · rw [hbegin]
    exact .reading h hmode
  · rw [hbegin]
    exact (h.blank hspace).reads
  · rw [hbegin]
    exact .stopped (not_whole_broken _)

end

/-- What the lexer has read grows by the character that it takes. -/
theorem LexState.Reads.step {st : LexState} {cs : List Char} (h : st.Reads cs) (c : Char) :
    (st.step c).Reads (cs ++ [c]) := by
  cases h with
  | stopped h => exact .stopped h
  | @reading ts mode front back h hmode =>
    rw [List.append_assoc]
    cases hmode with
    | start => exact h.reads_begin c
    | @word w back rest token hword =>
      simp only [LexState.step]
      split
      · next hc =>
        subst hc
        cases rest with
        | nil => exact h.reads_token hword
        | cons next rest =>
          refine .reading h (.word ?_)
          rwa [List.append_assoc]
      · exact .stopped (not_whole_broken _)
    | @number part lit back hpart =>
      simp only [LexState.step]
      split
      · next hstep => exact .reading h (.number (hpart.step hstep))
      · next hstep =>
        have hnumber := hpart.numberText (NumberPart.complete_of_finished hstep)
        have hbegin := (h.token (.number hnumber)).reads_begin c
        rwa [List.reverse_append, List.append_assoc] at hbegin
      · exact .stopped (not_whole_broken _)
    | @string pieces body hbody =>
      simp only [LexState.step]
      split
      · next hc =>
        subst hc
        exact h.reads_token (.string hbody)
      split
      · next hc =>
        subst hc
        exact .reading h (.escape hbody)
      split
      · exact .stopped (not_whole_stringToken (by decide) _)
      · next hquote hbackslash hcontrol =>
        exact .reading h (.string (hbody.char hquote hbackslash hcontrol))
    | @escape pieces body hbody =>
      simp only [LexState.step]
      split
      · next hc =>
        subst hc
        have hmode : Mode.Reads (.hex pieces 0 0) ('"' :: body ++ ['\\', 'u']) :=
          .hex hbody .nil (by decide)
        rw [List.append_assoc]
        exact .reading h hmode
      split
      · next he =>
        rw [List.append_assoc]
        exact .reading h (.string (hbody.short he))
      · exact .stopped (not_whole_stringToken (by decide) _)
    | @hex pieces body hs value hbody hhex hlength =>
      simp only [LexState.step]
      rw [List.append_assoc]
      split
      · next d hd =>
        have hmore := hhex.digit hd
        have hcount : (hs ++ [c]).length = hs.length + 1 := by simp
        split
        · next hroom =>
          rw [← hcount]
          exact .reading h (.hex hbody hmore (by omega))
        · next hfull =>
          have hfour : (hs ++ [c]).length = 4 := by omega
          exact .reading h (.string (hbody.unit hmore hfour))
      · split
        · exact .reading h .badHex
        · exact .stopped (not_whole_stringToken (by decide) _)
    | badHex =>
      simp only [LexState.step]
      split
      · exact .reading h .badHex
      · exact .stopped (not_whole_stringToken (by decide) _)

/-- A lexer that has taken some characters has read them. -/
theorem reads_foldl (cs : List Char) : (cs.foldl LexState.step ⟨[], .start⟩).Reads cs := by
  induction cs using List.reverseRecOn with
  | nil => exact Lexed.nil.reads
  | append_singleton cs c ih =>
    rw [List.foldl_append]
    exact ih.step c

/-- The tokens at the end of a text are those of a text of the grammar, unless one is broken. -/
theorem LexState.Reads.finish {st : LexState} {cs : List Char} (h : st.Reads cs)
    (hwhole : ∀ t ∈ st.finish, t.Whole) : Lexed st.finish cs := by
  cases h with
  | stopped h => exact absurd (hwhole _ (by simp [LexState.finish])) h
  | @reading ts mode front back h hmode =>
    unfold LexState.finish at hwhole ⊢
    rw [List.reverse_reverse] at hwhole ⊢
    have hlast {t : Token} (ht : ∀ u ∈ ts ++ [t], u.Whole) : t.Whole := ht t (by simp)
    cases hmode with
    | start => simpa using h
    | number hpart =>
      dsimp only at hwhole ⊢
      split at hwhole
      · next hcomplete =>
        rw [if_pos hcomplete]
        exact h.token (.number (hpart.numberText hcomplete))
      · exact absurd (hlast hwhole) (not_whole_broken _)
    | word => exact absurd (hlast hwhole) (not_whole_broken _)
    | string | escape | hex | badHex =>
      exact absurd (hlast hwhole) (not_whole_stringToken (by decide) _)

/-- A text in which no token is broken is one of the grammar. -/
theorem lexed_tokens {cs : List Char} (h : ∀ t ∈ tokens cs, t.Whole) : Lexed (tokens cs) cs :=
  (reads_foldl cs).finish h

end BucketLifecycle.Json
