import Mathlib.Data.List.Chain
import BucketLifecycle.Json.Lexer

/-!
# The lexical grammar

Which text a token has is said here by a grammar (`Lexeme`): a word, a mark, a number of up to three
parts, or a literal between quotes with its escapes.  A text is a sequence of such lexemes with
blanks in front of, between and behind them (`Lexed`).

A number is the one lexeme that the lexer takes apart.  `PartText` says what has been read of it up
to each of its parts; a step from part to part keeps this (`PartText.step`), and in the other
direction the text of a number leads the lexer from part to part up to one behind which the number
may end (`NumberText.leadsTo`).
-/

set_option autoImplicit false

namespace BucketLifecycle.Json

/-! ### The grammar -/

/-- The digits in front of the point: a single zero, or digits that do not begin with one. -/
inductive WholeText : List Char → Prop
  | zero : WholeText ['0']
  | digits {d : Char} {ds : List Char} (hd : d.isDigit = true) (hzero : d ≠ '0')
      (hds : ∀ c ∈ ds, c.isDigit = true) : WholeText (d :: ds)

/-- A fraction, where there is one: a point and digits. -/
inductive FractionText : Option (List Char) → List Char → Prop
  | none : FractionText none []
  | some {ds : List Char} (h : Text.isNumeral ds = true) : FractionText (some ds) ('.' :: ds)

/-- The letter of an exponent, with its sign. -/
inductive ExponentMark : Bool → List Char → Prop
  | unsigned {e : Char} (he : e = 'e' ∨ e = 'E') : ExponentMark false [e]
  | plus {e : Char} (he : e = 'e' ∨ e = 'E') : ExponentMark false [e, '+']
  | minus {e : Char} (he : e = 'e' ∨ e = 'E') : ExponentMark true [e, '-']

/-- An exponent, where there is one: a letter, a sign or none, and digits. -/
inductive ExponentText : Option (Bool × List Char) → List Char → Prop
  | none : ExponentText none []
  | some {negative : Bool} {mark ds : List Char} (hmark : ExponentMark negative mark)
      (h : Text.isNumeral ds = true) : ExponentText (some (negative, ds)) (mark ++ ds)

def signText (negative : Bool) : List Char :=
  if negative then ['-'] else []

/-- The text of a number up to its exponent. -/
inductive MantissaText : NumberLit → List Char → Prop
  | parts {negative : Bool} {whole fs : List Char} {fraction : Option (List Char)}
      (hwhole : WholeText whole) (hfraction : FractionText fraction fs) :
      MantissaText ⟨negative, whole, fraction, none⟩ (signText negative ++ whole ++ fs)

/-- The text of a number. -/
inductive NumberText : NumberLit → List Char → Prop
  | parts {lit : NumberLit} {cs es : List Char} {exponent : Option (Bool × List Char)}
      (hmantissa : MantissaText lit cs) (hexponent : ExponentText exponent es) :
      NumberText { lit with exponent } (cs ++ es)

/-- Hexadecimal digits and the number that they spell. -/
inductive HexText : List Char → Nat → Prop
  | nil : HexText [] 0
  | digit {hs : List Char} {n d : Nat} {c : Char} (h : HexText hs n)
      (hc : Text.hexValue? c = some d) :
      HexText (hs ++ [c]) (16 * n + d)

/-- What stands between the quotes of a literal, and its pieces in reverse. -/
inductive StringBody : List Piece → List Char → Prop
  | nil : StringBody [] []
  | char {pieces : List Piece} {body : List Char} {c : Char} (h : StringBody pieces body)
      (hquote : c ≠ '"') (hbackslash : c ≠ '\\') (hcontrol : ¬c.toNat < 0x20) :
      StringBody (.char c :: pieces) (body ++ [c])
  | short {pieces : List Piece} {body : List Char} {c e : Char} (h : StringBody pieces body)
      (he : shortEscape? e = some c) : StringBody (.char c :: pieces) (body ++ ['\\', e])
  | unit {pieces : List Piece} {body hs : List Char} {n : Nat} (h : StringBody pieces body)
      (hhex : HexText hs n) (hlength : hs.length = 4) :
      StringBody (addUnit pieces n) (body ++ '\\' :: 'u' :: hs)

/-- The text of a token. -/
inductive Lexeme : Token → List Char → Prop
  | openList : Lexeme .openList ['[']
  | closeList : Lexeme .closeList [']']
  | openObject : Lexeme .openObject ['\x7b']
  | closeObject : Lexeme .closeObject ['\x7d']
  | comma : Lexeme .comma [',']
  | colon : Lexeme .colon [':']
  | null : Lexeme .null ['n', 'u', 'l', 'l']
  | true : Lexeme (.bool true) ['t', 'r', 'u', 'e']
  | false : Lexeme (.bool false) ['f', 'a', 'l', 's', 'e']
  | number {lit : NumberLit} {cs : List Char} (h : NumberText lit cs) : Lexeme (.number lit) cs
  | string {pieces : List Piece} {body : List Char} (h : StringBody pieces body) :
      Lexeme (.string ⟨pieces.reverse, .closed⟩) ('"' :: body ++ ['"'])

/-- The text of some tokens, with blanks wherever a token may begin or has ended. -/
inductive Lexed : List Token → List Char → Prop
  | nil : Lexed [] []
  | blank {ts : List Token} {cs : List Char} {c : Char} (h : Lexed ts cs) (hc : isSpace c = true) :
      Lexed ts (cs ++ [c])
  | token {ts : List Token} {cs ds : List Char} {t : Token} (h : Lexed ts cs) (ht : Lexeme t ds) :
      Lexed (ts ++ [t]) (cs ++ ds)

/-! ### Numbers -/

/-- What has been read of a number, up to and with a part of it. -/
inductive PartText : NumberPart → NumberLit → List Char → Prop
  | sign : PartText .sign ⟨true, [], none, none⟩ ['-']
  | zero (negative : Bool) :
      PartText .zero ⟨negative, ['0'], none, none⟩ (signText negative ++ ['0'])
  | whole {negative : Bool} {d : Char} {ds : List Char} (hd : d.isDigit = true) (hzero : d ≠ '0')
      (hds : ∀ c ∈ ds, c.isDigit = true) :
      PartText .whole ⟨negative, d :: ds, none, none⟩ (signText negative ++ d :: ds)
  | point {negative : Bool} {whole : List Char} (hwhole : WholeText whole) :
      PartText .point ⟨negative, whole, some [], none⟩ (signText negative ++ whole ++ ['.'])
  | fraction {negative : Bool} {whole ds : List Char} (hwhole : WholeText whole)
      (hds : Text.isNumeral ds = true) :
      PartText .fraction ⟨negative, whole, some ds, none⟩ (signText negative ++ whole ++ '.' :: ds)
  | mark {lit : NumberLit} {cs : List Char} {e : Char} (h : MantissaText lit cs)
      (he : e = 'e' ∨ e = 'E') :
      PartText .mark { lit with exponent := some (false, []) } (cs ++ [e])
  | markSign {lit : NumberLit} {cs : List Char} {negative : Bool} {e s : Char}
      (h : MantissaText lit cs) (hmark : ExponentMark negative [e, s]) :
      PartText .markSign { lit with exponent := some (negative, []) } (cs ++ [e, s])
  | exponent {lit : NumberLit} {cs mark ds : List Char} {negative : Bool}
      (h : MantissaText lit cs) (hmark : ExponentMark negative mark)
      (hds : Text.isNumeral ds = true) :
      PartText .exponent { lit with exponent := some (negative, ds) } (cs ++ (mark ++ ds))

/-- One digit is a numeral. -/
theorem isNumeral_singleton {d : Char} (hd : d.isDigit = true) : Text.isNumeral [d] = true := by
  simp [Text.isNumeral, hd]

/-- A numeral with one more digit behind it is a numeral. -/
theorem isNumeral_concat {ds : List Char} {d : Char} (hds : Text.isNumeral ds = true)
    (hd : d.isDigit = true) : Text.isNumeral (ds ++ [d]) = true := by
  simp_all [Text.isNumeral]

/-- A whole number is a mantissa. -/
theorem mantissaText_of_whole {whole : List Char} (negative : Bool) (h : WholeText whole) :
    MantissaText ⟨negative, whole, none, none⟩ (signText negative ++ whole) := by
  simpa using @MantissaText.parts negative _ _ _ h .none

section

variable {next : NumberPart} {lit after : NumberLit} {cs : List Char} {c : Char}

/-- Behind a mantissa a number goes on with the mark of an exponent only. -/
theorem PartText.behind_mantissa (h : MantissaText lit cs)
    (hstep : (if c = 'e' ∨ c = 'E' then .more .mark { lit with exponent := some (false, []) }
      else .finished) = NumberStep.more next after) : PartText next after (cs ++ [c]) := by
  split at hstep
  · next he =>
    cases hstep
    exact .mark h he
  · cases hstep

/-- Behind a whole number a number goes on with a point or the mark of an exponent. -/
theorem PartText.behind_whole {negative : Bool} {whole : List Char} (h : WholeText whole)
    (hlit : lit = ⟨negative, whole, none, none⟩)
    (hstep : (if c = '.' then .more .point { lit with fraction := some [] }
      else if c = 'e' ∨ c = 'E' then .more .mark { lit with exponent := some (false, []) }
      else .finished) = NumberStep.more next after) :
    PartText next after (signText negative ++ whole ++ [c]) := by
  subst hlit
  split at hstep
  · next hc =>
    cases hstep
    rw [hc]
    exact .point h
  · exact PartText.behind_mantissa (mantissaText_of_whole negative h) hstep

/-- A digit behind the mark begins an exponent. -/
theorem PartText.first_of_exponent {negative : Bool} {mark : List Char} (h : MantissaText lit cs)
    (hmark : ExponentMark negative mark) (hdigit : c.isDigit = true) :
    PartText .exponent { lit with exponent := some (negative, [c]) } (cs ++ mark ++ [c]) := by
  rw [List.append_assoc]
  exact .exponent h hmark (isNumeral_singleton hdigit)

/-- What has been read of a number grows by the character that it goes on with. -/
theorem PartText.step {part : NumberPart} (h : PartText part lit cs)
    (hstep : part.step lit c = .more next after) : PartText next after (cs ++ [c]) := by
  cases h with
  | sign =>
    simp only [NumberPart.step, beq_iff_eq] at hstep
    split at hstep
    · next hc =>
      cases hstep
      rw [hc]
      exact .zero true
    split at hstep
    · next hzero hdigit =>
      cases hstep
      exact @PartText.whole true c [] hdigit hzero (List.forall_mem_nil _)
    · cases hstep
  | zero negative =>
    simp only [NumberPart.step, beq_iff_eq, Bool.or_eq_true] at hstep
    split at hstep
    · cases hstep
    · exact .behind_whole .zero rfl hstep
  | @whole negative d ds hd hzero hds =>
    simp only [NumberPart.step, beq_iff_eq, Bool.or_eq_true] at hstep
    split at hstep
    · next hdigit =>
      cases hstep
      rw [List.append_assoc, List.cons_append]
      refine .whole hd hzero fun c hc => ?_
      rcases List.mem_append.1 hc with hc | hc
      · exact hds c hc
      · rwa [List.mem_singleton.1 hc]
    · exact .behind_whole (.digits hd hzero hds) rfl hstep
  | point hwhole =>
    simp only [NumberPart.step] at hstep
    split at hstep
    · next hdigit =>
      cases hstep
      rw [List.append_assoc]
      exact .fraction hwhole (isNumeral_singleton hdigit)
    · cases hstep
  | @fraction negative whole ds hwhole hds =>
    simp only [NumberPart.step, beq_iff_eq, Bool.or_eq_true] at hstep
    split at hstep
    · next hdigit =>
      cases hstep
      rw [List.append_assoc]
      exact .fraction hwhole (isNumeral_concat hds hdigit)
    · exact .behind_mantissa (.parts hwhole (.some hds)) hstep
  | @mark lit cs e hmantissa he =>
    simp only [NumberPart.step, beq_iff_eq] at hstep
    split at hstep
    · next hc =>
      cases hstep
      rw [hc, List.append_assoc]
      exact .markSign hmantissa (.plus he)
    split at hstep
    · next hc =>
      cases hstep
      rw [hc, List.append_assoc]
      exact .markSign hmantissa (.minus he)
    split at hstep
    · next hdigit =>
      cases hstep
      exact @PartText.first_of_exponent lit _ _ _ _ hmantissa (.unsigned he) hdigit
    · cases hstep
  | @markSign lit cs negative e s hmantissa hmark =>
    simp only [NumberPart.step] at hstep
    split at hstep
    · next hdigit =>
      cases hstep
      exact @PartText.first_of_exponent lit _ _ _ _ hmantissa hmark hdigit
    · cases hstep
  | @exponent lit cs mark ds negative hmantissa hmark hds =>
    simp only [NumberPart.step] at hstep
    split at hstep
    · next hdigit =>
      cases hstep
      rw [List.append_assoc, List.append_assoc]
      exact @PartText.exponent lit _ _ _ _ hmantissa hmark (isNumeral_concat hds hdigit)
    · cases hstep

end

/-- A number without an exponent that may end is a mantissa. -/
theorem PartText.mantissa {part : NumberPart} {lit : NumberLit} {cs : List Char}
    (h : PartText part lit cs) (hpart : part = .zero ∨ part = .whole ∨ part = .fraction) :
    MantissaText lit cs ∧ lit.exponent = none := by
  cases h with
  | zero negative => exact ⟨mantissaText_of_whole negative .zero, rfl⟩
  | whole hd hzero hds => exact ⟨mantissaText_of_whole _ (.digits hd hzero hds), rfl⟩
  | fraction hwhole hds => exact ⟨.parts hwhole (.some hds), rfl⟩
  | _ => simp at hpart

/-- A number may end behind the parts that make it complete. -/
theorem PartText.numberText {part : NumberPart} {lit : NumberLit} {cs : List Char}
    (h : PartText part lit cs) (hcomplete : part.complete = true) : NumberText lit cs := by
  have hplain (hpart : part = .zero ∨ part = .whole ∨ part = .fraction) : NumberText lit cs := by
    obtain ⟨hmantissa, hnone⟩ := h.mantissa hpart
    have htext := NumberText.parts hmantissa .none
    rwa [← hnone, List.append_nil] at htext
  cases h with
  | zero | whole | fraction => exact hplain (by simp)
  | exponent hmantissa hmark hds => exact .parts hmantissa (.some hmark hds)
  | _ => simp [NumberPart.complete] at hcomplete

/-- A character that goes on with no number. -/
def EndsNumber (c : Char) : Prop :=
  c.isDigit = false ∧ c ≠ '.' ∧ c ≠ 'e' ∧ c ≠ 'E'

instance (c : Char) : Decidable (EndsNumber c) :=
  inferInstanceAs (Decidable (_ ∧ _))

/-- A number that may end does so at a character that ends numbers. -/
theorem NumberPart.step_of_endsNumber {part : NumberPart} (h : part.complete = true)
    (lit : NumberLit) {c : Char} (hc : EndsNumber c) : part.step lit c = .finished := by
  obtain ⟨hdigit, hpoint, he, hE⟩ := hc
  cases part with
  | zero | whole | fraction | exponent =>
    simp [NumberPart.step, hdigit, hpoint, he, hE]
  | sign | point | mark | markSign => cases h

/-- Only a number that may end does so. -/
theorem NumberPart.complete_of_finished {part : NumberPart} {lit : NumberLit} {c : Char}
    (h : part.step lit c = .finished) : part.complete = true := by
  cases part with
  | zero | whole | fraction | exponent => rfl
  | sign | point | mark | markSign =>
    simp only [NumberPart.step] at h
    repeat' split at h
    all_goals cases h

/-- Wherever a token may begin, the text leads the lexer into a number. -/
def LeadsTo (cs : List Char) (part : NumberPart) (lit : NumberLit) : Prop :=
  ∀ tokens, cs.foldl LexState.step ⟨tokens, .start⟩ = ⟨tokens, .number part lit⟩

/-- A text that leads to a part of a number leads on with the next character. -/
theorem LeadsTo.more {cs : List Char} {part next : NumberPart} {lit after : NumberLit} {c : Char}
    (h : LeadsTo cs part lit) (hstep : part.step lit c = .more next after) :
    LeadsTo (cs ++ [c]) next after := by
  intro tokens
  rw [List.foldl_append, h tokens]
  simp [LexState.step, hstep]

/-- A part that takes digits takes any number of them. -/
theorem LeadsTo.digits {cs before ds : List Char} {part : NumberPart}
    {lit : List Char → NumberLit} (h : LeadsTo cs part (lit before))
    (hstep : ∀ ds d, d.isDigit = true → part.step (lit ds) d = .more part (lit (ds ++ [d])))
    (hds : ∀ c ∈ ds, c.isDigit = true) : LeadsTo (cs ++ ds) part (lit (before ++ ds)) := by
  induction ds generalizing cs before with
  | nil => simpa using h
  | cons d ds ih =>
    obtain ⟨hd, hds⟩ := List.forall_mem_cons.1 hds
    rw [List.append_cons cs, List.append_cons before]
    exact ih (h.more (hstep before d hd)) hds

/-- Digits, behind a part that takes the first of them. -/
theorem LeadsTo.numeral {cs ds : List Char} {part next : NumberPart} {start : NumberLit}
    {lit : List Char → NumberLit} (h : LeadsTo cs part start)
    (hfirst : ∀ d, d.isDigit = true → part.step start d = .more next (lit [d]))
    (hstep : ∀ ds d, d.isDigit = true → next.step (lit ds) d = .more next (lit (ds ++ [d])))
    (hds : Text.isNumeral ds = true) : LeadsTo (cs ++ ds) next (lit ds) := by
  cases ds with
  | nil => cases hds
  | cons d ds =>
    have hall : ∀ c ∈ d :: ds, c.isDigit = true := by simpa [Text.isNumeral] using hds
    obtain ⟨hd, hds⟩ := List.forall_mem_cons.1 hall
    rw [List.append_cons]
    exact (h.more (hfirst d hd)).digits hstep hds

/-- A digit is zero, or one of the nine others. -/
theorem digit_cases {c : Char} (h : c.isDigit = true) :
    c = '0' ∨ c ∈ ['1', '2', '3', '4', '5', '6', '7', '8', '9'] := by
  obtain ⟨hlo, hhi⟩ := Char.isDigit_iff_toNat.1 h
  have hcases : c.toNat = 48 ∨ c.toNat = 49 ∨ c.toNat = 50 ∨ c.toNat = 51 ∨ c.toNat = 52 ∨
      c.toNat = 53 ∨ c.toNat = 54 ∨ c.toNat = 55 ∨ c.toNat = 56 ∨ c.toNat = 57 := by
    have h0 : '0'.toNat = 48 := rfl
    have h9 : '9'.toNat = 57 := rfl
    omega
  rw [← Char.ofNat_toNat c]
  rcases hcases with h | h | h | h | h | h | h | h | h | h <;> rw [h] <;> decide

/-- A digit other than zero begins a whole number. -/
theorem begin_digit {d : Char} (hd : d.isDigit = true) (hzero : d ≠ '0') :
    Json.begin d = (none, .number .whole ⟨false, [d], none, none⟩) := by
  have hcases := (digit_cases hd).resolve_left hzero
  simp only [List.mem_cons, List.not_mem_nil, or_false] at hcases
  rcases hcases with rfl | rfl | rfl | rfl | rfl | rfl | rfl | rfl | rfl <;> rfl

/-- A first digit other than zero leads to a whole number, with a sign in front or without. -/
theorem leadsTo_firstDigit {d : Char} (hd : d.isDigit = true) (hzero : d ≠ '0')
    (negative : Bool) :
    LeadsTo (signText negative ++ [d]) .whole ⟨negative, [d], none, none⟩ := by
  intro tokens
  cases negative with
  | false =>
    show LexState.begin tokens d = _
    rw [LexState.begin, begin_digit hd hzero]
  | true =>
    show LexState.step ⟨tokens, .number .sign ⟨true, [], none, none⟩⟩ d = _
    simp only [LexState.step, NumberPart.step, hd, beq_iff_eq, hzero, if_true, if_false]

/-- A whole number leads to zero or to a whole number. -/
theorem WholeText.leadsTo {whole : List Char} (h : WholeText whole) (negative : Bool) :
    ∃ part, (part = .zero ∨ part = .whole) ∧
      LeadsTo (signText negative ++ whole) part ⟨negative, whole, none, none⟩ := by
  cases h with
  | zero =>
    refine ⟨.zero, .inl rfl, fun tokens => ?_⟩
    cases negative <;> rfl
  | @digits d ds hd hzero hds =>
    refine ⟨.whole, .inr rfl, ?_⟩
    rw [List.append_cons]
    refine @LeadsTo.digits _ [d] ds .whole (fun ds => ⟨negative, ds, none, none⟩)
      (leadsTo_firstDigit hd hzero negative) (fun ds c hc => ?_) hds
    simp only [NumberPart.step, hc, if_true]

/-- A mantissa leads to a part of a number that may end. -/
theorem MantissaText.leadsTo {lit : NumberLit} {cs : List Char} (h : MantissaText lit cs) :
    ∃ part, (part = .zero ∨ part = .whole ∨ part = .fraction) ∧ LeadsTo cs part lit := by
  obtain @⟨negative, whole, fs, fraction, hwhole, hfraction⟩ := h
  obtain ⟨part, hpart, hleads⟩ := hwhole.leadsTo negative
  cases hfraction with
  | none =>
    rw [List.append_nil]
    exact ⟨part, hpart.imp_right .inl, hleads⟩
  | @some ds hds =>
    have hpoint : part.step ⟨negative, whole, none, none⟩ '.' =
        .more .point ⟨negative, whole, some [], none⟩ := by
      rcases hpart with rfl | rfl <;> rfl
    refine ⟨.fraction, .inr (.inr rfl), ?_⟩
    rw [List.append_cons]
    refine @LeadsTo.numeral _ ds .point .fraction _ (fun ds => ⟨negative, whole, some ds, none⟩)
      (hleads.more hpoint) (fun d hd => ?_) (fun ds d hd => ?_) hds
    · simp only [NumberPart.step, hd, if_true]
      rfl
    · simp only [NumberPart.step, hd, if_true]
      rfl

/-- The mark of an exponent leads on from a mantissa. -/
theorem ExponentMark.leadsTo {negative : Bool} {mark cs : List Char} {part : NumberPart}
    {lit : NumberLit} (h : ExponentMark negative mark)
    (hpart : part = .zero ∨ part = .whole ∨ part = .fraction) (hleads : LeadsTo cs part lit) :
    ∃ next, (next = .mark ∨ next = .markSign) ∧
      LeadsTo (cs ++ mark) next { lit with exponent := some (negative, []) } := by
  have hletter {e : Char} (he : e = 'e' ∨ e = 'E') :
      LeadsTo (cs ++ [e]) .mark { lit with exponent := some (false, []) } := by
    refine hleads.more ?_
    rcases he with rfl | rfl <;> rcases hpart with rfl | rfl | rfl <;> rfl
  cases h with
  | unsigned he => exact ⟨.mark, .inl rfl, hletter he⟩
  | plus he =>
    rw [List.append_cons]
    exact ⟨.markSign, .inr rfl, (hletter he).more rfl⟩
  | minus he =>
    rw [List.append_cons]
    exact ⟨.markSign, .inr rfl, (hletter he).more rfl⟩

/-- A mantissa has no exponent. -/
theorem MantissaText.exponent_eq_none {lit : NumberLit} {cs : List Char} (h : MantissaText lit cs) :
    lit.exponent = none := by
  cases h
  rfl

/-- The text of a number leads to a part behind which the number may end. -/
theorem NumberText.leadsTo {lit : NumberLit} {cs : List Char} (h : NumberText lit cs) :
    ∃ part : NumberPart, part.complete = true ∧ LeadsTo cs part lit := by
  obtain @⟨lit, cs, es, exponent, hmantissa, hexponent⟩ := h
  obtain ⟨part, hpart, hleads⟩ := hmantissa.leadsTo
  cases hexponent with
  | none =>
    rw [← hmantissa.exponent_eq_none, List.append_nil]
    exact ⟨part, by rcases hpart with rfl | rfl | rfl <;> rfl, hleads⟩
  | @some negative mark ds hmark hds =>
    obtain ⟨next, hnext, hleads⟩ := hmark.leadsTo hpart hleads
    refine ⟨.exponent, rfl, ?_⟩
    rw [← List.append_assoc]
    refine @LeadsTo.numeral _ ds next .exponent _
      (fun ds => { lit with exponent := some (negative, ds) }) hleads (fun d hd => ?_)
      (fun ds d hd => ?_) hds
    · have hsign : d ≠ '+' ∧ d ≠ '-' := by
        constructor <;> (rintro rfl; cases hd)
      rcases hnext with rfl | rfl <;>
        simp [NumberPart.step, hd, hsign, NumberLit.addExponent]
    · simp [NumberPart.step, hd, NumberLit.addExponent]

end BucketLifecycle.Json
