import BucketLifecycle.Json.Decode
import BucketLifecycle.Json.Writer
import BucketLifecycle.Proofs.Json.Grammar

/-!
# Reading back what was written

A tree that holds no break, only whole numbers and no halves of characters is `Plain`; every tree
that this library writes is.  What is written of it is a text of the grammar that spells the tree
(`Node.Plain.spelledBy`), so it is read back as that very tree.
-/

set_option autoImplicit false

namespace BucketLifecycle.Json

/-- The trees that the library writes. -/
inductive Node.Plain : Node → Prop where
  | null : Node.Plain .null
  | bool (b : Bool) : Node.Plain (.bool b)
  | number (n : Int) : Node.Plain (.ofInt n)
  | string (s : String) : Node.Plain (.ofString s)
  | list {items : List Node} (h : ∀ item ∈ items, item.Plain) : Node.Plain (.ofItems items)
  | object {members : List (String × Node)} (h : ∀ member ∈ members, member.2.Plain) :
    Node.Plain (.ofMembers members)

/-- A natural number is plain. -/
theorem Node.Plain.natural (n : Nat) : (Node.ofNat n).Plain := by
  have h : Node.ofNat n = Node.ofInt n := by
    simp [Node.ofNat, Node.ofInt]
  rw [h]
  exact .number n

/-- Plain values are complete. -/
theorem Node.Plain.complete {n : Node} (h : n.Plain) : n.Complete := by
  induction h with
  | null => exact .null
  | bool b => exact .bool b
  | number n => exact .number _
  | string s => exact .string rfl
  | list _ ih => exact .list ih
  | object _ ih =>
    refine .object (fun member hmember => ?_) fun member hmember => ?_
    · obtain ⟨entry, -, rfl⟩ := List.mem_map.1 hmember
      rfl
    · obtain ⟨entry, hentry, rfl⟩ := List.mem_map.1 hmember
      exact ih entry hentry

/-! ### Literals -/

/-- The digits of a number are a whole number of the grammar. -/
theorem wholeText_toDigits (n : Nat) : WholeText (Nat.toDigits 10 n) := by
  induction n using Nat.strongRecOn with
  | ind n ih =>
    by_cases hsmall : n < 10
    · rw [Nat.toDigits_of_lt_base hsmall]
      have hdigit : ∀ n < 10, Nat.digitChar n = '0' ∨
          (Nat.digitChar n).isDigit = true ∧ Nat.digitChar n ≠ '0' := by decide
      rcases hdigit n hsmall with h | ⟨hd, hzero⟩
      · rw [h]
        exact .zero
      · exact .digits hd hzero (List.forall_mem_nil _)
    · have hdigits := Nat.toDigits_of_base_le (b := 10) (n := n) (by decide) (by omega)
      have hlast : (Nat.digitChar (n % 10)).isDigit = true :=
        Nat.isDigit_of_mem_toDigits (by decide) (by decide) (hdigits ▸ List.mem_concat_self)
      have hfront := ih (n / 10) (by omega)
      generalize hds : Nat.toDigits 10 (n / 10) = front at hfront hdigits
      rw [hdigits]
      cases hfront with
      | zero =>
        -- A number from ten on has no zero in front.
        have hten := Nat.ofDigitChars_toDigits (b := 10) (n := n / 10) (by decide) (by decide)
        rw [hds] at hten
        have hzero : Nat.ofDigitChars 10 ['0'] 0 = 0 := rfl
        omega
      | digits hd hzero hrest =>
        refine .digits hd hzero fun c hc => ?_
        rcases List.mem_append.1 hc with hc | hc
        · exact hrest c hc
        · rwa [List.mem_singleton.1 hc]

/-- A whole number is written as its lexeme. -/
theorem lexeme_write_number (negative : Bool) (n : Nat) :
    Lexeme (.number ⟨negative, Nat.toDigits 10 n, none, none⟩)
      (NumberLit.write ⟨negative, Nat.toDigits 10 n, none, none⟩) :=
  .number (.parts (.parts (wholeText_toDigits n) .none) .none)

/-- A hexadecimal digit has the value that it is written for. -/
theorem hexValue?_hexChar : ∀ n, n < 16 → Text.hexValue? (hexChar n) = some n := by
  decide

/-- The four digits of a unit. -/
theorem hexText_unit {n : Nat} (hn : n < 0x10000) :
    HexText [hexChar (n / 0x1000 % 16), hexChar (n / 0x100 % 16), hexChar (n / 0x10 % 16),
      hexChar (n % 16)] n := by
  have hdigit (m : Nat) : Text.hexValue? (hexChar (m % 16)) = some (m % 16) :=
    hexValue?_hexChar _ (Nat.mod_lt _ (by decide))
  have htext := HexText.nil |>.digit (hdigit (n / 0x1000)) |>.digit (hdigit (n / 0x100))
    |>.digit (hdigit (n / 0x10)) |>.digit (hdigit n)
  have hvalue : 16 * (16 * (16 * (16 * 0 + n / 0x1000 % 16) + n / 0x100 % 16) + n / 0x10 % 16) +
      n % 16 = n := by omega
  rwa [hvalue] at htext

/-- The number of a character is that of no half of a character. -/
theorem addUnit_toNat {c : Char} (cs : List Char) (hc : c.toNat < 0x20) :
    addUnit (cs.map .char) c.toNat = (c :: cs).map .char := by
  have hhalf : (isLeading c.toNat || isTrailing c.toNat) = false := by
    simp only [isLeading, isTrailing, Bool.or_eq_false_iff, Bool.and_eq_false_iff,
      decide_eq_false_iff_not]
    omega
  cases cs <;> simp [addUnit, hhalf, Char.ofNat_toNat]

/-- A character is written so that it is read as itself behind those before it. -/
theorem stringBody_escapeChar {cs body : List Char} (h : StringBody (cs.map .char) body)
    (c : Char) :
    StringBody ((c :: cs).map .char) (body ++ escapeChar c) := by
  unfold escapeChar
  split
  · next hc =>
    subst hc
    exact h.short rfl
  split
  · next hc =>
    subst hc
    exact h.short rfl
  split
  · next hc =>
    subst hc
    exact h.short rfl
  split
  · next hc =>
    subst hc
    exact h.short rfl
  split
  · next hc =>
    subst hc
    exact h.short rfl
  split
  · next hc =>
    subst hc
    exact h.short rfl
  split
  · next hc =>
    subst hc
    exact h.short rfl
  split
  · next hcontrol =>
    rw [← addUnit_toNat cs hcontrol]
    exact h.unit (hexText_unit (by omega)) rfl
  · next hquote hbackslash _ _ _ _ _ hcontrol => exact h.char hquote hbackslash hcontrol

/-- Characters are written as the body of the string that they make. -/
theorem stringBody_write (cs : List Char) :
    StringBody (cs.reverse.map .char) ((cs.map Piece.char).flatMap Piece.write) := by
  induction cs using List.reverseRecOn with
  | nil => exact .nil
  | append_singleton cs c ih =>
    rw [List.map_append, List.flatMap_append, List.reverse_concat]
    simpa [Piece.write] using stringBody_escapeChar ih c

/-- A text is written as its lexeme. -/
theorem lexeme_write_string (s : String) :
    Lexeme (.string (.ofString s)) (StringLit.ofString s).write := by
  have hlexeme := Lexeme.string (stringBody_write s.toList)
  rwa [← List.map_reverse, List.reverse_reverse] at hlexeme

/-! ### Trees -/

/-- One lexeme is a text of one token. -/
theorem Lexeme.lexed {t : Token} {cs : List Char} (h : Lexeme t cs) : Lexed [t] cs :=
  Lexed.nil.token h

/-- Two texts of tokens after each other are the text of all those tokens. -/
theorem Lexed.append {ts us : List Token} {cs ds : List Char} (h : Lexed ts cs)
    (hds : Lexed us ds) : Lexed (ts ++ us) (cs ++ ds) := by
  induction hds with
  | nil => simpa using h
  | blank _ hc ih =>
    rw [← List.append_assoc]
    exact ih.blank hc
  | token _ ht ih =>
    rw [← List.append_assoc, ← List.append_assoc]
    exact ih.token ht

/-- Items are written as a text of their tokens. -/
theorem lexed_items {items : List Node} (h : ∀ item ∈ items, Lexed item.tokens item.write) :
    Lexed (Node.itemTokens items) (Node.writeItems items) := by
  induction items with
  | nil =>
    unfold Node.itemTokens Node.writeItems
    exact .nil
  | cons item rest ih =>
    obtain ⟨hitem, hrest⟩ := List.forall_mem_cons.1 h
    cases rest with
    | nil =>
      unfold Node.itemTokens Node.writeItems
      exact hitem
    | cons next rest =>
      unfold Node.itemTokens Node.writeItems
      exact hitem.append (Lexeme.comma.lexed.append (ih hrest))

/-- Members are written as a text of their tokens. -/
theorem lexed_members {members : List (String × Node)}
    (h : ∀ member ∈ members, Lexed member.2.tokens member.2.write) :
    Lexed (Node.memberTokens (members.map fun (k, v) => (.ofString k, v)))
      (Node.writeMembers (members.map fun (k, v) => (.ofString k, v))) := by
  have hmember (key : String) {value : Node} (hvalue : Lexed value.tokens value.write) :
      Lexed (.string (.ofString key) :: .colon :: value.tokens)
        ((StringLit.ofString key).write ++ ':' :: value.write) :=
    (lexeme_write_string key).lexed.append (Lexeme.colon.lexed.append hvalue)
  induction members with
  | nil =>
    rw [List.map_nil]
    unfold Node.memberTokens Node.writeMembers
    exact .nil
  | cons member rest ih =>
    obtain ⟨hvalue, hrest⟩ := List.forall_mem_cons.1 h
    cases rest with
    | nil =>
      rw [List.map_cons, List.map_nil]
      unfold Node.memberTokens Node.writeMembers
      exact hmember member.1 hvalue
    | cons next rest =>
      rw [List.map_cons, List.map_cons]
      unfold Node.memberTokens Node.writeMembers
      have hcomma := Lexeme.comma.lexed.append (ih hrest)
      simpa using (hmember member.1 hvalue).append hcomma

/-- A plain value is written as a text of its tokens. -/
theorem Node.Plain.lexed {n : Node} (h : n.Plain) : Lexed n.tokens n.write := by
  induction h with
  | null =>
    unfold Node.tokens Node.write
    exact Lexeme.null.lexed
  | bool b =>
    cases b with
    | true =>
      unfold Node.tokens Node.write
      exact Lexeme.true.lexed
    | false =>
      unfold Node.tokens Node.write
      exact Lexeme.false.lexed
  | number n =>
    unfold Node.ofInt Node.tokens Node.write
    exact (lexeme_write_number _ _).lexed
  | string s =>
    unfold Node.ofString Node.tokens Node.write
    exact (lexeme_write_string s).lexed
  | list _ ih =>
    unfold Node.ofItems Node.tokens Node.write
    exact (Lexeme.openList.lexed.append (lexed_items ih)).token .closeList
  | object _ ih =>
    unfold Node.ofMembers Node.tokens Node.write
    exact (Lexeme.openObject.lexed.append (lexed_members ih)).token .closeObject

/-- A decoder finds in a text what it finds in the tree that the text spells. -/
theorem Decoder.run_of_spelledBy {α : Type} (d : Decoder α) {n : Node} {text : String}
    (h : n.SpelledBy text) : d.run text = d n := by
  unfold Decoder.run
  rw [(spelledBy_iff.1 h).2]
  cases hd : d n <;> simp [Decoder.document, hd, bind, Except.bind, pure, Except.pure]

/-- The text of a plain value spells it. -/
theorem Node.Plain.spelledBy {n : Node} (h : n.Plain) : n.SpelledBy n.text where
  complete := h.complete
  lexed := by
    unfold Node.text
    rw [String.toList_ofList]
    exact h.lexed

/-- The text of a plain tree is read as that tree. -/
theorem Document.ofString_text {n : Node} (h : n.Plain) :
    Document.ofString n.text = ⟨n, false⟩ :=
  (spelledBy_iff.1 h.spelledBy).2

/-- From the text of a plain value is decoded what is decoded from the value. -/
theorem Decoder.run_text {α : Type} (d : Decoder α) {n : Node} (h : n.Plain) :
    d.run n.text = d n :=
  d.run_of_spelledBy h.spelledBy

end BucketLifecycle.Json
