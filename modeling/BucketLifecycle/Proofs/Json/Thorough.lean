import BucketLifecycle.Proofs.Json.Members

/-!
# Decoders that walk over the whole value

A decoder is `Thorough` if it accepts no value in which the text leaves the grammar.  Texts, numbers
and truth values have such decoders, and lists, objects and records have them where the values that
they hold do (`TakenFrom.complete`).  What a thorough decoder reads from a text is thus the value of
a text of the grammar (`Decoder.spelledBy_of_run`).
-/

set_option autoImplicit false

namespace BucketLifecycle.Json

/-- The decoder accepts complete values only. -/
def Thorough {α : Type} (d : Decoder α) : Prop :=
  ∀ n a, d n = .ok a → n.Complete

section

variable {α : Type} {d : Decoder α}

/-- Pieces are put together only where their string is closed. -/
theorem closed_of_joined {ending : StringEnd} {pieces : List Piece} {cs : List Char}
    (h : Piece.joined ending pieces = .ok cs) : ending = .closed := by
  fun_induction Piece.joined ending pieces generalizing cs with
  | case1 =>
    obtain ⟨⟨⟩, hend, -⟩ := exists_of_map_eq_ok h
    exact StringEnd.error?_eq_none_iff.1 (orFail_eq_ok_iff.1 hend)
  | case2 c rest ih =>
    obtain ⟨later, hlater, -⟩ := exists_of_map_eq_ok h
    exact ih hlater
  | case7 u v rest _ ih =>
    obtain ⟨later, hlater, -⟩ := exists_of_map_eq_ok h
    exact ih hlater
  | _ => cases h

/-- Only a closed string has a text. -/
theorem StringLit.closed_of_text {s : StringLit} {t : String} (h : s.text = .ok t) :
    s.ending = .closed := by
  obtain ⟨cs, hcs, -⟩ := exists_of_map_eq_ok h
  exact closed_of_joined hcs

/-- A text in some form leaves nothing incomplete. -/
theorem thorough_textAs (expected : String) (read : String → Except String α) :
    Thorough (Decoder.textAs expected read) := by
  intro n a h
  obtain ⟨s, ⟨lit, rfl, htext⟩, -⟩ := textAs_eq_ok h
  exact .string (StringLit.closed_of_text htext)

/-- A text leaves nothing incomplete. -/
theorem thorough_string : Thorough Decoder.string :=
  thorough_textAs _ _

/-- A truth value leaves nothing incomplete. -/
theorem thorough_boolean : Thorough Decoder.boolean := by
  intro n b h
  unfold Decoder.boolean at h
  split at h
  · exact .bool _
  · exact absurd h (unexpected_ne_ok _ _ _)

/-- A bounded number leaves nothing incomplete. -/
theorem thorough_natBelow (bound : Nat) (expected : String) :
    Thorough (Decoder.natBelow bound expected) := by
  intro n k h
  unfold Decoder.natBelow at h
  split at h
  · exact .number _
  · exact absurd h (unexpected_ne_ok _ _ _)

/-- A number of 32 bits leaves nothing incomplete. -/
theorem thorough_uint32 : Thorough Decoder.uint32 := by
  intro n k h
  obtain ⟨m, hm, -⟩ := exists_of_map_eq_ok h
  exact thorough_natBelow _ _ n m hm

/-- A number of 64 bits or its text leaves nothing incomplete. -/
theorem thorough_int64Text (depth : Nat) : Thorough (Decoder.int64Text depth) := by
  intro n k h
  cases int64Text_eq_ok_iff.1 h with
  | natural | negative => exact .number _
  | text hchars => exact .string (closed_of_joined hchars)

/-- A value that may be missing leaves nothing incomplete where the value does not. -/
theorem thorough_option (h : Thorough d) : Thorough (Decoder.option d) := by
  intro n value hread
  rcases option_eq_ok hread with ⟨rfl, -⟩ | ⟨a, ha, -⟩
  · exact .null
  · exact h n a ha

/-- A list leaves nothing incomplete where its items do not. -/
theorem thorough_list (h : Thorough d) : Thorough (Decoder.list d) := by
  have hitems {items : List Node} {as : List α} (hread : Decoder.items d items = .ok as) :
      ∀ item ∈ items, item.Complete := by
    induction items generalizing as with
    | nil => exact List.forall_mem_nil _
    | cons item rest ih =>
      obtain ⟨a, ha, hrest⟩ := exists_of_bind_eq_ok hread
      obtain ⟨later, hlater, -⟩ := exists_of_bind_eq_ok hrest
      exact List.forall_mem_cons.2 ⟨h item a ha, ih hlater⟩
  intro n as hread
  unfold Decoder.list at hread
  split at hread
  · obtain ⟨read, hread, hlist⟩ := exists_of_bind_eq_ok hread
    rw [bind_unit_eq_ok_iff, liftGrammar_eq_ok_iff, orFail_eq_ok_iff] at hlist
    exact complete_list_iff.2 ⟨hitems hread, ListEnd.reading_eq_none_iff.1 hlist.1⟩
  · exact absurd hread (unexpected_ne_ok _ _ _)

/-- Entries leave nothing incomplete where their values do not. -/
theorem thorough_entries (h : Thorough d) : Thorough (Decoder.entries d) := by
  intro n kvs hread
  unfold Decoder.entries at hread
  split at hread
  · obtain ⟨read, hread, hmap⟩ := exists_of_bind_eq_ok hread
    rw [bind_unit_eq_ok_iff, liftGrammar_eq_ok_iff, orFail_eq_ok_iff] at hmap
    refine complete_object_iff.2 ⟨fun member hmember => ?_, ObjectEnd.reading_eq_none_iff.1 hmap.1⟩
    obtain ⟨kv, -, hkey, hvalue⟩ := (exists_of_forall₂ (members_eq_ok hread)).1 member hmember
    exact ⟨StringLit.closed_of_text hkey, h _ _ hvalue⟩
  · exact absurd hread (unexpected_ne_ok _ _ _)

/-! ### Records -/

/-- The item at a place, where a record is a list. -/
def Fields.item? : Fields → Nat → Option Node
  | .byName _, _ => none
  | .byPlace items _ _, place => items[place]?

/-- What a field was read from passes its check. -/
theorem check_of_get {f : RecordField α} {fields : Fields} {a : α} (h : fields.get f = .ok a)
    {v : Node} (hv : fields.item? f.place = some v) : f.toCheck.check v = .ok () := by
  cases fields with
  | byName members => cases hv
  | byPlace items ending expected =>
    refine check_eq_ok_iff.2 ⟨a, ?_⟩
    have hitem : items[f.place]? = some v := hv
    simpa only [Fields.get, hitem] using h

/-- What passes the check of a thorough field is complete. -/
theorem Thorough.check {f : RecordField α} (h : Thorough f.decode) (v : Node)
    (hcheck : f.toCheck.check v = .ok ()) : v.Complete := by
  obtain ⟨a, ha⟩ := check_eq_ok_iff.1 hcheck
  exact h v a ha

/-- A member that is accepted is complete. -/
theorem Accepts.complete {checks : List FieldCheck} {member : StringLit × Node}
    (h : Accepts checks member) (hchecks : ∀ f ∈ checks, ∀ v, f.check v = .ok () → v.Complete) :
    member.1.ending = .closed ∧ member.2.Complete := by
  cases h with
  | field hkey hfind hcheck =>
    exact ⟨StringLit.closed_of_text hkey, hchecks _ (List.mem_of_find?_eq_some hfind) _ hcheck⟩
  | other hkey _ hvalue => exact ⟨StringLit.closed_of_text hkey, hvalue⟩

/-- A list of fields is finished where it has no more items than fields and is closed. -/
theorem finish_byPlace_eq_ok_iff {count : Nat} {items : List Node} {ending : ListEnd}
    {expected : String} :
    (Fields.byPlace items ending expected).finish count = .ok () ↔
      items.length ≤ count ∧ ending = .closed := by
  unfold Fields.finish
  dsimp only
  split
  · next hmore => exact ⟨nofun, fun h => absurd h.1 (Nat.not_le.2 hmore)⟩
  · next hfew =>
    rw [liftGrammar_eq_ok_iff, orFail_eq_ok_iff]
    split
    · rw [ListEnd.finishing_eq_none_iff]
      exact (and_iff_right (Nat.not_lt.1 hfew)).symm
    · rw [ListEnd.reading_eq_none_iff]
      exact (and_iff_right (Nat.not_lt.1 hfew)).symm

/-- A record is complete if its fields are, and each item of a list is that of a field. -/
theorem TakenFrom.complete {record : String} {checks : List FieldCheck} {n : Node} {fields : Fields}
    (h : TakenFrom record checks n fields)
    (hchecks : ∀ f ∈ checks, ∀ v, f.check v = .ok () → v.Complete)
    (hplaces : ∀ (place : Nat) (f : FieldCheck) (v : Node), checks[place]? = some f →
      fields.item? place = some v → f.check v = .ok ()) : n.Complete := by
  cases h with
  | object hmembers =>
    exact complete_object_iff.2 ⟨fun m hm => (hmembers.accepts m hm).complete hchecks, rfl⟩
  | @list items ending expected _ hfinish =>
    obtain ⟨hlength, rfl⟩ := finish_byPlace_eq_ok_iff.1 hfinish
    refine .list fun v hv => ?_
    obtain ⟨place, hbound, hitem⟩ := List.mem_iff_getElem.1 hv
    have hfield : checks[place]? = some checks[place] := List.getElem?_eq_getElem _
    have hplace : items[place]? = some v := by rw [List.getElem?_eq_getElem hbound, hitem]
    exact hchecks _ (List.mem_of_getElem? hfield) v (hplaces place _ v hfield hplace)

/-- What is read from a text by a thorough decoder is the value of a text of the grammar. -/
theorem Decoder.spelledBy_of_run (hthorough : Thorough d) {text : String} {a : α}
    (h : d.run text = .ok a) :
    (Document.ofString text).root.SpelledBy text ∧ d (Document.ofString text).root = .ok a := by
  obtain ⟨b, hdecode, hend⟩ := exists_of_bind_eq_ok h
  split at hend
  · cases hend
  · next htrailing =>
    cases hend
    refine ⟨spelledBy_iff.2 ⟨hthorough _ _ hdecode, ?_⟩, hdecode⟩
    generalize Document.ofString text = document at htrailing
    obtain ⟨root, trailing⟩ := document
    have hnone : trailing = false := Bool.eq_false_iff.2 htrailing
    rw [hnone]

end

end BucketLifecycle.Json
