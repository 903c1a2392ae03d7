import Mathlib
import BucketLifecycle.Json.Decode
import BucketLifecycle.Proofs.Json.Writing

/-!
# Values that are read back

An encoding is `Faithful` to a decoder that finds in the tree of each value that very value. Texts,
numbers, truth values and lists of such values have faithful encodings.

A record is faithful when its fields are.  What is written of it is a list of slots, one for each
field, some of them empty; `record_recordNode` says that reading then comes to what the fields
hold, whichever of them were left out, so a record of many optional fields needs no case analysis
over them.
-/

set_option autoImplicit false

namespace BucketLifecycle.Json

/-- The decoder reads every value back from its tree, which is never `null`. -/
structure Faithful {α : Type} (encode : α → Node) (d : Decoder α) : Prop where
  decode_encode : ∀ a, d (encode a) = .ok a
  plain : ∀ a, (encode a).Plain
  ne_null : ∀ a, encode a ≠ .null

section

variable {α : Type} {encode : α → Node} {d : Decoder α}

/-- A value that is not missing is read as itself. -/
theorem option_of_ne_null {n : Node} (h : n ≠ .null) : Decoder.option d n = (d n).map some := by
  unfold Decoder.option
  split
  · exact absurd rfl h
  · rfl

/-- A value that is there is read back as one that may be missing. -/
theorem Faithful.option (h : Faithful encode d) (a : α) :
    Decoder.option d (encode a) = .ok (some a) := by
  rw [option_of_ne_null (h.ne_null a), h.decode_encode]
  rfl

/-- A text in some form is read back from its literal. -/
theorem textAs_ofString {expected : String} {read : String → Except String α} {s : String} {a : α}
    (h : read s = .ok a) : Decoder.textAs expected read (.ofString s) = .ok a := by
  simp [Decoder.textAs, Node.ofString, liftGrammar, Except.mapError, h, bind, Except.bind]

/-- Texts are read back as themselves. -/
theorem faithful_ofString : Faithful Node.ofString Decoder.string where
  decode_encode _ := textAs_ofString rfl
  plain := .string
  ne_null _ := nofun

/-- Truth values are read back as themselves. -/
theorem faithful_bool : Faithful Node.bool Decoder.boolean where
  decode_encode _ := rfl
  plain := .bool
  ne_null _ := nofun

/-- A number below the bound is read back. -/
theorem natBelow_ofNat {bound n : Nat} (expected : String) (hbound : n < bound)
    (hword : n < UInt64.size) : Decoder.natBelow bound expected (.ofNat n) = .ok n := by
  have hvalue : NumberLit.value ⟨false, Nat.toDigits 10 n, none, none⟩ =
      .ok (.natural (UInt64.ofNat n)) := by
    have hdigits := Text.digitsValue_writeNat n
    unfold Text.writeNat at hdigits
    simp [NumberLit.value, hdigits, hword]
  simp [Decoder.natBelow, Node.ofNat, hvalue, UInt64.toNat_ofNat_of_lt' hword, hbound, liftGrammar,
    Except.mapError, bind, Except.bind, pure, Except.pure]

/-- Numbers of 32 bits are read back as themselves. -/
theorem faithful_uint32 : Faithful (fun n : UInt32 => Node.ofNat n.toNat) Decoder.uint32 where
  decode_encode n := by
    have hsize : n.toNat < UInt32.size := n.toNat_lt
    have hread := natBelow_ofNat "u32" hsize (Nat.lt_trans hsize (by decide))
    simp [Decoder.uint32, hread, Except.map]
  plain n := .natural n.toNat
  ne_null _ := nofun

/-- Numbers of 64 bits are read back as themselves. -/
theorem faithful_uint64 : Faithful (fun n : UInt64 => Node.ofNat n.toNat) Decoder.uint64 where
  decode_encode n := by
    have hsize : n.toNat < UInt64.size := n.toNat_lt
    have hread := natBelow_ofNat "u64" hsize hsize
    simp [Decoder.uint64, hread, Except.map]
  plain n := .natural n.toNat
  ne_null _ := nofun

/-- Items are read back as themselves where each value is. -/
theorem Faithful.items (h : Faithful encode d) (as : List α) :
    Decoder.items d (as.map encode) = .ok as := by
  induction as with
  | nil => rfl
  | cons a as ih =>
    simp [Decoder.items, h.decode_encode, ih, bind, Except.bind, pure, Except.pure]

/-- Lists are read back as themselves where each value is. -/
theorem Faithful.list (h : Faithful encode d) :
    Faithful (fun as => Node.ofItems (as.map encode)) (Decoder.list d) where
  decode_encode as := by
    simp [Decoder.list, Node.ofItems, h.items, ListEnd.reading, orFail, liftGrammar,
      Except.mapError, bind, Except.bind, pure, Except.pure]
  plain as := by
    refine .list fun item hitem => ?_
    obtain ⟨a, -, rfl⟩ := List.mem_map.1 hitem
    exact h.plain a
  ne_null _ := nofun

/-- Entries are read back as themselves where each value is. -/
theorem Faithful.members (h : Faithful encode d) (kvs : List (String × α)) :
    Decoder.members d ((kvs.map fun (k, v) => (k, encode v)).map fun (k, v) => (.ofString k, v)) =
      .ok kvs := by
  induction kvs with
  | nil => rfl
  | cons kv kvs ih =>
    simp only [List.map_cons, Decoder.members, StringLit.text_ofString, h.decode_encode, ih,
      liftGrammar, Except.mapError, bind, Except.bind, pure, Except.pure]

end

section

/-! ### Records -/

/-- A field of a record with what is written of it, where anything is. -/
structure Slot where
  field : FieldCheck
  value : Option Node

/-- What is written passes the field's check and is plain. -/
def Slot.Passes (slot : Slot) : Prop :=
  ∀ n, slot.value = some n → slot.field.check n = .ok () ∧ n.Plain

/-- What a slot is written as: a member, or nothing. -/
def Slot.members (slot : Slot) : List (String × Node) :=
  (slot.value.map fun n => (slot.field.name, n)).toList

/-- The field is read as a value from what is written, or has it where nothing is. -/
structure RecordField.Fills {α : Type} (f : RecordField α) (value : Option Node) (a : α) :
    Prop where
  decode_eq : ∀ n, value = some n → f.decode n = .ok a
  plain : ∀ n, value = some n → n.Plain
  absent_eq : value = none → f.absent = some a

section

variable {α : Type} {f : RecordField α}

/-- What a field is read back from passes its check. -/
theorem RecordField.Fills.passes {value : Option Node} {a : α} (h : f.Fills value a) :
    Slot.Passes ⟨f.toCheck, value⟩ := by
  intro n hn
  refine ⟨?_, h.plain n hn⟩
  simp [RecordField.toCheck, h.decode_eq n hn, Except.map]

/-- A field that is always written. -/
theorem fills_some {n : Node} {a : α} (h : f.decode n = .ok a) (hplain : n.Plain) :
    f.Fills (some n) a where
  decode_eq := by
    rintro _ ⟨⟩
    exact h
  plain := by
    rintro _ ⟨⟩
    exact hplain
  absent_eq := nofun

/-- A field that is left out where it has its usual value. -/
theorem fills_none {a : α} (h : f.absent = some a) : f.Fills none a where
  decode_eq := nofun
  plain := nofun
  absent_eq _ := h

/-- A field that may be left out, and then has its usual value. -/
theorem fills_unless {n : Node} {a usual : α} (isDropped : Bool) (h : f.decode n = .ok a)
    (hplain : n.Plain) (habsent : f.absent = some usual) :
    f.Fills (if isDropped then none else some n) (if isDropped then usual else a) := by
  cases isDropped with
  | true => exact fills_none habsent
  | false => exact fills_some h hplain

/-- A field that is left out where it has no value, and whose values may be settled to others when
they are read back. -/
theorem fills_settled {encode : α → Node} {d : Decoder α} {settle : α → α}
    (hread : ∀ a, d (encode a) = .ok (settle a)) (hplain : ∀ a, (encode a).Plain)
    (hnull : ∀ a, encode a ≠ .null) (name : String) (place : Nat) (value : Option α) :
    RecordField.Fills ⟨name, place, .option d, some none⟩ (value.map encode)
      (value.map settle) := by
  cases value with
  | none => exact fills_none rfl
  | some a =>
    refine fills_some ?_ (hplain a)
    dsimp only
    rw [option_of_ne_null (hnull a), hread]
    rfl

/-- A field that is left out where it has no value. -/
theorem fills_option {encode : α → Node} {d : Decoder α} (h : Faithful encode d) (name : String)
    (place : Nat) (value : Option α) :
    RecordField.Fills ⟨name, place, .option d, some none⟩ (value.map encode) value := by
  have hfills := @fills_settled α encode d id h.decode_encode h.plain h.ne_null name place value
  rwa [Option.map_id_fun, id_eq] at hfills

end

/-- A member that is left out under some condition, as a slot. -/
theorem unlessMember_eq {α : Type} (f : RecordField α) (b : Bool) (n : Node) :
    (if b then [] else [(f.name, n)]) =
      Slot.members ⟨f.toCheck, if b then none else some n⟩ := by
  cases b <;> rfl

/-- The members that some slots are written as. -/
def slotMembers (slots : List Slot) : List (StringLit × Node) :=
  (slots.flatMap Slot.members).map fun (k, v) => (.ofString k, v)

/-- A slot without a value is no member. -/
theorem slotMembers_cons_none {slot : Slot} (h : slot.value = none) (rest : List Slot) :
    slotMembers (slot :: rest) = slotMembers rest := by
  simp [slotMembers, Slot.members, h]

/-- A slot with a value is a member under the name of its field. -/
theorem slotMembers_cons_some {slot : Slot} {n : Node} (h : slot.value = some n)
    (rest : List Slot) :
    slotMembers (slot :: rest) = (.ofString slot.field.name, n) :: slotMembers rest := by
  simp [slotMembers, Slot.members, h]

/-- No two of the slots belong to fields of one name. -/
abbrev DistinctNames (slots : List Slot) : Prop :=
  slots.Pairwise fun s t => s.field.name ≠ t.field.name

/-- The field of a slot is found by its name. -/
theorem find?_field {slots : List Slot} (hnames : DistinctNames slots) {slot : Slot}
    (hslot : slot ∈ slots) :
    (slots.map Slot.field).find? (fun f => f.name == slot.field.name) = some slot.field := by
  induction slots with
  | nil => exact absurd hslot List.not_mem_nil
  | cons s rest ih =>
    obtain ⟨hs, hrest⟩ := List.pairwise_cons.1 hnames
    rw [List.map_cons]
    rcases List.mem_cons.1 hslot with rfl | hslot
    · exact List.find?_cons_of_pos (beq_self_eq_true _)
    · rw [List.find?_cons_of_neg (by simpa using hs slot hslot)]
      exact ih hrest hslot

/-- What is written of the slots passes the first reading of a record.  The induction goes over the
slots that are still to be read; those before them are `seen`. -/
theorem checkMembers_slotMembers {slots : List Slot} (hnames : DistinctNames slots)
    (hpasses : ∀ s ∈ slots, s.Passes) {rest : List Slot} (hsub : ∀ s ∈ rest, s ∈ slots)
    (hrest : DistinctNames rest) {seen : List String} (hseen : ∀ s ∈ rest, s.field.name ∉ seen) :
    checkMembers (slots.map Slot.field) seen (slotMembers rest) = .ok () := by
  induction rest generalizing seen with
  | nil => rfl
  | cons slot rest ih =>
    obtain ⟨hslot, hrest⟩ := List.pairwise_cons.1 hrest
    obtain ⟨hmem, hsub⟩ := List.forall_mem_cons.1 hsub
    obtain ⟨hnew, hseen⟩ := List.forall_mem_cons.1 hseen
    cases hvalue : slot.value with
    | none =>
      rw [slotMembers_cons_none hvalue]
      exact ih hsub hrest hseen
    | some n =>
      rw [slotMembers_cons_some hvalue]
      unfold checkMembers
      simp only [StringLit.text_ofString, liftGrammar, Except.mapError, bind, Except.bind,
        find?_field hnames hmem, List.contains_eq_mem, hnew, (hpasses slot hmem n hvalue).1,
        decide_false, Bool.false_eq_true, if_false]
      refine ih hsub hrest fun s hs hold => ?_
      rcases List.mem_cons.1 hold with heq | hold
      · exact hslot s hs heq.symm
      · exact hseen s hs hold

/-- A name that no slot has is not among the members. -/
theorem findMember_of_absent {slots : List Slot} {name : String}
    (h : ∀ s ∈ slots, name ≠ s.field.name) : findMember name (slotMembers slots) = none := by
  induction slots with
  | nil => rfl
  | cons slot rest ih =>
    obtain ⟨hslot, hrest⟩ := List.forall_mem_cons.1 h
    cases hvalue : slot.value with
    | none =>
      rw [slotMembers_cons_none hvalue]
      exact ih hrest
    | some n =>
      rw [slotMembers_cons_some hvalue]
      simp only [findMember, StringLit.text_ofString, hslot.symm, if_false]
      exact ih hrest

/-- Under the name of a slot stands its value, and nothing where it has none. -/
theorem findMember_slotMembers {slots : List Slot} (hnames : DistinctNames slots) {slot : Slot}
    (hslot : slot ∈ slots) : findMember slot.field.name (slotMembers slots) = slot.value := by
  induction slots with
  | nil => exact absurd hslot List.not_mem_nil
  | cons s rest ih =>
    obtain ⟨hs, hrest⟩ := List.pairwise_cons.1 hnames
    rcases List.mem_cons.1 hslot with rfl | hslot
    · cases hvalue : slot.value with
      | none =>
        rw [slotMembers_cons_none hvalue]
        exact findMember_of_absent hs
      | some n =>
        rw [slotMembers_cons_some hvalue]
        simp [findMember]
    · cases hvalue : s.value with
      | none =>
        rw [slotMembers_cons_none hvalue]
        exact ih hrest hslot
      | some n =>
        rw [slotMembers_cons_some hvalue]
        simp only [findMember, StringLit.text_ofString, hs slot hslot, if_false]
        exact ih hrest hslot

/-- The record that the slots are written as. -/
def recordNode (slots : List Slot) : Node :=
  .ofMembers (slots.flatMap Slot.members)

/-- A record that was written is accepted, and its fields are taken by name. -/
theorem record_recordNode {α : Type} {name : String} {build : Fields → Except DecodeError α}
    {slots : List Slot} (hnames : DistinctNames slots) (hpasses : ∀ s ∈ slots, s.Passes) :
    Decoder.record name (slots.map Slot.field) build (recordNode slots) =
      build (.byName (slotMembers slots)) := by
  show Decoder.record name _ build (.object (slotMembers slots) .closed) = _
  have hcheck : checkMembers (slots.map Slot.field) [] (slotMembers slots) = .ok () :=
    checkMembers_slotMembers hnames hpasses (fun _ h => h) hnames fun _ _ => List.not_mem_nil
  simp only [Decoder.record, hcheck, ObjectEnd.reading, orFail, liftGrammar, Except.mapError,
    bind, Except.bind]

/-- A field is read back from the members of the record. -/
theorem get_slotMembers {α : Type} {f : RecordField α} {value : Option Node} {a : α}
    {slots : List Slot} (hnames : DistinctNames slots) (hslot : ⟨f.toCheck, value⟩ ∈ slots)
    (hfills : f.Fills value a) : Fields.get f (.byName (slotMembers slots)) = .ok a := by
  have hfind : findMember f.name (slotMembers slots) = value :=
    findMember_slotMembers hnames hslot
  simp only [Fields.get, hfind]
  cases value with
  | none => simp [hfills.absent_eq rfl]
  | some n => exact hfills.decode_eq n rfl

/-- A record is written as a tree that can be read back from its text. -/
theorem plain_recordNode {slots : List Slot} (hpasses : ∀ s ∈ slots, s.Passes) :
    (recordNode slots).Plain := by
  refine .object fun member hmember => ?_
  obtain ⟨slot, hslot, hvalue⟩ := List.mem_flatMap.1 hmember
  obtain ⟨n, hn, rfl⟩ := Option.map_eq_some_iff.1 (Option.mem_toList.1 hvalue)
  exact (hpasses slot hslot n hn).2

end

end BucketLifecycle.Json
