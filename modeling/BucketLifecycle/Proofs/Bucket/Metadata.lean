import BucketLifecycle.Proofs.Bucket.Fields
import BucketLifecycle.Proofs.Bucket.SnapshotRoundTrip

/-!
# Metadata that is kept

A store answers a reading with an object, of which a snapshot is read, and the snapshot that
replaces it is written as an object again.  Of the members that a snapshot knows of, none is lost on
this way and none is made up, whatever lifecycle the snapshot is given in between (`KeepsMetadata`,
`Snapshot.keepsMetadata`).  A value may be spelled otherwise than it was read: what counts is what
it says.
-/

set_option autoImplicit false

namespace BucketLifecycle

open Json

/-! ### Labels -/

namespace Labels

/-- The new key finds the new value, and every other key what it found before. -/
theorem find?_insertEntry (key value name : String) (entries : List (String × String)) :
    (insertEntry key value entries).find? (fun entry => entry.1 == name) =
      if key = name then some (key, value)
      else entries.find? fun entry => entry.1 == name := by
  induction entries with
  | nil => by_cases hname : key = name <;> simp [insertEntry, hname]
  | cons entry rest ih =>
    obtain ⟨k, v⟩ := entry
    unfold insertEntry
    split
    · by_cases hname : key = name <;> simp [hname]
    split
    · next heq =>
      subst heq
      by_cases hname : key = name <;> simp [hname]
    · next hne =>
      -- The new entry comes later, and no other one has its key.
      by_cases hk : k = name
      · have hname : key ≠ name := fun h => hne (h.trans hk.symm)
        rw [List.find?_cons_of_pos (by simpa using hk), if_neg hname,
          List.find?_cons_of_pos (by simpa using hk)]
      · rw [List.find?_cons_of_neg (by simpa using hk), ih,
          List.find?_cons_of_neg (by simpa using hk)]

/-- A label that is set is found under its key, and the others are found as before. -/
theorem get?_insert (labels : Labels) (key value name : String) :
    (labels.insert key value).get? name = if key = name then some value else labels.get? name := by
  unfold get? insert
  rw [find?_insertEntry]
  split <;> rfl

/-- The last of a list of labels is set after the others. -/
theorem ofList_concat (kvs : List (String × String)) (kv : String × String) :
    ofList (kvs ++ [kv]) = (ofList kvs).insert kv.1 kv.2 := by
  unfold ofList
  rw [List.foldl_append]
  rfl

/-- A label has the value that is given to it last. -/
theorem get?_ofList (kvs : List (String × String)) (name : String) :
    (ofList kvs).get? name = (kvs.reverse.find? fun kv => kv.1 == name).map Prod.snd := by
  induction kvs using List.reverseRecOn with
  | nil => rfl
  | append_singleton kvs kv ih =>
    rw [ofList_concat, get?_insert, List.reverse_concat, ih]
    by_cases hname : kv.1 = name <;> simp [hname]

/-- Labels that were made from some entry are not empty. -/
theorem isEmpty_ofList {kvs : List (String × String)} (h : kvs ≠ []) :
    (ofList kvs).isEmpty = false := by
  rw [Bool.eq_false_iff]
  intro hempty
  obtain ⟨front, kv, rfl⟩ := List.eq_nil_or_concat kvs |>.resolve_left h
  have hfound : (ofList (front ++ [kv])).get? kv.1 = some kv.2 := by
    rw [ofList_concat, get?_insert, if_pos rfl]
  rw [List.concat_eq_append] at hempty
  unfold get? at hfound
  rw [List.isEmpty_iff.1 hempty] at hfound
  cases hfound

/-- Labels are read from an object whose members are texts. -/
theorem decode_eq_ok {n : Node} {labels : Labels} (h : Labels.decode n = .ok labels) :
    ∃ members ending kvs, n = .object members ending ∧ ReadAs Decoder.string members kvs ∧
      labels = ofList kvs := by
  obtain ⟨kvs, hkvs, rfl⟩ := exists_of_map_eq_ok h
  obtain ⟨members, ending, rfl, hread⟩ := entries_eq_ok hkvs
  exact ⟨members, ending, kvs, rfl, hread, rfl⟩

/-- What is read as labels has the entries of the object. -/
theorem sound_decode : Sound Labels.decode fun n labels => n.HasEntries labels.get? := by
  intro n labels h
  obtain ⟨members, ending, kvs, rfl, hread, rfl⟩ := decode_eq_ok h
  refine ⟨members, ending, rfl, fun name => ?_⟩
  rw [get?_ofList]
  exact ReadAs.rel_findMember (List.forall₂_reverse_iff.2 hread) name

/-- Labels of which something is said are not empty. -/
theorem isEmpty_of_decode {n : Node} {labels : Labels} (h : Labels.decode n = .ok labels)
    (hvacuous : ¬ n.Vacuous) : labels.isEmpty = false := by
  obtain ⟨members, ending, kvs, rfl, hread, rfl⟩ := decode_eq_ok h
  refine isEmpty_ofList ?_
  rintro rfl
  cases hread
  exact hvacuous (.inr ⟨ending, rfl⟩)

end Labels

/-- What was read is read again from what it is written as. -/
def Rereads {α : Type} (encode : α → Node) (d : Decoder α) : Prop :=
  ∀ v a, d v = .ok a → d (encode a) = .ok a

/-- A value that is read back as itself is read again as itself. -/
theorem Json.Faithful.rereads {α : Type} {encode : α → Node} {d : Decoder α}
    (h : Faithful encode d) : Rereads encode d :=
  fun _ a _ => h.decode_encode a

/-- A text of a point in time. -/
def IsTime (n : Node) (t : Timestamp) : Prop :=
  ∃ s, n.IsText s ∧ Timestamp.read s.toList = .ok t

/-- What is read as a time is the time that the value says. -/
theorem Timestamp.sound_decode : Sound Timestamp.decode IsTime := by
  intro n t h
  obtain ⟨s, htext, hread⟩ := textAs_eq_ok h
  exact ⟨s, htext, eq_ok_of_mapError hread⟩

/-- A time that was read is proper, so it is read again as it is. -/
theorem Timestamp.rereads : Rereads Timestamp.encode Timestamp.decode := by
  intro v t h
  obtain ⟨s, -, hread⟩ := textAs_eq_ok h
  rw [decode_encode, settled_of_isProper (isProper_of_read (eq_ok_of_mapError hread))]

/-! ### Members -/

/-- A member of a bucket that a snapshot knows of, and when two values of it are the same. -/
structure MetadataMember where
  name : String
  same : Node → Node → Prop

/-- What a snapshot knows of a bucket, apart from its lifecycle. -/
def metadata : List MetadataMember :=
  [⟨"name", Agree Node.IsText⟩,
    ⟨"location", Agree Node.IsText⟩,
    ⟨"storageClass", Agree Node.IsText⟩,
    ⟨"labels", Agree fun n (labels : Labels) => n.HasEntries labels.get?⟩,
    ⟨"metageneration", Agree fun n (k : Int64) => n.IsWhole k.toInt⟩,
    ⟨"timeCreated", Agree IsTime⟩,
    ⟨"updated", Agree IsTime⟩]

/-- The members of an object that is written keep the metadata of one that was read: each member
that says something stands there with the same value, and none but the lifecycle is added. -/
structure KeepsMembers (read written : List (StringLit × Node)) : Prop where
  kept : ∀ m ∈ metadata, ∀ v, HasMember read m.name v → ¬ v.Vacuous →
    ∃ w, HasMember written m.name w ∧ m.same v w
  only : ∀ name w, HasMember written name w → name = "lifecycle" ∨
    ∃ m ∈ metadata, m.name = name ∧ ∃ v, HasMember read name v ∧ m.same v w
  once : ∀ name v w, HasMember written name v → HasMember written name w → v = w

/-- Where one text is that of an object, the other one is that of an object which keeps its
metadata. -/
def KeepsMetadata (read written : String) : Prop :=
  ∀ members ending, (Document.ofString read).root = .object members ending →
    ∃ kept, Document.ofString written = ⟨.object kept .closed, false⟩ ∧ KeepsMembers members kept

/-- What is read and written of one member. -/
structure Kept (same : Node → Node → Prop) (read written : Option Node) : Prop where
  kept : ∀ v, read = some v → ¬ v.Vacuous → ∃ w, written = some w ∧ same v w
  only : ∀ w, written = some w → ∃ v, read = some v ∧ same v w

section

variable {α : Type} {encode : α → Node} {d : Decoder α} {means : Node → α → Prop}
  {members : List (StringLit × Node)}

/-- What is read and written again means what it meant before. -/
theorem agree_of_decode (hrereads : Rereads encode d) (hsound : Sound d means) {v : Node} {a : α}
    (h : d v = .ok a) : Agree means v (encode a) :=
  ⟨a, hsound v a h, hsound _ a (hrereads v a h)⟩

/-- A member that must be given. -/
theorem kept_required (hrereads : Rereads encode d) (hsound : Sound d means) {name : String}
    {place : Nat} {a : α} (h : Fields.get ⟨name, place, d, none⟩ (.byName members) = .ok a) :
    Kept (Agree means) (findMember name members) (some (encode a)) := by
  rcases get_byName_eq_ok h with ⟨v, hfind, hdecode⟩ | ⟨-, habsent⟩
  · have hagree := agree_of_decode hrereads hsound hdecode
    dsimp only at hfind
    rw [hfind]
    constructor
    · rintro _ ⟨⟩ -
      exact ⟨_, rfl, hagree⟩
    · rintro _ ⟨⟩
      exact ⟨_, rfl, hagree⟩
  · cases habsent

/-- A member that may be missing or `null`, and is left out where it is. -/
theorem kept_option (hrereads : Rereads encode d) (hsound : Sound d means) {name : String}
    {place : Nat} {value : Option α}
    (h : Fields.get ⟨name, place, .option d, some none⟩ (.byName members) = .ok value) :
    Kept (Agree means) (findMember name members) (value.map encode) := by
  rcases get_byName_eq_ok h with ⟨v, hfind, hdecode⟩ | ⟨hfind, habsent⟩
  · dsimp only at hfind
    rw [hfind]
    rcases option_eq_ok hdecode with ⟨rfl, rfl⟩ | ⟨a, ha, rfl⟩
    · constructor
      · rintro _ ⟨⟩ hvacuous
        exact absurd (.inl rfl) hvacuous
      · exact nofun
    · have hagree := agree_of_decode hrereads hsound ha
      constructor
      · rintro _ ⟨⟩ -
        exact ⟨_, rfl, hagree⟩
      · rintro _ ⟨⟩
        exact ⟨_, rfl, hagree⟩
  · dsimp only at hfind
    cases habsent
    rw [hfind]
    exact ⟨nofun, nofun⟩

end

namespace Snapshot

/-- Labels that are read and written again keep their meaning; none are written as no member. -/
theorem kept_labels {members : List (StringLit × Node)} {labels : Labels}
    (h : Fields.get labelsField (.byName members) = .ok labels) :
    Kept (Agree fun n (labels : Labels) => n.HasEntries labels.get?) (findMember "labels" members)
      (if labels.isEmpty then none else some labels.encode) := by
  rcases get_byName_eq_ok h with ⟨v, hfind, hdecode⟩ | ⟨hfind, habsent⟩
  · have hagree := agree_of_decode Labels.faithful.rereads Labels.sound_decode hdecode
    rw [show findMember "labels" members = some v from hfind]
    constructor
    · rintro _ ⟨⟩ hvacuous
      rw [Labels.isEmpty_of_decode hdecode hvacuous]
      exact ⟨_, rfl, hagree⟩
    · intro w hw
      split at hw
      · cases hw
      · cases hw
        exact ⟨_, rfl, hagree⟩
  · cases habsent
    rw [show findMember "labels" members = none from hfind]
    exact ⟨nofun, nofun⟩

/-- The fields of a snapshot apart from its lifecycle, as they are written. -/
def metadataSlots (s : Snapshot) : List Slot :=
  s.slots.filter fun slot => slot.field.name != "lifecycle"

/-- The metadata is all of a snapshot but its lifecycle. -/
theorem mem_metadataSlots {s : Snapshot} {slot : Slot} :
    slot ∈ s.metadataSlots ↔ slot ∈ s.slots ∧ slot.field.name ≠ "lifecycle" := by
  rw [metadataSlots, List.mem_filter, bne_iff_ne]

/-- Whatever lifecycle a snapshot is given, its metadata is written as it was read. -/
theorem kept_metadataSlots {members : List (StringLit × Node)} {ending : ObjectEnd} {s : Snapshot}
    (h : Snapshot.decode (.object members ending) = .ok s) (lifecycle : Lifecycle) :
    List.Forall₂
      (fun m slot => slot.field.name = m.name ∧
        Kept m.same (findMember m.name members) slot.value)
      metadata (s.withLifecycle lifecycle).metadataSlots := by
  obtain ⟨-, -, hread⟩ := decode_object_eq_ok_iff.1 h
  have hint64 := sound_int64Text 1
  exact .cons ⟨rfl, kept_required faithful_text.rereads sound_string hread.name⟩ <|
    .cons ⟨rfl, kept_option faithful_text.rereads sound_string hread.location⟩ <|
    .cons ⟨rfl, kept_option faithful_text.rereads sound_string hread.storageClass⟩ <|
    .cons ⟨rfl, kept_labels hread.labels⟩ <|
    .cons ⟨rfl, kept_option (faithful_int64 1).rereads hint64 hread.metageneration⟩ <|
    .cons ⟨rfl, kept_option Timestamp.rereads Timestamp.sound_decode hread.timeCreated⟩ <|
    .cons ⟨rfl, kept_option Timestamp.rereads Timestamp.sound_decode hread.updated⟩ .nil

/-- A member of the object that a snapshot is written as stands in one of its slots. -/
theorem exists_slot {s : Snapshot} {name : String} {w : Node}
    (h : HasMember (slotMembers s.slots) name w) :
    ∃ slot ∈ s.slots, slot.field.name = name ∧ slot.value = some w := by
  obtain ⟨key, hmem, hname⟩ := h
  obtain ⟨⟨k, v⟩, hslots, heq⟩ := List.mem_map.1 hmem
  obtain ⟨slot, hslot, hmember⟩ := List.mem_flatMap.1 hslots
  obtain ⟨n, hn, hpair⟩ := Option.map_eq_some_iff.1 (Option.mem_toList.1 hmember)
  cases hpair
  cases heq
  rw [StringLit.text_ofString] at hname
  exact ⟨slot, hslot, Except.ok.inj hname, hn⟩

/-- A slot with a value is a member of the object that is written. -/
theorem hasMember_of_slot {s : Snapshot} {slot : Slot} (h : slot ∈ s.slots) {w : Node}
    (hvalue : slot.value = some w) : HasMember (slotMembers s.slots) slot.field.name w := by
  refine hasMember_of_findMember ?_
  rw [findMember_slotMembers s.distinctNames h, hvalue]

/-- Whatever lifecycle a snapshot is given, the members that it was read from are kept. -/
theorem keepsMembers {members : List (StringLit × Node)} {ending : ObjectEnd} {s : Snapshot}
    (h : Snapshot.decode (.object members ending) = .ok s) (lifecycle : Lifecycle) :
    KeepsMembers members (slotMembers (s.withLifecycle lifecycle).slots) := by
  obtain ⟨hread, hwritten⟩ := exists_of_forall₂ (kept_metadataSlots h lifecycle)
  have hnames := (s.withLifecycle lifecycle).distinctNames
  constructor
  · intro m hm v hv hvacuous
    obtain ⟨slot, hmetadata, hname, hkept⟩ := hread m hm
    have hslot : slot ∈ (s.withLifecycle lifecycle).slots := (mem_metadataSlots.1 hmetadata).1
    -- The fields that are read are those that are written, and the member belongs to one of them.
    have hfield : slot.field ∈ checks := List.mem_map_of_mem hslot
    obtain ⟨-, hadmissible, -⟩ := decode_object_eq_ok_iff.1 h
    rw [← hname] at hv hkept
    have hfind := (findMember_eq_some_iff hadmissible.distinct hfield).2 hv
    obtain ⟨w, hw, hsame⟩ := hkept.kept v hfind hvacuous
    rw [← hname]
    exact ⟨w, hasMember_of_slot hslot hw, hsame⟩
  · -- Whatever is written comes from a field, and all but the lifecycle have been read.
    intro name w hw
    obtain ⟨slot, hslot, rfl, hvalue⟩ := exists_slot hw
    refine or_iff_not_imp_left.2 fun hother => ?_
    obtain ⟨m, hm, hname, hkept⟩ := hwritten slot (mem_metadataSlots.2 ⟨hslot, hother⟩)
    obtain ⟨v, hv, hsame⟩ := hkept.only w hvalue
    rw [hname]
    exact ⟨m, hm, rfl, v, hasMember_of_findMember hv, hsame⟩
  · intro name v w hv hw
    obtain ⟨slot, hslot, rfl, hvalue⟩ := exists_slot hv
    obtain ⟨other, hother, hname, hvalue'⟩ := exists_slot hw
    have hfirst := findMember_slotMembers hnames hslot
    have hsecond := findMember_slotMembers hnames hother
    rw [hname, hfirst, hvalue, hvalue'] at hsecond
    exact Option.some.inj hsecond

/-- The text of a snapshot that was read from an object keeps the metadata of that object, whatever
its lifecycle is replaced by. -/
theorem keepsMetadata {text : String} {s : Snapshot} (h : Snapshot.ofText text = .ok s)
    (lifecycle : Lifecycle) : KeepsMetadata text (s.withLifecycle lifecycle).toText := by
  intro members ending hroot
  obtain ⟨found, hdecode, hfound⟩ := exists_of_bind_eq_ok h
  rw [hroot] at hdecode
  obtain rfl : found = s := by
    split at hfound
    · cases hfound
    · exact Except.ok.inj hfound
  refine ⟨_, ?_, keepsMembers hdecode lifecycle⟩
  have hplain := (found.withLifecycle lifecycle).plain_encode
  rw [toText, Document.ofString_text hplain, encode_eq]
  rfl

end Snapshot

end BucketLifecycle
