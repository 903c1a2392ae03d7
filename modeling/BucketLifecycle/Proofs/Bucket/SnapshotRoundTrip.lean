import BucketLifecycle.Client.Basic
import BucketLifecycle.Proofs.Json.Record
import BucketLifecycle.Proofs.Text.Utf8
import BucketLifecycle.Proofs.Timestamp.RoundTrip

/-!
# Bucket metadata read back from its text

A snapshot is read back from the text that it is written as: no member that was left out is missed,
and none that was written is changed, but for times with a leap second that is not proper
(`snapshot_roundTrip`).  Such a time has the text of the plain second behind it, so no reader can
tell the two apart, and that second is read back (`Snapshot.settled`).

Each other part of a snapshot has an encoding that is `Faithful`.  For a record this takes the list
of its slots, what fills each of them, and that the record is written as these slots.
-/

set_option autoImplicit false

namespace BucketLifecycle

open Json

/-! ### Values -/

/-- Texts are read back as themselves. -/
theorem faithful_text : Faithful encodeText Decoder.string := faithful_ofString

/-- Counts of 32 bits are read back as themselves. -/
theorem faithful_count : Faithful encodeUInt32 Decoder.uint32 := faithful_uint32

/-- A time is read back as what it is settled to. -/
theorem Timestamp.decode_encode (t : Timestamp) : Timestamp.decode t.encode = .ok t.settled :=
  textAs_ofString (by simp [Timestamp.read_write, Except.mapError])

/-- A time that may be missing is read back settled. -/
theorem Timestamp.fills_option (name : String) (place : Nat) (value : Option Timestamp) :
    RecordField.Fills ⟨name, place, .option Timestamp.decode, some none⟩
      (value.map Timestamp.encode) (value.map Timestamp.settled) :=
  fills_settled Timestamp.decode_encode (fun _ => .string _) (fun _ => nofun) name place value

/-- A generation is read back at whatever depth there is room for a text. -/
theorem faithful_int64 (depth : Nat) : Faithful encodeInt64 (Decoder.int64Text depth) where
  decode_encode n := by
    have hread : Text.readInt64 (Text.writeInt n.toInt) = .ok n.toInt :=
      Text.readBounded_writeInt (Int64.le_toInt n) (Int.le_sub_one_of_lt (Int64.toInt_lt n))
    simp [Decoder.int64Text, encodeInt64, Node.ofString, Node.readAny, StringLit.ofString, hread,
      liftGrammar, Except.mapError, Except.map, StringLit.text, bind, Except.bind, pure,
      Except.pure]
  plain _ := .string _
  ne_null _ := nofun

namespace Labels

/-- A key above all others goes to the end. -/
theorem insertEntry_of_lt {key value : String} {entries : List (String × String)}
    (h : ∀ entry ∈ entries, entry.1 < key) :
    insertEntry key value entries = entries ++ [(key, value)] := by
  induction entries with
  | nil => rfl
  | cons entry rest ih =>
    obtain ⟨hentry, hrest⟩ := List.forall_mem_cons.1 h
    have hnlt : ¬ key < entry.1 := String.lt_asymm hentry
    have hne : key ≠ entry.1 := fun heq => String.lt_irrefl _ (heq ▸ hentry)
    simp [insertEntry, hnlt, hne, ih hrest]

/-- Entries that are in order stay as they are. -/
theorem entries_foldl_insert (rest : List (String × String)) (labels : Labels)
    (h : KeySorted (labels.entries ++ rest)) :
    (rest.foldl (fun labels entry => labels.insert entry.1 entry.2) labels).entries =
      labels.entries ++ rest := by
  induction rest generalizing labels with
  | nil => simp
  | cons entry rest ih =>
    have hlast : insertEntry entry.1 entry.2 labels.entries = labels.entries ++ [entry] :=
      insertEntry_of_lt fun before hbefore =>
        (List.pairwise_append.1 h).2.2 before hbefore entry (List.mem_cons_self ..)
    have hinsert : (labels.insert entry.1 entry.2).entries = labels.entries ++ [entry] := hlast
    rw [List.foldl_cons, ih _ (by rw [hinsert]; simpa using h), hinsert]
    simp

/-- Labels are made again from their entries. -/
theorem ofList_entries (labels : Labels) : ofList labels.entries = labels := by
  have h := entries_foldl_insert labels.entries empty labels.sorted
  obtain ⟨entries, sorted⟩ := labels
  unfold ofList
  generalize List.foldl _ empty entries = read at h
  cases read
  cases h
  rfl

/-- Labels are read back as themselves. -/
theorem faithful : Faithful Labels.encode Labels.decode where
  decode_encode labels := by
    have hmembers := faithful_text.members labels.entries
    simp only [Labels.decode, Labels.encode, Decoder.entries, Node.ofMembers, hmembers,
      ObjectEnd.reading, orFail, liftGrammar, Except.mapError, Except.map, bind, Except.bind, pure,
      Except.pure, ofList_entries]
  plain labels := by
    refine .object fun member hmember => ?_
    obtain ⟨entry, -, rfl⟩ := List.mem_map.1 hmember
    exact .string entry.2
  ne_null _ := nofun

end Labels

/-! ### Records -/

/-- A record that is written as slots, each of which one of its fields is read from, is read back
where its decoder puts these fields together. -/
theorem faithful_record {α : Type} {name : String} {encode : α → Node}
    {build : Fields → Except DecodeError α} {checks : List FieldCheck} (slots : α → List Slot)
    (hchecks : ∀ a, (slots a).map Slot.field = checks) (hnames : ∀ a, DistinctNames (slots a))
    (hencode : ∀ a, encode a = recordNode (slots a)) (hpasses : ∀ a, ∀ s ∈ slots a, s.Passes)
    (hbuild : ∀ a, build (.byName (slotMembers (slots a))) = .ok a) :
    Faithful encode (Decoder.record name checks build) where
  decode_encode a := by
    rw [hencode, ← hchecks a, record_recordNode (hnames a) (hpasses a), hbuild]
  plain a := by
    rw [hencode]
    exact plain_recordNode (hpasses a)
  ne_null a := by
    rw [hencode]
    exact nofun

/-- A member that is left out when there is no value, as a slot. -/
theorem optionalMember_eq {α β : Type} (f : RecordField β) (encode : α → Node)
    (value : Option α) :
    optionalMember f.name encode value = Slot.members ⟨f.toCheck, value.map encode⟩ := by
  cases value <;> rfl

namespace RuleAction

/-- The fields of an action as they are written. -/
def slots (a : RuleAction) : List Slot :=
  [⟨typeField.toCheck, some (encodeText a.type)⟩,
    ⟨storageClassField.toCheck, a.storageClass.map encodeText⟩]

/-- The type of an action is read back. -/
theorem fills_type (a : RuleAction) : typeField.Fills (some (encodeText a.type)) a.type :=
  fills_some (faithful_text.decode_encode a.type) (.string a.type)

/-- The storage class of an action is read back. -/
theorem fills_storageClass (a : RuleAction) :
    storageClassField.Fills (a.storageClass.map encodeText) a.storageClass :=
  fills_option faithful_text _ _ a.storageClass

/-- An action is written as the record of its slots. -/
theorem encode_eq (a : RuleAction) : a.encode = recordNode a.slots := by
  unfold encode recordNode slots
  simp only [List.flatMap_cons, List.flatMap_nil,
    ← optionalMember_eq, List.append_nil]
  rfl

/-- Actions are read back as themselves. -/
theorem faithful : Faithful RuleAction.encode RuleAction.decode := by
  have hnames (a : RuleAction) : DistinctNames a.slots := by
    simp [DistinctNames, slots, typeField, storageClassField, RecordField.toCheck]
  refine faithful_record slots (fun _ => rfl) hnames encode_eq ?_ ?_
  · intro a
    simp only [slots, List.forall_mem_cons]
    exact ⟨a.fills_type.passes, a.fills_storageClass.passes, List.forall_mem_nil _⟩
  · intro a
    have htype := get_slotMembers (hnames a) (by simp [slots]) a.fills_type
    have hclass := get_slotMembers (hnames a) (by simp [slots]) a.fills_storageClass
    simp [htype, hclass, bind, Except.bind, pure, Except.pure]

end RuleAction

namespace RuleCondition

/-- The fields of a condition as they are written. -/
def slots (c : RuleCondition) : List Slot :=
  [⟨ageField.toCheck, c.age.map encodeUInt32⟩,
    ⟨createdBeforeField.toCheck, c.createdBefore.map encodeText⟩,
    ⟨isLiveField.toCheck, c.isLive.map Node.bool⟩,
    ⟨numNewerVersionsField.toCheck, c.numNewerVersions.map encodeUInt32⟩,
    ⟨matchesStorageClassField.toCheck, if c.matchesStorageClass.isEmpty then none
      else some (.ofItems (c.matchesStorageClass.map encodeText))⟩]

/-- The age of a condition is read back. -/
theorem fills_age (c : RuleCondition) : ageField.Fills (c.age.map encodeUInt32) c.age :=
  fills_option faithful_count _ _ c.age

/-- The date of a condition is read back. -/
theorem fills_createdBefore (c : RuleCondition) :
    createdBeforeField.Fills (c.createdBefore.map encodeText) c.createdBefore :=
  fills_option faithful_text _ _ c.createdBefore

/-- Whether a condition is about live objects is read back. -/
theorem fills_isLive (c : RuleCondition) : isLiveField.Fills (c.isLive.map Node.bool) c.isLive :=
  fills_option faithful_bool _ _ c.isLive

/-- The number of newer versions of a condition is read back. -/
theorem fills_numNewerVersions (c : RuleCondition) :
    numNewerVersionsField.Fills (c.numNewerVersions.map encodeUInt32) c.numNewerVersions :=
  fills_option faithful_count _ _ c.numNewerVersions

/-- The storage classes of a condition are read back, and none are not written. -/
theorem fills_matchesStorageClass (c : RuleCondition) :
    matchesStorageClassField.Fills (if c.matchesStorageClass.isEmpty then none
      else some (.ofItems (c.matchesStorageClass.map encodeText))) c.matchesStorageClass := by
  split
  · next hempty =>
    rw [List.isEmpty_iff.1 hempty]
    exact fills_none rfl
  · exact fills_some (faithful_text.list.decode_encode _) (faithful_text.list.plain _)

/-- A condition is written as the record of its slots. -/
theorem encode_eq (c : RuleCondition) : c.encode = recordNode c.slots := by
  unfold encode recordNode slots
  simp only [List.flatMap_cons, List.flatMap_nil,
    ← optionalMember_eq, ← unlessMember_eq, List.append_assoc, List.append_nil]
  rfl

/-- Conditions are read back as themselves. -/
theorem faithful : Faithful RuleCondition.encode RuleCondition.decode := by
  have hnames (c : RuleCondition) : DistinctNames c.slots := by
    simp [DistinctNames, slots, ageField, createdBeforeField, isLiveField, numNewerVersionsField,
      matchesStorageClassField, RecordField.toCheck]
  refine faithful_record slots (fun _ => rfl) hnames encode_eq ?_ ?_
  · intro c
    simp only [slots, List.forall_mem_cons]
    exact ⟨c.fills_age.passes, c.fills_createdBefore.passes, c.fills_isLive.passes,
      c.fills_numNewerVersions.passes, c.fills_matchesStorageClass.passes, List.forall_mem_nil _⟩
  · intro c
    have hage := get_slotMembers (hnames c) (by simp [slots]) c.fills_age
    have hcreated := get_slotMembers (hnames c) (by simp [slots]) c.fills_createdBefore
    have hlive := get_slotMembers (hnames c) (by simp [slots]) c.fills_isLive
    have hnewer := get_slotMembers (hnames c) (by simp [slots]) c.fills_numNewerVersions
    have hclasses := get_slotMembers (hnames c) (by simp [slots]) c.fills_matchesStorageClass
    simp [hage, hcreated, hlive, hnewer, hclasses, bind, Except.bind, pure, Except.pure]

end RuleCondition

namespace LifecycleRule

/-- The fields of a rule as they are written. -/
def slots (r : LifecycleRule) : List Slot :=
  [⟨actionField.toCheck, some r.action.encode⟩, ⟨conditionField.toCheck, some r.condition.encode⟩]

/-- The action of a rule is read back. -/
theorem fills_action (r : LifecycleRule) : actionField.Fills (some r.action.encode) r.action :=
  fills_some (RuleAction.faithful.decode_encode r.action) (RuleAction.faithful.plain r.action)

/-- The condition of a rule is read back. -/
theorem fills_condition (r : LifecycleRule) :
    conditionField.Fills (some r.condition.encode) r.condition :=
  fills_some (RuleCondition.faithful.decode_encode r.condition)
    (RuleCondition.faithful.plain r.condition)

/-- Rules are read back as themselves. -/
theorem faithful : Faithful LifecycleRule.encode LifecycleRule.decode := by
  have hnames (r : LifecycleRule) : DistinctNames r.slots := by
    simp [DistinctNames, slots, actionField, conditionField, RecordField.toCheck]
  refine faithful_record slots (fun _ => rfl) hnames (fun _ => rfl) ?_ ?_
  · intro r
    simp only [slots, List.forall_mem_cons]
    exact ⟨r.fills_action.passes, r.fills_condition.passes, List.forall_mem_nil _⟩
  · intro r
    have haction := get_slotMembers (hnames r) (by simp [slots]) r.fills_action
    have hcondition := get_slotMembers (hnames r) (by simp [slots]) r.fills_condition
    simp [haction, hcondition, bind, Except.bind, pure, Except.pure]

end LifecycleRule

namespace Lifecycle

/-- The one field of a lifecycle as it is written. -/
def slots (l : Lifecycle) : List Slot :=
  [⟨ruleField.toCheck, some (.ofItems (l.rules.map LifecycleRule.encode))⟩]

/-- The rules of a lifecycle are read back. -/
theorem fills_rule (l : Lifecycle) :
    ruleField.Fills (some (.ofItems (l.rules.map LifecycleRule.encode))) l.rules :=
  fills_some (LifecycleRule.faithful.list.decode_encode l.rules)
    (LifecycleRule.faithful.list.plain l.rules)

/-- Lifecycles are read back as themselves. -/
theorem faithful : Faithful Lifecycle.encode Lifecycle.decode := by
  have hnames (l : Lifecycle) : DistinctNames l.slots := List.pairwise_singleton ..
  refine faithful_record slots (fun _ => rfl) hnames (fun _ => rfl) ?_ ?_
  · intro l
    simp only [slots, List.forall_mem_cons]
    exact ⟨l.fills_rule.passes, List.forall_mem_nil _⟩
  · intro l
    have hrules := get_slotMembers (hnames l) (by simp [slots]) l.fills_rule
    simp [hrules, bind, Except.bind, pure, Except.pure]

end Lifecycle

namespace Snapshot

/-- The fields of a snapshot as they are written. -/
def slots (s : Snapshot) : List Slot :=
  [⟨nameField.toCheck, some (encodeText s.name)⟩,
    ⟨locationField.toCheck, s.location.map encodeText⟩,
    ⟨storageClassField.toCheck, s.storageClass.map encodeText⟩,
    ⟨labelsField.toCheck, if s.labels.isEmpty then none else some s.labels.encode⟩,
    ⟨lifecycleField.toCheck, if s.lifecycle.isEmpty then none else some s.lifecycle.encode⟩,
    ⟨metagenerationField.toCheck, s.metageneration.map encodeInt64⟩,
    ⟨timeCreatedField.toCheck, s.timeCreated.map Timestamp.encode⟩,
    ⟨updatedField.toCheck, s.updated.map Timestamp.encode⟩]

/-- The name of a bucket is read back. -/
theorem fills_name (s : Snapshot) : nameField.Fills (some (encodeText s.name)) s.name :=
  fills_some (faithful_text.decode_encode s.name) (.string s.name)

/-- The location of a bucket is read back. -/
theorem fills_location (s : Snapshot) :
    locationField.Fills (s.location.map encodeText) s.location :=
  fills_option faithful_text _ _ s.location

/-- The storage class of a bucket is read back. -/
theorem fills_storageClass (s : Snapshot) :
    storageClassField.Fills (s.storageClass.map encodeText) s.storageClass :=
  fills_option faithful_text _ _ s.storageClass

/-- The labels of a bucket are read back, and none are not written. -/
theorem fills_labels (s : Snapshot) :
    labelsField.Fills (if s.labels.isEmpty then none else some s.labels.encode) s.labels := by
  split
  · next hempty =>
    have husual : s.labels = .empty := by
      rw [← Labels.ofList_entries s.labels, List.isEmpty_iff.1 hempty]
      rfl
    rw [husual]
    exact fills_none rfl
  · exact fills_some (Labels.faithful.decode_encode s.labels) (Labels.faithful.plain s.labels)

/-- The lifecycle of a bucket is read back, and one without rules is not written. -/
theorem fills_lifecycle (s : Snapshot) :
    lifecycleField.Fills (if s.lifecycle.isEmpty then none else some s.lifecycle.encode)
      s.lifecycle := by
  split
  · next hempty =>
    have husual : s.lifecycle = .empty := congrArg Lifecycle.mk (List.isEmpty_iff.1 hempty)
    rw [husual]
    exact fills_none rfl
  · exact fills_some (Lifecycle.faithful.decode_encode s.lifecycle)
      (Lifecycle.faithful.plain s.lifecycle)

/-- The generation of a bucket is read back. -/
theorem fills_metageneration (s : Snapshot) :
    metagenerationField.Fills (s.metageneration.map encodeInt64) s.metageneration :=
  fills_option (faithful_int64 1) _ _ s.metageneration

/-- The time at which a bucket was made is read back settled. -/
theorem fills_timeCreated (s : Snapshot) :
    timeCreatedField.Fills (s.timeCreated.map Timestamp.encode)
      (s.timeCreated.map Timestamp.settled) :=
  Timestamp.fills_option _ _ s.timeCreated

/-- The time at which a bucket was changed is read back settled. -/
theorem fills_updated (s : Snapshot) :
    updatedField.Fills (s.updated.map Timestamp.encode) (s.updated.map Timestamp.settled) :=
  Timestamp.fills_option _ _ s.updated

/-- A bucket is written as the record of its slots. -/
theorem encode_eq (s : Snapshot) : s.encode = recordNode s.slots := by
  unfold encode recordNode slots
  simp only [List.flatMap_cons, List.flatMap_nil,
    ← optionalMember_eq, ← unlessMember_eq, List.append_assoc, List.append_nil]
  rfl

/-- No two slots of a bucket have one name. -/
theorem distinctNames (s : Snapshot) : DistinctNames s.slots := by
  simp [DistinctNames, slots, nameField, locationField, storageClassField, labelsField,
    lifecycleField, metagenerationField, timeCreatedField, updatedField, RecordField.toCheck]

/-- What a bucket is written as passes the check of each field. -/
theorem passes_slots (s : Snapshot) : ∀ slot ∈ s.slots, slot.Passes := by
  simp only [slots, List.forall_mem_cons]
  exact ⟨s.fills_name.passes, s.fills_location.passes, s.fills_storageClass.passes,
    s.fills_labels.passes, s.fills_lifecycle.passes, s.fills_metageneration.passes,
    s.fills_timeCreated.passes, s.fills_updated.passes, List.forall_mem_nil _⟩

/-- A bucket is written as a tree that can be read back from its text. -/
theorem plain_encode (s : Snapshot) : s.encode.Plain := by
  rw [encode_eq]
  exact plain_recordNode s.passes_slots

/-- The snapshot with each of its times settled. -/
def settled (s : Snapshot) : Snapshot :=
  { s with
    timeCreated := s.timeCreated.map Timestamp.settled
    updated := s.updated.map Timestamp.settled }

/-- A snapshot whose times are proper. -/
def IsProper (s : Snapshot) : Prop :=
  (∀ t, s.timeCreated = some t → t.IsProper) ∧ ∀ t, s.updated = some t → t.IsProper

/-- Settling changes only snapshots with a misplaced leap second. -/
theorem settled_eq_self_iff {s : Snapshot} : s.settled = s ↔ s.IsProper := by
  have htime (value : Option Timestamp) :
      value.map Timestamp.settled = value ↔ ∀ t, value = some t → t.IsProper := by
    cases value <;> simp [Timestamp.settled_eq_self_iff]
  unfold IsProper
  rw [← htime, ← htime]
  constructor
  · intro h
    exact ⟨congrArg timeCreated h, congrArg updated h⟩
  · rintro ⟨hcreated, hupdated⟩
    unfold settled
    rw [hcreated, hupdated]

/-- A snapshot has the same text as what it is settled to. -/
theorem toText_settled (s : Snapshot) : s.settled.toText = s.toText := by
  have htime (value : Option Timestamp) :
      (value.map Timestamp.settled).map Timestamp.encode = value.map Timestamp.encode := by
    cases value <;> simp [Timestamp.encode, Timestamp.write_settled]
  unfold toText
  rw [encode_eq, encode_eq]
  unfold slots settled
  dsimp only
  rw [htime, htime]

/-- A snapshot is read back settled from the tree that it is written as. -/
theorem decode_encode (s : Snapshot) : Snapshot.decode s.encode = .ok s.settled := by
  have hnames := s.distinctNames
  have hname := get_slotMembers hnames (by simp [slots]) s.fills_name
  have hlocation := get_slotMembers hnames (by simp [slots]) s.fills_location
  have hclass := get_slotMembers hnames (by simp [slots]) s.fills_storageClass
  have hlabels := get_slotMembers hnames (by simp [slots]) s.fills_labels
  have hlifecycle := get_slotMembers hnames (by simp [slots]) s.fills_lifecycle
  have hmeta := get_slotMembers hnames (by simp [slots]) s.fills_metageneration
  have hcreated := get_slotMembers hnames (by simp [slots]) s.fills_timeCreated
  have hupdated := get_slotMembers hnames (by simp [slots]) s.fills_updated
  rw [encode_eq]
  refine (record_recordNode hnames s.passes_slots).trans ?_
  simp [hname, hlocation, hclass, hlabels, hlifecycle, hmeta, hcreated, hupdated, settled, bind,
    Except.bind, pure, Except.pure]

/-- What is read back from the text of a snapshot is what it is settled to. -/
theorem ofText_toText (s : Snapshot) : Snapshot.ofText s.toText = .ok s.settled := by
  unfold Snapshot.ofText Snapshot.toText
  rw [Decoder.run_text _ s.plain_encode, decode_encode]

end Snapshot

/-- What is read back from the text of a snapshot is what it is settled to, which has the same text.
This is the snapshot itself exactly where each leap second in its times is proper.  The text is read
back, too, from the bytes that a request carries. -/
theorem snapshot_roundTrip (s : Snapshot) :
    Snapshot.ofText s.toText = .ok s.settled ∧ s.settled.toText = s.toText ∧
      (Snapshot.ofText s.toText = .ok s ↔ s.IsProper) ∧
      Text.utf8Text? (Client.snapshotPayload s).data = some s.toText := by
  refine ⟨s.ofText_toText, s.toText_settled, ?_, ?_⟩
  · rw [s.ofText_toText, Except.ok.injEq]
    exact Snapshot.settled_eq_self_iff
  · rw [Client.snapshotPayload, Text.utf8Text?_utf8Bytes]

/-- A third of a second into the leap second behind 23:56:04. -/
def misplacedLeap : Timestamp :=
  ⟨⟨2016, 12, 31, by decide⟩, 86164, 1333333333, by decide⟩

/-- A bucket that was made in a leap second in the middle of a minute is read back as one that was
made in the second after it. -/
theorem unread_of_misplaced_leap :
    let s : Snapshot := { Snapshot.named "ci-artifacts" with timeCreated := some misplacedLeap }
    let t : Timestamp := ⟨⟨2016, 12, 31, by decide⟩, 86165, 333333333, by decide⟩
    Snapshot.ofText s.toText = .ok { s with timeCreated := some t } ∧
      Snapshot.ofText s.toText ≠ .ok s := by
  intro s t
  have hread : Snapshot.ofText s.toText = .ok { s with timeCreated := some t } := s.ofText_toText
  refine ⟨hread, fun h => ?_⟩
  rw [hread] at h
  have htime := congrArg (fun x => x.toOption.map Snapshot.timeCreated) h
  exact absurd htime (by decide)

end BucketLifecycle
