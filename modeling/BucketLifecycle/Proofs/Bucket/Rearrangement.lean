import BucketLifecycle.Proofs.Bucket.Fields
import BucketLifecycle.Proofs.Bucket.SnapshotRoundTrip
import BucketLifecycle.Proofs.Json.Rearranged
import BucketLifecycle.Proofs.Json.Thorough

/-!
# Bucket objects that are rearranged

A bucket is read from an object with objects in it: a lifecycle, its rules, and the action and
condition of each rule.  In all of these the order of the members does not matter, and members that
the record knows nothing of may stand among them (`snapshot_rearranged`).  Their names must be
texts, for the name of each member is read, whereas their values are skipped.
-/

set_option autoImplicit false

namespace BucketLifecycle

open Json

namespace RuleAction

/-- An action with its members in another order and others among them. -/
def Rearranged : Node → Node → Prop :=
  Json.Rearranged checks fun _ _ _ => False

/-- A rearranged action is read as before. -/
theorem respects_decode : Respects Rearranged RuleAction.decode := by
  intro v w a hvw h
  obtain ⟨fields, htaken, hread⟩ := decode_eq_ok_iff.1 h
  obtain ⟨fields', htaken', hfollows⟩ := hvw.exists_takenFrom (fun _ _ _ _ h => h.elim) htaken
  exact decode_eq_ok_iff.2 ⟨fields', htaken',
    { type := hfollows typeField rfl nofun _ hread.type
      storageClass := hfollows storageClassField rfl nofun _ hread.storageClass }⟩

/-- Nothing in an action that is read is left incomplete. -/
theorem thorough_decode : Thorough RuleAction.decode := by
  intro n a h
  obtain ⟨fields, htaken, hread⟩ := decode_eq_ok_iff.1 h
  refine htaken.complete ?_ ?_
  · have htype : Thorough typeField.decode := thorough_string
    have hclass : Thorough storageClassField.decode := thorough_option thorough_string
    simp only [checks, List.forall_mem_cons]
    exact ⟨htype.check, hclass.check, List.forall_mem_nil _⟩
  · rintro (_ | _ | _) f v ⟨⟩ hv
    · exact check_of_get hread.type hv
    · exact check_of_get hread.storageClass hv

end RuleAction

namespace RuleCondition

/-- A condition with its members in another order and others among them. -/
def Rearranged : Node → Node → Prop :=
  Json.Rearranged checks fun _ _ _ => False

/-- A rearranged condition is read as before. -/
theorem respects_decode : Respects Rearranged RuleCondition.decode := by
  intro v w c hvw h
  obtain ⟨fields, htaken, hread⟩ := decode_eq_ok_iff.1 h
  obtain ⟨fields', htaken', hfollows⟩ := hvw.exists_takenFrom (fun _ _ _ _ h => h.elim) htaken
  exact decode_eq_ok_iff.2 ⟨fields', htaken',
    { age := hfollows ageField rfl nofun _ hread.age
      createdBefore := hfollows createdBeforeField rfl nofun _ hread.createdBefore
      isLive := hfollows isLiveField rfl nofun _ hread.isLive
      numNewerVersions := hfollows numNewerVersionsField rfl nofun _ hread.numNewerVersions
      matchesStorageClass :=
        hfollows matchesStorageClassField rfl nofun _ hread.matchesStorageClass }⟩

/-- Nothing in a condition that is read is left incomplete. -/
theorem thorough_decode : Thorough RuleCondition.decode := by
  intro n c h
  obtain ⟨fields, htaken, hread⟩ := decode_eq_ok_iff.1 h
  refine htaken.complete ?_ ?_
  · have hage : Thorough ageField.decode := thorough_option thorough_uint32
    have hcreated : Thorough createdBeforeField.decode := thorough_option thorough_string
    have hlive : Thorough isLiveField.decode := thorough_option thorough_boolean
    have hnewer : Thorough numNewerVersionsField.decode := thorough_option thorough_uint32
    have hclasses : Thorough matchesStorageClassField.decode := thorough_list thorough_string
    simp only [checks, List.forall_mem_cons]
    exact ⟨hage.check, hcreated.check, hlive.check, hnewer.check, hclasses.check,
      List.forall_mem_nil _⟩
  · rintro (_ | _ | _ | _ | _ | _) f v ⟨⟩ hv
    · exact check_of_get hread.age hv
    · exact check_of_get hread.createdBefore hv
    · exact check_of_get hread.isLive hv
    · exact check_of_get hread.numNewerVersions hv
    · exact check_of_get hread.matchesStorageClass hv

end RuleCondition

namespace LifecycleRule

/-- What may be done to the fields of a rule. -/
def Alters (name : String) (v w : Node) : Prop :=
  (name = "action" ∧ RuleAction.Rearranged v w) ∨
    (name = "condition" ∧ RuleCondition.Rearranged v w)

/-- A rule that is rearranged, its action and its condition included. -/
def Rearranged : Node → Node → Prop :=
  Json.Rearranged checks Alters

/-- The action of a rule is read as before where it is rearranged. -/
theorem respects_action : Respects (Alters actionField.name) actionField.decode := by
  rintro v w a (⟨-, haltered⟩ | ⟨hname, -⟩) h
  · exact RuleAction.respects_decode v w a haltered h
  · exact absurd hname (by decide)

/-- The condition of a rule is read as before where it is rearranged. -/
theorem respects_condition : Respects (Alters conditionField.name) conditionField.decode := by
  rintro v w c (⟨hname, -⟩ | ⟨-, haltered⟩) h
  · exact absurd hname (by decide)
  · exact RuleCondition.respects_decode v w c haltered h

/-- A rearranged rule is read as before. -/
theorem respects_decode : Respects Rearranged LifecycleRule.decode := by
  intro v w r hvw h
  obtain ⟨fields, htaken, hread⟩ := decode_eq_ok_iff.1 h
  have hchecks :
      ∀ f ∈ checks, ∀ v w, Alters f.name v w → f.check v = .ok () → f.check w = .ok () := by
    simp only [checks, List.forall_mem_cons]
    exact ⟨respects_action.check, respects_condition.check, List.forall_mem_nil _⟩
  obtain ⟨fields', htaken', hfollows⟩ := hvw.exists_takenFrom hchecks htaken
  exact decode_eq_ok_iff.2 ⟨fields', htaken',
    { action := hfollows actionField rfl respects_action _ hread.action
      condition := hfollows conditionField rfl respects_condition _ hread.condition }⟩

/-- Nothing in a rule that is read is left incomplete. -/
theorem thorough_decode : Thorough LifecycleRule.decode := by
  intro n r h
  obtain ⟨fields, htaken, hread⟩ := decode_eq_ok_iff.1 h
  refine htaken.complete ?_ ?_
  · have haction : Thorough actionField.decode := RuleAction.thorough_decode
    have hcondition : Thorough conditionField.decode := RuleCondition.thorough_decode
    simp only [checks, List.forall_mem_cons]
    exact ⟨haction.check, hcondition.check, List.forall_mem_nil _⟩
  · rintro (_ | _ | _) f v ⟨⟩ hv
    · exact check_of_get hread.action hv
    · exact check_of_get hread.condition hv

end LifecycleRule

namespace Lifecycle

/-- What may be done to the one field of a lifecycle. -/
def Alters (name : String) (v w : Node) : Prop :=
  name = "rule" ∧ ItemsAltered LifecycleRule.Rearranged v w

/-- A lifecycle that is rearranged, its rules included; these stay in their order. -/
def Rearranged : Node → Node → Prop :=
  Json.Rearranged checks Alters

/-- The rules of a lifecycle are read as before where some are rearranged. -/
theorem respects_rule : Respects (Alters ruleField.name) ruleField.decode := by
  rintro v w rules ⟨-, haltered⟩ h
  exact respects_list LifecycleRule.respects_decode v w rules haltered h

/-- A rearranged lifecycle is read as before. -/
theorem respects_decode : Respects Rearranged Lifecycle.decode := by
  intro v w l hvw h
  obtain ⟨fields, htaken, hread⟩ := decode_eq_ok_iff.1 h
  have hchecks :
      ∀ f ∈ checks, ∀ v w, Alters f.name v w → f.check v = .ok () → f.check w = .ok () := by
    simp only [checks, List.forall_mem_cons]
    exact ⟨respects_rule.check, List.forall_mem_nil _⟩
  obtain ⟨fields', htaken', hfollows⟩ := hvw.exists_takenFrom hchecks htaken
  exact decode_eq_ok_iff.2 ⟨fields', htaken',
    { rules := hfollows ruleField rfl respects_rule _ hread.rules }⟩

/-- Nothing in a lifecycle that is read is left incomplete. -/
theorem thorough_decode : Thorough Lifecycle.decode := by
  intro n l h
  obtain ⟨fields, htaken, hread⟩ := decode_eq_ok_iff.1 h
  refine htaken.complete ?_ ?_
  · have hrules : Thorough ruleField.decode := thorough_list LifecycleRule.thorough_decode
    simp only [checks, List.forall_mem_cons]
    exact ⟨hrules.check, List.forall_mem_nil _⟩
  · rintro (_ | _) f v ⟨⟩ hv
    exact check_of_get hread.rules hv

end Lifecycle

namespace Snapshot

/-- What may be done to the fields of a bucket. -/
def Alters (name : String) (v w : Node) : Prop :=
  name = "lifecycle" ∧ Lifecycle.Rearranged v w

/-- A bucket that is rearranged, its lifecycle included. -/
def Rearranged : Node → Node → Prop :=
  Json.Rearranged checks Alters

/-- The lifecycle of a bucket is read as before where it is rearranged. -/
theorem respects_lifecycle : Respects (Alters lifecycleField.name) lifecycleField.decode := by
  rintro v w l ⟨-, haltered⟩ h
  exact Lifecycle.respects_decode v w l haltered h

/-- No other field of a bucket is altered, and so each is read as before. -/
theorem respects_other {α : Type} {f : RecordField α} (hf : f.name ≠ "lifecycle") :
    Respects (Alters f.name) f.decode :=
  fun _ _ _ haltered _ => absurd haltered.1 hf

/-- A rearranged bucket is read as before. -/
theorem respects_decode : Respects Rearranged Snapshot.decode := by
  intro v w s hvw h
  obtain ⟨fields, htaken, hread⟩ := decode_eq_ok_iff.1 h
  have hname : Respects (Alters nameField.name) nameField.decode := respects_other (by decide)
  have hlocation : Respects (Alters locationField.name) locationField.decode :=
    respects_other (by decide)
  have hclass : Respects (Alters storageClassField.name) storageClassField.decode :=
    respects_other (by decide)
  have hlabels : Respects (Alters labelsField.name) labelsField.decode := respects_other (by decide)
  have hmeta : Respects (Alters metagenerationField.name) metagenerationField.decode :=
    respects_other (by decide)
  have hcreated : Respects (Alters timeCreatedField.name) timeCreatedField.decode :=
    respects_other (by decide)
  have hupdated : Respects (Alters updatedField.name) updatedField.decode :=
    respects_other (by decide)
  have hchecks :
      ∀ f ∈ checks, ∀ v w, Alters f.name v w → f.check v = .ok () → f.check w = .ok () := by
    simp only [checks, List.forall_mem_cons]
    exact ⟨hname.check, hlocation.check, hclass.check, hlabels.check, respects_lifecycle.check,
      hmeta.check, hcreated.check, hupdated.check, List.forall_mem_nil _⟩
  obtain ⟨fields', htaken', hfollows⟩ := hvw.exists_takenFrom hchecks htaken
  exact decode_eq_ok_iff.2 ⟨fields', htaken',
    { name := hfollows nameField rfl hname _ hread.name
      location := hfollows locationField rfl hlocation _ hread.location
      storageClass := hfollows storageClassField rfl hclass _ hread.storageClass
      labels := hfollows labelsField rfl hlabels _ hread.labels
      lifecycle := hfollows lifecycleField rfl respects_lifecycle _ hread.lifecycle
      metageneration := hfollows metagenerationField rfl hmeta _ hread.metageneration
      timeCreated := hfollows timeCreatedField rfl hcreated _ hread.timeCreated
      updated := hfollows updatedField rfl hupdated _ hread.updated }⟩

/-- Nothing in a bucket that is read is left incomplete. -/
theorem thorough_decode : Thorough Snapshot.decode := by
  intro n s h
  obtain ⟨fields, htaken, hread⟩ := decode_eq_ok_iff.1 h
  refine htaken.complete ?_ ?_
  · have hname : Thorough nameField.decode := thorough_string
    have hlocation : Thorough locationField.decode := thorough_option thorough_string
    have hclass : Thorough storageClassField.decode := thorough_option thorough_string
    have hlabels : Thorough labelsField.decode := by
      intro n labels h
      obtain ⟨kvs, hkvs, -⟩ := exists_of_map_eq_ok h
      exact thorough_entries thorough_string n kvs hkvs
    have hlifecycle : Thorough lifecycleField.decode := Lifecycle.thorough_decode
    have hmeta : Thorough metagenerationField.decode := thorough_option (thorough_int64Text 1)
    have hcreated : Thorough timeCreatedField.decode := thorough_option (thorough_textAs _ _)
    have hupdated : Thorough updatedField.decode := thorough_option (thorough_textAs _ _)
    simp only [checks, List.forall_mem_cons]
    exact ⟨hname.check, hlocation.check, hclass.check, hlabels.check, hlifecycle.check, hmeta.check,
      hcreated.check, hupdated.check, List.forall_mem_nil _⟩
  · rintro (_ | _ | _ | _ | _ | _ | _ | _ | _) f v ⟨⟩ hv
    · exact check_of_get hread.name hv
    · exact check_of_get hread.location hv
    · exact check_of_get hread.storageClass hv
    · exact check_of_get hread.labels hv
    · exact check_of_get hread.lifecycle hv
    · exact check_of_get hread.metageneration hv
    · exact check_of_get hread.timeCreated hv
    · exact check_of_get hread.updated hv

end Snapshot

/-- A text that is read as a bucket is one of the grammar, and every text of a rearrangement of the
bucket is read as the same one. -/
theorem snapshot_rearranged {text : String} {s : Snapshot} (h : Snapshot.ofText text = .ok s) :
    (Document.ofString text).root.SpelledBy text ∧
      ∀ (n' : Node) (text' : String), Snapshot.Rearranged (Document.ofString text).root n' →
        n'.SpelledBy text' → Snapshot.ofText text' = .ok s := by
  obtain ⟨hspelled, hdecode⟩ := Decoder.spelledBy_of_run Snapshot.thorough_decode h
  refine ⟨hspelled, fun n' text' hrearranged hspelled' => ?_⟩
  unfold Snapshot.ofText
  rw [Decoder.run_of_spelledBy _ hspelled']
  exact Snapshot.respects_decode _ _ _ hrearranged hdecode

/-- A bucket whose objects are deleted after a month. -/
def monthlyBucket : Snapshot :=
  (Snapshot.named "ci-artifacts").withLifecycle ⟨[.deleteAfter 30]⟩

/-- The condition of its rule with a member that is not known. -/
def extendedCondition : Node :=
  .ofMembers [("kind", .null), ("age", encodeUInt32 30)]

/-- Its rule with the condition in front. -/
def extendedRule : Node :=
  .ofMembers
    [("condition", extendedCondition), ("action", (LifecycleRule.deleteAfter 30).action.encode)]

/-- The bucket with its members in another order, and with one among them that is not known. -/
def extendedBucket : Node :=
  .ofMembers
    [("kind", .ofItems [.ofMembers [("kind", .null)]]),
      ("lifecycle", .ofMembers [("rule", .ofItems [extendedRule])]),
      ("name", encodeText "ci-artifacts")]

/-- The extended bucket is one that can be written. -/
theorem plain_extendedBucket : extendedBucket.Plain := by
  have hkind : (Node.ofItems [.ofMembers [("kind", .null)]]).Plain :=
    .list (List.forall_mem_singleton.2 (.object (List.forall_mem_singleton.2 .null)))
  have hcondition : extendedCondition.Plain := by
    refine .object ?_
    simp only [List.forall_mem_cons]
    exact ⟨.null, .natural 30, List.forall_mem_nil _⟩
  have hrule : extendedRule.Plain := by
    refine .object ?_
    simp only [List.forall_mem_cons]
    exact ⟨hcondition, RuleAction.faithful.plain _, List.forall_mem_nil _⟩
  have hlifecycle : (Node.ofMembers [("rule", .ofItems [extendedRule])]).Plain :=
    .object (List.forall_mem_singleton.2 (.list (List.forall_mem_singleton.2 hrule)))
  refine .object ?_
  simp only [List.forall_mem_cons]
  exact ⟨hkind, hlifecycle, .string _, List.forall_mem_nil _⟩

/-- The extended rule is the monthly one with its members turned round and others among them. -/
theorem rearranged_extendedRule :
    LifecycleRule.Rearranged (LifecycleRule.deleteAfter 30).encode extendedRule := by
  have hcondition : RuleCondition.Rearranged (RuleCondition.ageOnly 30).encode extendedCondition :=
    .object (.cons (keptAs_self _) .nil)
      (List.forall_mem_singleton.2 (@unasked_ofString _ "kind" _ (by decide) .null))
      (List.reverse_perm _).symm
  exact .object
    (.cons (keptAs_self _)
      (.cons (keptAs_altered ⟨_, .tail _ (.head _), rfl⟩ (.inr ⟨rfl, hcondition⟩)) .nil))
    (List.forall_mem_nil _) (List.reverse_perm _).symm

/-- The extended bucket is the monthly one with its members turned round and others among them. -/
theorem rearranged_extendedBucket : Snapshot.Rearranged monthlyBucket.encode extendedBucket := by
  have hrules : ItemsAltered LifecycleRule.Rearranged
      (.ofItems [(LifecycleRule.deleteAfter 30).encode]) (.ofItems [extendedRule]) :=
    ⟨_, _, rfl, rfl, .cons (.inr rearranged_extendedRule) .nil⟩
  have hlifecycle : Lifecycle.Rearranged (Lifecycle.mk [.deleteAfter 30]).encode
      (.ofMembers [("rule", .ofItems [extendedRule])]) :=
    .object (.cons (keptAs_altered ⟨_, .head _, rfl⟩ ⟨rfl, hrules⟩) .nil) (List.forall_mem_nil _)
      (List.Perm.refl _)
  have hfield : ∃ f ∈ Snapshot.checks, f.name = "lifecycle" :=
    ⟨Snapshot.lifecycleField.toCheck, by simp [Snapshot.checks], rfl⟩
  have hkind : (Node.ofItems [.ofMembers [("kind", .null)]]).Complete :=
    .list (List.forall_mem_singleton.2
      (.object (List.forall_mem_singleton.2 rfl) (List.forall_mem_singleton.2 .null)))
  exact .object
    (.cons (keptAs_self _) (.cons (keptAs_altered hfield ⟨rfl, hlifecycle⟩) .nil))
    (List.forall_mem_singleton.2 (@unasked_ofString _ "kind" _ (by decide) hkind))
    (List.reverse_perm _).symm

/-- The monthly bucket is read from its own text and from that of the extended bucket. -/
theorem rearranged_of_extended_bucket :
    Snapshot.ofText monthlyBucket.toText = .ok monthlyBucket ∧
      Snapshot.ofText extendedBucket.text = .ok monthlyBucket := by
  have hread : Snapshot.ofText monthlyBucket.toText = .ok monthlyBucket :=
    monthlyBucket.ofText_toText
  refine ⟨hread, (snapshot_rearranged hread).2 extendedBucket _ ?_ plain_extendedBucket.spelledBy⟩
  rw [Snapshot.toText, Document.ofString_text monthlyBucket.plain_encode]
  exact rearranged_extendedBucket

/-- A name that is half of a character. -/
def brokenName : StringLit :=
  ⟨[.unit 0xD800], .closed⟩

/-- A bucket with a member of that name. -/
def brokenNameText : String :=
  "\x7b\"name\":\"ci-artifacts\",\"\\ud800\":1\x7d"

/-- A member that no field asks for makes the bucket unreadable if its name is no text. -/
theorem unread_of_broken_name :
    Snapshot.ofText (Snapshot.named "ci-artifacts").toText = .ok (.named "ci-artifacts") ∧
      (∀ f ∈ Snapshot.checks, brokenName.text ≠ .ok f.name) ∧
      (Node.object [(.ofString "name", .ofString "ci-artifacts"), (brokenName, .ofInt 1)]
        .closed).SpelledBy brokenNameText ∧
      ∀ s, Snapshot.ofText brokenNameText ≠ .ok s := by
  have hbroken (name : String) : brokenName.text ≠ .ok name := by
    have herror : brokenName.text = .error .unfinishedSurrogate := rfl
    rw [herror]
    exact nofun
  have hspelled : (Node.object
      [(.ofString "name", .ofString "ci-artifacts"), (brokenName, .ofInt 1)] .closed).SpelledBy
        brokenNameText := by
    refine spelledBy_iff.2 ⟨complete_object_iff.2 ⟨?_, rfl⟩, rfl⟩
    simp only [List.forall_mem_cons]
    exact ⟨⟨rfl, .string rfl⟩, ⟨rfl, .number _⟩, List.forall_mem_nil _⟩
  refine ⟨Snapshot.ofText_toText _, fun f _ => hbroken f.name, hspelled, fun s h => ?_⟩
  unfold Snapshot.ofText at h
  rw [Decoder.run_of_spelledBy _ hspelled, Snapshot.decode_object_eq_ok_iff] at h
  obtain ⟨-, hadmissible, -⟩ := h
  cases hadmissible.accepts (brokenName, .ofInt 1) (by simp) with
  | field hkey | other hkey => exact hbroken _ hkey

end BucketLifecycle
