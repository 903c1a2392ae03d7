import BucketLifecycle.Bucket.SnapshotJson
import BucketLifecycle.Proofs.Json.Members

/-!
# The fields of bucket metadata

A bucket is a record, and so are its lifecycle, each of its rules, and the action and condition of a
rule.  Each of these records is read from a value exactly where its fields can be taken from the
value and each of them is read (`ReadFrom`), whether they are taken by name or by place.
-/

set_option autoImplicit false

namespace BucketLifecycle

open Json

namespace RuleAction

/-- The checks of the fields of an action. -/
def checks : List FieldCheck := [typeField.toCheck, storageClassField.toCheck]

/-- Each field of the action is read from the fields. -/
structure ReadFrom (a : RuleAction) (fields : Fields) : Prop where
  type : fields.get typeField = .ok a.type
  storageClass : fields.get storageClassField = .ok a.storageClass

/-- An action is read from what its record takes for its fields. -/
theorem decode_eq_ok_iff {n : Node} {a : RuleAction} :
    RuleAction.decode n = .ok a ↔
      ∃ fields, TakenFrom "RuleAction" checks n fields ∧ a.ReadFrom fields := by
  unfold RuleAction.decode
  rw [record_eq_ok_iff]
  refine exists_congr fun fields => and_congr_right fun _ => ⟨fun h => ?_, fun h => ?_⟩
  · obtain ⟨type, htype, h⟩ := exists_of_bind_eq_ok h
    obtain ⟨storageClass, hclass, h⟩ := exists_of_bind_eq_ok h
    cases h
    exact ⟨htype, hclass⟩
  · simp [h.type, h.storageClass, bind, Except.bind, pure, Except.pure]

end RuleAction

namespace RuleCondition

/-- The checks of the fields of a condition. -/
def checks : List FieldCheck :=
  [ageField.toCheck, createdBeforeField.toCheck, isLiveField.toCheck,
    numNewerVersionsField.toCheck, matchesStorageClassField.toCheck]

/-- Each field of the condition is read from the fields. -/
structure ReadFrom (c : RuleCondition) (fields : Fields) : Prop where
  age : fields.get ageField = .ok c.age
  createdBefore : fields.get createdBeforeField = .ok c.createdBefore
  isLive : fields.get isLiveField = .ok c.isLive
  numNewerVersions : fields.get numNewerVersionsField = .ok c.numNewerVersions
  matchesStorageClass : fields.get matchesStorageClassField = .ok c.matchesStorageClass

/-- A condition is read from what its record takes for its fields. -/
theorem decode_eq_ok_iff {n : Node} {c : RuleCondition} :
    RuleCondition.decode n = .ok c ↔
      ∃ fields, TakenFrom "RuleCondition" checks n fields ∧ c.ReadFrom fields := by
  unfold RuleCondition.decode
  rw [record_eq_ok_iff]
  refine exists_congr fun fields => and_congr_right fun _ => ⟨fun h => ?_, fun h => ?_⟩
  · obtain ⟨age, hage, h⟩ := exists_of_bind_eq_ok h
    obtain ⟨createdBefore, hcreated, h⟩ := exists_of_bind_eq_ok h
    obtain ⟨isLive, hlive, h⟩ := exists_of_bind_eq_ok h
    obtain ⟨numNewerVersions, hnewer, h⟩ := exists_of_bind_eq_ok h
    obtain ⟨matchesStorageClass, hclasses, h⟩ := exists_of_bind_eq_ok h
    cases h
    exact ⟨hage, hcreated, hlive, hnewer, hclasses⟩
  · simp [h.age, h.createdBefore, h.isLive, h.numNewerVersions, h.matchesStorageClass, bind,
      Except.bind, pure, Except.pure]

end RuleCondition

namespace LifecycleRule

/-- The checks of the fields of a rule. -/
def checks : List FieldCheck := [actionField.toCheck, conditionField.toCheck]

/-- Each field of the rule is read from the fields. -/
structure ReadFrom (r : LifecycleRule) (fields : Fields) : Prop where
  action : fields.get actionField = .ok r.action
  condition : fields.get conditionField = .ok r.condition

/-- A rule is read from what its record takes for its fields. -/
theorem decode_eq_ok_iff {n : Node} {r : LifecycleRule} :
    LifecycleRule.decode n = .ok r ↔
      ∃ fields, TakenFrom "LifecycleRule" checks n fields ∧ r.ReadFrom fields := by
  unfold LifecycleRule.decode
  rw [record_eq_ok_iff]
  refine exists_congr fun fields => and_congr_right fun _ => ⟨fun h => ?_, fun h => ?_⟩
  · obtain ⟨action, haction, h⟩ := exists_of_bind_eq_ok h
    obtain ⟨condition, hcondition, h⟩ := exists_of_bind_eq_ok h
    cases h
    exact ⟨haction, hcondition⟩
  · simp [h.action, h.condition, bind, Except.bind, pure, Except.pure]

end LifecycleRule

namespace Lifecycle

/-- The check of the one field of a lifecycle. -/
def checks : List FieldCheck := [ruleField.toCheck]

/-- The one field of the lifecycle is read from the fields. -/
structure ReadFrom (l : Lifecycle) (fields : Fields) : Prop where
  rules : fields.get ruleField = .ok l.rules

/-- A lifecycle is read from what its record takes for its fields. -/
theorem decode_eq_ok_iff {n : Node} {l : Lifecycle} :
    Lifecycle.decode n = .ok l ↔
      ∃ fields, TakenFrom "Lifecycle" checks n fields ∧ l.ReadFrom fields := by
  unfold Lifecycle.decode
  rw [record_eq_ok_iff]
  refine exists_congr fun fields => and_congr_right fun _ => ⟨fun h => ?_, fun h => ?_⟩
  · obtain ⟨rules, hrules, h⟩ := exists_of_bind_eq_ok h
    cases h
    exact ⟨hrules⟩
  · simp [h.rules, bind, Except.bind, pure, Except.pure]

end Lifecycle

namespace Snapshot

/-- The checks of the fields of a snapshot. -/
def checks : List FieldCheck :=
  [nameField.toCheck, locationField.toCheck, storageClassField.toCheck, labelsField.toCheck,
    lifecycleField.toCheck, metagenerationField.toCheck, timeCreatedField.toCheck,
    updatedField.toCheck]

/-- Each field of the snapshot is read from the fields. -/
structure ReadFrom (s : Snapshot) (fields : Fields) : Prop where
  name : fields.get nameField = .ok s.name
  location : fields.get locationField = .ok s.location
  storageClass : fields.get storageClassField = .ok s.storageClass
  labels : fields.get labelsField = .ok s.labels
  lifecycle : fields.get lifecycleField = .ok s.lifecycle
  metageneration : fields.get metagenerationField = .ok s.metageneration
  timeCreated : fields.get timeCreatedField = .ok s.timeCreated
  updated : fields.get updatedField = .ok s.updated

/-- A snapshot is read from what its record takes for its fields. -/
theorem decode_eq_ok_iff {n : Node} {s : Snapshot} :
    Snapshot.decode n = .ok s ↔
      ∃ fields, TakenFrom "BucketSnapshot" checks n fields ∧ s.ReadFrom fields := by
  unfold Snapshot.decode
  rw [record_eq_ok_iff]
  refine exists_congr fun fields => and_congr_right fun _ => ⟨fun h => ?_, fun h => ?_⟩
  · obtain ⟨name, hname, h⟩ := exists_of_bind_eq_ok h
    obtain ⟨location, hlocation, h⟩ := exists_of_bind_eq_ok h
    obtain ⟨storageClass, hclass, h⟩ := exists_of_bind_eq_ok h
    obtain ⟨labels, hlabels, h⟩ := exists_of_bind_eq_ok h
    obtain ⟨lifecycle, hlifecycle, h⟩ := exists_of_bind_eq_ok h
    obtain ⟨metageneration, hmeta, h⟩ := exists_of_bind_eq_ok h
    obtain ⟨timeCreated, hcreated, h⟩ := exists_of_bind_eq_ok h
    obtain ⟨updated, hupdated, h⟩ := exists_of_bind_eq_ok h
    cases h
    exact ⟨hname, hlocation, hclass, hlabels, hlifecycle, hmeta, hcreated, hupdated⟩
  · simp [h.name, h.location, h.storageClass, h.labels, h.lifecycle, h.metageneration,
      h.timeCreated, h.updated, bind, Except.bind, pure, Except.pure]

/-- A snapshot is read from a complete object whose members the record admits, and from what they
have for its fields. -/
theorem decode_object_eq_ok_iff {members : List (StringLit × Node)} {ending : ObjectEnd}
    {s : Snapshot} :
    Snapshot.decode (.object members ending) = .ok s ↔
      ending = .closed ∧ Admissible checks members ∧ s.ReadFrom (.byName members) := by
  rw [decode_eq_ok_iff]
  constructor
  · rintro ⟨fields, ⟨h⟩, hread⟩
    exact ⟨rfl, h, hread⟩
  · rintro ⟨rfl, h, hread⟩
    exact ⟨_, .object h, hread⟩

end Snapshot

end BucketLifecycle
