import BucketLifecycle.Bucket.Snapshot

/-!
# Acceptable desired states

`Snapshot.Acceptable` says which snapshots a store takes as the desired state of a bucket: the
snapshot names the bucket, and each of its rules has an action that is not blank, names a storage
class where it sets one, and has a condition. `check_eq_ok_iff` says that `Snapshot.check`, which
stops at the first fault that it finds, passes exactly these.
-/

set_option autoImplicit false

namespace BucketLifecycle

/-- At least one condition is set. -/
def RuleCondition.HasSome (c : RuleCondition) : Prop :=
  c.age ≠ none ∨ c.createdBefore ≠ none ∨ c.isLive ≠ none ∨ c.numNewerVersions ≠ none ∨
    c.matchesStorageClass ≠ []

/-- A rule that a store takes. -/
structure LifecycleRule.WellFormed (r : LifecycleRule) : Prop where
  action : ∃ c ∈ r.action.type.toList, Text.isBlank c = false
  storageClass : r.action.type = setStorageClassAction → r.action.storageClass ≠ none
  condition : r.condition.HasSome

/-- A snapshot that a store takes as the desired state of a bucket. -/
structure Snapshot.Acceptable (s : Snapshot) (bucket : String) : Prop where
  name_eq : s.name = bucket
  rules : ∀ r ∈ s.lifecycle.rules, r.WellFormed

/-- A text is not all blank where one of its characters is no blank. -/
theorem Text.allBlank_eq_false_iff {s : String} :
    Text.allBlank s = false ↔ ∃ c ∈ s.toList, Text.isBlank c = false := by
  unfold Text.allBlank
  rw [List.all_eq_false]
  simp only [Bool.not_eq_true]

/-- A condition is not empty where it has some part. -/
theorem RuleCondition.isEmpty_eq_false_iff {c : RuleCondition} :
    c.isEmpty = false ↔ c.HasSome := by
  obtain ⟨age, createdBefore, isLive, numNewerVersions, classes⟩ := c
  unfold RuleCondition.isEmpty RuleCondition.HasSome
  cases age <;> cases createdBefore <;> cases isLive <;> cases numNewerVersions <;>
    cases classes <;> simp

/-- A rule has no fault exactly where it is well formed, at whatever place it stands. -/
theorem LifecycleRule.fault?_eq_none_iff {r : LifecycleRule} {place : Nat} :
    r.fault? place = none ↔ r.WellFormed := by
  unfold LifecycleRule.fault?
  constructor
  · intro h
    split at h
    · cases h
    · next haction =>
      split at h
      · cases h
      · next hclass =>
        split at h
        · cases h
        · next hcondition =>
          refine ⟨Text.allBlank_eq_false_iff.1 (by simpa using haction), ?_,
            RuleCondition.isEmpty_eq_false_iff.1 (by simpa using hcondition)⟩
          intro htype hnone
          exact hclass ⟨htype, by simp [hnone]⟩
  · intro h
    have haction := Text.allBlank_eq_false_iff.2 h.action
    have hcondition := RuleCondition.isEmpty_eq_false_iff.2 h.condition
    rw [if_neg (by simp [haction]), if_neg, if_neg (by simp [hcondition])]
    rintro ⟨htype, hnone⟩
    exact h.storageClass htype (by simpa using hnone)

/-- No rule has a fault exactly where all are well formed, wherever the count of places starts. -/
theorem firstFault_eq_none_iff {place : Nat} {rules : List LifecycleRule} :
    firstFault place rules = none ↔ ∀ r ∈ rules, r.WellFormed := by
  induction rules generalizing place with
  | nil => simp [firstFault]
  | cons r rest ih =>
    unfold firstFault
    rw [Option.or_eq_none_iff, LifecycleRule.fault?_eq_none_iff, ih, List.forall_mem_cons]

/-- The check passes exactly the acceptable snapshots. -/
theorem Snapshot.check_eq_ok_iff {s : Snapshot} {bucket : String} :
    s.check bucket = .ok () ↔ s.Acceptable bucket := by
  unfold Snapshot.check
  constructor
  · intro h
    split at h
    · cases h
    · next hname =>
      split at h
      · cases h
      · next hrules =>
        exact ⟨by simpa using hname, firstFault_eq_none_iff.1 hrules⟩
  · intro h
    rw [if_neg (by simp [h.name_eq]), firstFault_eq_none_iff.2 h.rules]

end BucketLifecycle
