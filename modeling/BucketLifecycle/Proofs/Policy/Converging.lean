import BucketLifecycle.Policy
import BucketLifecycle.Proofs.Bucket.DesiredState
import BucketLifecycle.Proofs.Store.Memory
import BucketLifecycle.Reconcile

/-!
# Policies that converge

`Converging` says when a decorator and a checker fit each other and a store: the store takes what
the decorator makes, and the checker accepts it again with whatever generation and times the store
gives it.  The policy that objects expire is of this kind at every age (`Expiring.converging`).
-/

set_option autoImplicit false

namespace BucketLifecycle

/-- A policy whose desired states a store takes for a bucket, and whose checker accepts them once
they are stored. -/
structure Converging (bucket : String) (decorate : Decorator) (check : Checker) : Prop where
  /-- the checker gives back the snapshot that it looked at -/
  snapshot_check : ∀ s, (check s).snapshot = s
  check_decorate : ∀ s, s.name = bucket → (decorate s).check bucket = .ok ()
  isCompliant : ∀ s t, s.name = bucket → t.settings = (decorate s).settings →
    (check t).isCompliant = true

namespace Converging

variable {bucket : String} {decorate : Decorator} {check : Checker} {s : Snapshot}

/-- The verdict on a snapshot carries that snapshot. -/
theorem check_eq (h : Converging bucket decorate check) (s : Snapshot) :
    check s = if (check s).isCompliant then .compliant s else .nonCompliant s := by
  have hsnapshot := h.snapshot_check s
  cases hcheck : check s <;> rw [hcheck] at hsnapshot <;> cases hsnapshot <;> rfl

/-- A bucket that is found compliant is kept as it was read. -/
theorem eq_of_compliant (h : Converging bucket decorate check) {kept : Snapshot}
    (hcheck : check s = .compliant kept) : kept = s := by
  have hsnapshot := h.snapshot_check s
  rw [hcheck] at hsnapshot
  exact hsnapshot

/-- A bucket that is found to have drifted is handed on as it was read. -/
theorem eq_of_nonCompliant (h : Converging bucket decorate check) {drifted : Snapshot}
    (hcheck : check s = .nonCompliant drifted) : drifted = s := by
  have hsnapshot := h.snapshot_check s
  rw [hcheck] at hsnapshot
  exact hsnapshot

/-- A decorated snapshot of the bucket is a desired state. -/
theorem desiredState_eq (h : Converging bucket decorate check) (hname : s.name = bucket) :
    desiredState bucket decorate s = .ok (decorate s) := by
  unfold desiredState
  rw [h.check_decorate s hname]

/-- Decorating a bucket leaves its name. -/
theorem name_decorate (h : Converging bucket decorate check) (hname : s.name = bucket) :
    (decorate s).name = bucket :=
  (Snapshot.check_eq_ok_iff.1 (h.check_decorate s hname)).name_eq

end Converging

/-- The rule that deletes at an age is well formed at every age. -/
theorem LifecycleRule.wellFormed_deleteAfter (days : UInt32) :
    (LifecycleRule.deleteAfter days).WellFormed where
  action := ⟨'D', (by decide : 'D' ∈ deleteAction.toList), by decide⟩
  storageClass := fun htype => absurd htype (by decide : deleteAction ≠ setStorageClassAction)
  condition := .inl nofun

namespace Expiring

/-- Only the settings of a bucket matter to the policy. -/
theorem accepts_of_settings (p : Expiring) {s t : Snapshot} (h : t.settings = s.settings) :
    p.accepts t = p.accepts s := by
  unfold accepts
  rw [Snapshot.lifecycle_of_settings h]

/-- A policy finds compliant what it accepts. -/
theorem isCompliant_check (p : Expiring) (s : Snapshot) :
    (p.check s).isCompliant = p.accepts s := by
  unfold check Checker.ofTest
  cases p.accepts s <;> rfl

/-- What is found compliant is accepted. -/
theorem accepts_of_compliant (p : Expiring) {s kept : Snapshot} (h : p.check s = .compliant kept) :
    p.accepts s = true := by
  rw [← p.isCompliant_check s, h]
  rfl

/-- What is found to have drifted is not accepted. -/
theorem accepts_of_nonCompliant (p : Expiring) {s drifted : Snapshot}
    (h : p.check s = .nonCompliant drifted) : p.accepts s = false := by
  rw [← p.isCompliant_check s, h]
  rfl

/-- Expiry at any age converges for every bucket. -/
theorem converging (p : Expiring) (bucket : String) : Converging bucket p.decorate p.check where
  snapshot_check s := by
    unfold check Checker.ofTest
    cases p.accepts s <;> rfl
  check_decorate s hname := by
    refine Snapshot.check_eq_ok_iff.2 ⟨hname, fun r hr => ?_⟩
    rw [List.mem_singleton.1 hr]
    exact LifecycleRule.wellFormed_deleteAfter p.days
  isCompliant s t _ hsettings := by
    rw [isCompliant_check, accepts_of_settings p hsettings, accepts_decorate]

end Expiring

end BucketLifecycle
