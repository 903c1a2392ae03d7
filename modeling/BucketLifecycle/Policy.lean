import BucketLifecycle.Bucket.Snapshot

/-!
# Policies

A checker says whether a bucket matches a policy, and a decorator gives the metadata that the
bucket should have.  Both are functions of a snapshot. `Expiring` is the policy that objects are
deleted at a certain age; its decorator makes what its checker accepts.
-/

set_option autoImplicit false

namespace BucketLifecycle

/-- What a checker says, with the snapshot that it looked at. -/
inductive Verdict where
  | compliant (s : Snapshot)
  | nonCompliant (s : Snapshot)
  deriving DecidableEq

/-- Whether the bucket matches the policy. -/
def Verdict.isCompliant : Verdict → Bool
  | .compliant _ => true
  | .nonCompliant _ => false

/-- The snapshot that was looked at. -/
def Verdict.snapshot : Verdict → Snapshot
  | .compliant s => s
  | .nonCompliant s => s

/-- Says whether a bucket matches a policy. -/
abbrev Checker := Snapshot → Verdict

/-- Gives the metadata that a bucket should have. -/
abbrev Decorator := Snapshot → Snapshot

/-- The checker of a test on snapshots. -/
def Checker.ofTest (test : Snapshot → Bool) : Checker := fun s =>
  if test s then .compliant s else .nonCompliant s

/-- Objects are deleted once they are so many days old. -/
structure Expiring where
  days : UInt32
  deriving DecidableEq, Repr

namespace Expiring

/-- Whether a rule deletes objects at the policy's age and under no other condition. -/
def ruleMatches (p : Expiring) (r : LifecycleRule) : Bool :=
  r.action.type == deleteAction && r.condition == RuleCondition.ageOnly p.days

/-- Whether a lifecycle is one such rule. -/
def accepts (p : Expiring) (s : Snapshot) : Bool :=
  match s.lifecycle.rules with
  | [r] => p.ruleMatches r
  | _ => false

/-- Accepts a bucket whose lifecycle is one rule that matches. -/
def check (p : Expiring) : Checker :=
  Checker.ofTest p.accepts

/-- Replaces the lifecycle by the one rule of the policy. -/
def decorate (p : Expiring) : Decorator := fun s =>
  s.withLifecycle ⟨[LifecycleRule.deleteAfter p.days]⟩

/-- A policy accepts every bucket that it has decorated. -/
theorem accepts_decorate (p : Expiring) (s : Snapshot) : p.accepts (p.decorate s) = true := by
  simp [accepts, decorate, Snapshot.withLifecycle, ruleMatches, LifecycleRule.deleteAfter]

end Expiring

end BucketLifecycle
