import BucketLifecycle.Bucket.Labels
import BucketLifecycle.Timestamp.Basic
import BucketLifecycle.Text.Blank
import BucketLifecycle.Text.Quoted
import BucketLifecycle.Text.Decimal

/-!
# Bucket metadata

A snapshot is what a store says about a bucket at one reading, or what it is asked to make of it.  A
lifecycle is a list of rules, each an action with the condition under which the store takes it.
`Snapshot.check` says whether a store would accept a snapshot as the desired state of a bucket.
-/

set_option autoImplicit false

namespace BucketLifecycle

def deleteAction : String := "Delete"

/-- The action that moves objects to another storage class. -/
def setStorageClassAction : String := "SetStorageClass"

/-- What a rule does. -/
structure RuleAction where
  type : String
  storageClass : Option String
  deriving DecidableEq, Repr

/-- When a rule applies; every condition that is given must hold. -/
structure RuleCondition where
  /-- days since an object was made -/
  age : Option UInt32
  /-- a date before which an object was made -/
  createdBefore : Option String
  isLive : Option Bool
  numNewerVersions : Option UInt32
  matchesStorageClass : List String
  deriving DecidableEq, Repr

/-- A rule of a lifecycle. -/
structure LifecycleRule where
  action : RuleAction
  condition : RuleCondition
  deriving DecidableEq, Repr

/-- The rules that a store applies to a bucket. -/
structure Lifecycle where
  rules : List LifecycleRule
  deriving DecidableEq, Repr

def RuleCondition.empty : RuleCondition :=
  ⟨.none, .none, .none, .none, []⟩

/-- An age in days and nothing else. -/
def RuleCondition.ageOnly (days : UInt32) : RuleCondition :=
  { RuleCondition.empty with age := some days }

def RuleCondition.isEmpty (c : RuleCondition) : Bool :=
  c.age.isNone && c.createdBefore.isNone && c.isLive.isNone && c.numNewerVersions.isNone &&
    c.matchesStorageClass.isEmpty

/-- Deletes objects that are so many days old. -/
def LifecycleRule.deleteAfter (days : UInt32) : LifecycleRule :=
  ⟨⟨deleteAction, .none⟩, .ageOnly days⟩

/-- Moves objects that are so many days old to another storage class. -/
def LifecycleRule.setClassAfter (days : UInt32) (storageClass : String) : LifecycleRule :=
  ⟨⟨setStorageClassAction, some storageClass⟩, .ageOnly days⟩

def Lifecycle.empty : Lifecycle := ⟨[]⟩

def Lifecycle.isEmpty (l : Lifecycle) : Bool :=
  l.rules.isEmpty

/-- The metadata of a bucket. -/
structure Snapshot where
  name : String
  location : Option String
  storageClass : Option String
  labels : Labels
  lifecycle : Lifecycle
  /-- counts the changes of the metadata -/
  metageneration : Option Int64
  timeCreated : Option Timestamp
  updated : Option Timestamp
  deriving DecidableEq, Repr

namespace Snapshot

/-- The snapshot of a bucket that does not exist yet. -/
def named (name : String) : Snapshot :=
  ⟨name, .none, .none, .empty, .empty, .none, .none, .none⟩

def withLifecycle (s : Snapshot) (lifecycle : Lifecycle) : Snapshot :=
  { s with lifecycle }

/-- The snapshot with a label added or replaced. -/
def withLabel (s : Snapshot) (key value : String) : Snapshot :=
  { s with labels := s.labels.insert key value }

end Snapshot

/-- What is wrong with a snapshot as a desired state. -/
inductive DesiredFault where
  | otherName (name bucket : String)
  | noAction (rule : Nat)
  | noStorageClass (rule : Nat)
  | noCondition (rule : Nat)
  deriving DecidableEq, Repr

def DesiredFault.message : DesiredFault → String
  | .otherName name bucket =>
    "desired state names bucket " ++ Text.quoted name ++ " instead of " ++ Text.quoted bucket
  | .noAction rule => "lifecycle rule " ++ number rule ++ " has no action type"
  | .noStorageClass rule =>
    "lifecycle rule " ++ number rule ++ " changes storage class without naming one"
  | .noCondition rule => "lifecycle rule " ++ number rule ++ " has no condition"
where
  number (n : Nat) : String := String.ofList (Text.writeNat n)

/-- What is wrong with the rule at a place. -/
def LifecycleRule.fault? (r : LifecycleRule) (place : Nat) : Option DesiredFault :=
  if Text.allBlank r.action.type then some (.noAction place)
  else if r.action.type = setStorageClassAction ∧ r.action.storageClass.isNone then
    some (.noStorageClass place)
  else if r.condition.isEmpty then some (.noCondition place)
  else .none

/-- What is wrong with the first faulty rule, counting from a place. -/
def firstFault (place : Nat) : List LifecycleRule → Option DesiredFault
  | [] => .none
  | r :: rest => (r.fault? place).or (firstFault (place + 1) rest)

/-- Whether a store would accept the snapshot as the desired state of a bucket: it names that
bucket, and each rule has an action, a storage class where it sets one, and a condition. -/
def Snapshot.check (s : Snapshot) (bucket : String) : Except DesiredFault Unit :=
  if s.name ≠ bucket then .error (.otherName s.name bucket)
  else match firstFault 0 s.lifecycle.rules with
    | some f => .error f
    | .none => .ok ()

end BucketLifecycle
