import BucketLifecycle.Clock
import BucketLifecycle.Policy
import BucketLifecycle.Retry

/-!
# Reconciliation

A reconciliation makes a bucket match a policy.  It reads the bucket; a bucket that matches is left
alone, one that does not is updated, and a missing one is created.  A creation that loses a race is
followed by another reading, a bounded number of times.

`reconciliation` is written in *logical* calls, each answered by what repeated attempts came to.
`Reconciler.program` replaces each of them by the attempts that the retry policy makes, and
`Reconciler.run` plays that on a clock, under the deadline of the reconciler.
-/

set_option autoImplicit false

namespace BucketLifecycle

/-- A call on the metadata of a bucket. -/
inductive BucketCall where
  | get (name : String)
  | insert (desired : Snapshot)
  | update (desired : Snapshot)
  deriving DecidableEq

def BucketCall.operation : BucketCall → Operation
  | .get _ => .get
  | .insert _ => .insert
  | .update _ => .update

/-- What a reconciliation found. -/
inductive Decision where
  | alreadyCompliant
  | needsCorrection
  | doesNotExist
  deriving DecidableEq, Repr

/-- The result of a reconciliation that succeeded. -/
structure Outcome where
  bucket : String
  decision : Decision
  /-- the metadata afterwards -/
  snapshot : Snapshot
  /-- how often the bucket was read -/
  reads : Nat
  /-- how many creations lost a race -/
  conflictCycles : Nat
  deriving DecidableEq

/-- Whether the bucket was created or changed. -/
def Outcome.mutated (o : Outcome) : Bool :=
  o.decision != .alreadyCompliant

/-- The decorated snapshot, if a store would accept it for the bucket. -/
def desiredState (bucket : String) (decorate : Decorator) (s : Snapshot) :
    Except LifecycleError Snapshot :=
  match (decorate s).check bucket with
  | .ok () => .ok (decorate s)
  | .error fault => .error (.invalidDesiredState bucket fault.message)

/-- What repeated attempts at a call came to. -/
abbrev LogicalAnswer := Except RetryError Snapshot

/-- A program of logical calls that ends as a reconciliation does. -/
abbrev LogicalProgram := Program BucketCall LogicalAnswer (Except LifecycleError Outcome)

/-- Updates the bucket to a desired state. -/
def correction (bucket : String) (reads cycles : Nat) (desired : Snapshot) : LogicalProgram :=
  .call (.update desired) fun answer =>
    match answer with
    | .ok s => .done (.ok ⟨bucket, .needsCorrection, s, reads, cycles⟩)
    | .error e => .done (.error (e.toLifecycle bucket .update))

/-- Creates the bucket in a desired state; `again` follows a lost race. -/
def creation (bucket : String) (reads cycles : Nat) (desired : Snapshot) (again : LogicalProgram) :
    LogicalProgram :=
  .call (.insert desired) fun answer =>
    match answer with
    | .ok s => .done (.ok ⟨bucket, .doesNotExist, s, reads, cycles⟩)
    | .error e =>
      if e.storeError.isConflict then again
      else .done (.error (e.toLifecycle bucket .insert))

/-- Reads the bucket and goes on from there, after `reads` readings and `cycles` lost races, with
`room` left in the counter of readings. -/
def reconcileFrom (bucket : String) (decorate : Decorator) (check : Checker) (maxCycles : UInt32) :
    (room reads cycles : Nat) → LogicalProgram
  | 0, _, _ => .overflow
  | room + 1, reads, cycles =>
    .call (.get bucket) fun answer =>
      match answer with
      | .ok s =>
        match check s with
        | .compliant s => .done (.ok ⟨bucket, .alreadyCompliant, s, reads + 1, cycles⟩)
        | .nonCompliant s =>
          match desiredState bucket decorate s with
          | .ok desired => correction bucket (reads + 1) cycles desired
          | .error e => .done (.error e)
      | .error e =>
        if e.storeError.isNotFound then
          match desiredState bucket decorate (Snapshot.named bucket) with
          | .ok desired =>
            creation bucket (reads + 1) cycles desired <|
              if maxCycles.toNat < cycles + 1 then
                .done (.error (.conflictLoopExhausted bucket (cycles + 1)))
              else reconcileFrom bucket decorate check maxCycles room (reads + 1) (cycles + 1)
          | .error e => .done (.error e)
        else .done (.error (e.toLifecycle bucket .get))

/-- The reconciliation of a bucket in logical calls. -/
def reconciliation (bucket : String) (decorate : Decorator) (check : Checker) (maxCycles : UInt32) :
    LogicalProgram :=
  reconcileFrom bucket decorate check maxCycles counterLimit 0 0

/-- The settings of a reconciler. -/
structure Reconciler where
  /-- how each call is repeated -/
  retry : RetryPolicy
  /-- how many lost races are followed by another reading -/
  maxConflictCycles : UInt32
  /-- the longest that a reconciliation may take -/
  deadline : Option Duration
  deriving DecidableEq, Repr

namespace Reconciler

/-- The standard retries, three lost races and five minutes. -/
def standard : Reconciler :=
  ⟨.standard, 3, some (Duration.ofSeconds 300)⟩

/-- The reconciliation of a bucket in single attempts. -/
def program (r : Reconciler) (bucket : String) (decorate : Decorator) (check : Checker) :
    Program BucketCall (Except StoreError Snapshot) (Except LifecycleError Outcome) :=
  (reconciliation bucket decorate check r.maxConflictCycles).expand r.retry.execute

/-- The time at which a run that starts at `now` is cut off. -/
def limitFrom (r : Reconciler) (now : Instant) : Option Instant :=
  r.deadline.map fun d => now + d.ticks

/-- The reconciliation of a bucket on a clock. -/
def run {σ : Type} (r : Reconciler) (handler : Handler σ BucketCall (Except StoreError Snapshot))
    (bucket : String) (decorate : Decorator) (check : Checker) (now : Instant) (state : σ) :
    Run σ BucketCall (Except StoreError Snapshot) (Except LifecycleError Outcome) :=
  (r.program bucket decorate check).run handler (r.limitFrom now) now state

/-- The result that a caller sees: a run that was cut off failed on its deadline, and a run whose
counters overflowed has none. -/
def result? (r : Reconciler) (bucket : String) :
    Ending (Except LifecycleError Outcome) → Option (Except LifecycleError Outcome)
  | .finished result => some result
  | .deadline => r.deadline.map fun limit => .error (.deadlineExceeded bucket limit)
  | .overflow => none

/-- Reconciles the bucket that a URI names.  A text that names none is rejected before any call. -/
def runUri {σ : Type} (r : Reconciler) (handler : Handler σ BucketCall (Except StoreError Snapshot))
    (uri : String) (decorate : Decorator) (check : Checker) (now : Instant) (state : σ) :
    Run σ BucketCall (Except StoreError Snapshot) (Except LifecycleError Outcome) :=
  match BucketUri.parse uri with
  | .error e => ⟨.finished (.error (.ofUri e)), [], now, state⟩
  | .ok bucket => r.run handler bucket.name decorate check now state

/-- The result of reconciling the bucket that a URI names. -/
def uriResult? (r : Reconciler) (uri : String)
    (ending : Ending (Except LifecycleError Outcome)) : Option (Except LifecycleError Outcome) :=
  r.result? ((BucketUri.parse uri).toOption.elim "" BucketUri.name) ending

end Reconciler

end BucketLifecycle
