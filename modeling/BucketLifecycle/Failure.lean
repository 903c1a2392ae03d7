import BucketLifecycle.Bucket.Uri
import BucketLifecycle.Duration
import BucketLifecycle.Text.Utf8

/-!
# Failures

A remote call fails with a `StoreError`.  Its kind decides what happens next: only a transient
failure is worth another attempt, a missing bucket and a taken name steer a reconciliation, and all
else ends it.  What reaches the caller of a reconciliation or a transfer is a `LifecycleError`,
which names the bucket and, where a remote call is behind it, keeps that call's failure.
-/

set_option autoImplicit false

namespace BucketLifecycle

open Text (writeNat quoted)

/-- A call to the remote store. -/
inductive Operation where
  | get
  | insert
  | update
  | delete
  | upload
  | download
  deriving DecidableEq, Repr

def Operation.verb : Operation → String
  | .get => "get"
  | .insert => "insert"
  | .update => "update"
  | .delete => "delete"
  | .upload => "upload"
  | .download => "download"

/-- What a failed call means for its caller. -/
inductive FailureKind where
  | notFound
  | conflict
  | forbidden
  | invalidRequest
  | transient
  deriving DecidableEq, Repr

/-- The failure of one remote call. -/
inductive StoreError where
  | notFound (message : String)
  | conflict (message : String)
  | forbidden (message : String)
  | invalidRequest (message : String)
  | server (status : Nat) (message : String)
  | transport (message : String)
  | decode (message : String)
  deriving DecidableEq, Repr

/-- An answer that cannot be decoded counts as a bad request: asking again would not help. -/
def StoreError.kind : StoreError → FailureKind
  | .notFound _ => .notFound
  | .conflict _ => .conflict
  | .forbidden _ => .forbidden
  | .invalidRequest _ => .invalidRequest
  | .decode _ => .invalidRequest
  | .server _ _ => .transient
  | .transport _ => .transient

/-- Whether the same call may succeed if it is made again. -/
def StoreError.isTransient (e : StoreError) : Bool :=
  e.kind == .transient

/-- Whether the bucket or object does not exist. -/
def StoreError.isNotFound (e : StoreError) : Bool :=
  e.kind == .notFound

def StoreError.isConflict (e : StoreError) : Bool :=
  e.kind == .conflict

/-- The wording of a failed call. -/
def StoreError.message : StoreError → String
  | .notFound m => "not found: " ++ m
  | .conflict m => "conflict: " ++ m
  | .forbidden m => "access denied: " ++ m
  | .invalidRequest m => "invalid request: " ++ m
  | .server status m => "server error (" ++ String.ofList (writeNat status) ++ "): " ++ m
  | .transport m => "transport error: " ++ m
  | .decode m => "undecodable response: " ++ m

/-- What ends a reconciliation or a transfer. -/
inductive LifecycleError where
  | invalidIdentifier (value reason : String)
  | invalidDesiredState (bucket reason : String)
  | remote (bucket : String) (operation : Operation) (source : StoreError)
  | retriesExhausted (bucket : String) (operation : Operation) (attempts : Nat)
      (source : StoreError)
  | conflictLoopExhausted (bucket : String) (cycles : Nat)
  | deadlineExceeded (bucket : String) (limit : Duration)
  | transfer (path : Bytes) (reason : String)
  | io (reason : String)
  deriving DecidableEq, Repr

def LifecycleError.ofUri (e : UriError) : LifecycleError :=
  .invalidIdentifier e.value e.reason.message

/-- The bucket that the failure is about. -/
def LifecycleError.bucket : LifecycleError → Option String
  | .invalidDesiredState b _ => some b
  | .remote b _ _ => some b
  | .retriesExhausted b _ _ _ => some b
  | .conflictLoopExhausted b _ => some b
  | .deadlineExceeded b _ => some b
  | .invalidIdentifier _ _ => none
  | .transfer _ _ => none
  | .io _ => none

/-- The failed call behind the failure. -/
def LifecycleError.storeError : LifecycleError → Option StoreError
  | .remote _ _ e => some e
  | .retriesExhausted _ _ _ e => some e
  | _ => none

/-- The wording of what lies behind the failure, where something does. -/
def LifecycleError.source : LifecycleError → Option String
  | .io reason => some reason
  | e => e.storeError.map StoreError.message

def LifecycleError.message : LifecycleError → String
  | .invalidIdentifier value reason => "invalid identifier " ++ quoted value ++ ": " ++ reason
  | .invalidDesiredState bucket reason =>
    "invalid desired state for bucket " ++ bucket ++ ": " ++ reason
  | .remote bucket operation source =>
    "failed to " ++ operation.verb ++ " bucket " ++ bucket ++ ": " ++ source.message
  | .retriesExhausted bucket operation attempts source =>
    "failed to " ++ operation.verb ++ " bucket " ++ bucket ++ " after " ++
      String.ofList (writeNat attempts) ++ " attempts: " ++ source.message
  | .conflictLoopExhausted bucket cycles =>
    "bucket " ++ bucket ++ " still conflicting after " ++ String.ofList (writeNat cycles) ++
      " create attempts"
  | .deadlineExceeded bucket limit =>
    "reconciliation of bucket " ++ bucket ++ " exceeded " ++ limit.toText
  | .transfer path reason =>
    "transfer of " ++ Text.utf8Lossy path ++ " failed: " ++ reason
  | .io reason => "io error: " ++ reason

/-- Only failures of the server and of the transport may pass by themselves. -/
theorem StoreError.kind_transient_iff (e : StoreError) :
    e.isTransient = true ↔ (∃ s m, e = .server s m) ∨ ∃ m, e = .transport m := by
  cases e <;> simp [StoreError.isTransient, StoreError.kind]

/-- Two steps in a row succeed only where both of them do. -/
theorem exists_of_bind_eq_ok {ε α β : Type} {x : Except ε α} {f : α → Except ε β} {b : β}
    (h : x >>= f = .ok b) : ∃ a, x = .ok a ∧ f a = .ok b := by
  cases x with
  | error e => cases h
  | ok a => exact ⟨a, rfl, h⟩

/-- A success of a mapped result is the image of a success. -/
theorem exists_of_map_eq_ok {ε α β : Type} {x : Except ε α} {f : α → β} {b : β}
    (h : x.map f = .ok b) : ∃ a, x = .ok a ∧ f a = b := by
  cases x with
  | error e => cases h
  | ok a => exact ⟨a, rfl, Except.ok.inj h⟩

/-- An error of a result with mapped errors is the image of an error. -/
theorem exists_of_mapError_eq_error {ε η α : Type} {f : ε → η} {x : Except ε α} {e : η}
    (h : x.mapError f = .error e) : ∃ d, x = .error d ∧ f d = e := by
  cases x with
  | error d => exact ⟨d, rfl, Except.error.inj h⟩
  | ok a => cases h

/-- Mapping the errors of a result leaves its successes. -/
theorem eq_ok_of_mapError {ε η α : Type} {f : ε → η} {x : Except ε α} {a : α}
    (h : x.mapError f = .ok a) : x = .ok a := by
  cases x with
  | error e => cases h
  | ok b =>
    cases h
    rfl

/-- The value that a result has as an option is what it succeeds with. -/
theorem toOption_eq_some {ε α : Type} {x : Except ε α} {a : α} (h : x.toOption = some a) :
    x = .ok a := by
  cases x with
  | error e => cases h
  | ok b =>
    cases h
    rfl

/-- A result that has no value as an option is an error. -/
theorem toOption_eq_none {ε α : Type} {x : Except ε α} (h : x.toOption = none) :
    ∃ e, x = .error e := by
  cases x with
  | error e => exact ⟨e, rfl⟩
  | ok a => cases h

end BucketLifecycle
