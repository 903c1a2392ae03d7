import BucketLifecycle.Reconcile
import BucketLifecycle.Retry.Codec

/-!
# Settings

What all commands share: where the store is, who asks, and how patiently.  A field that a text
leaves out keeps its standard value.
-/

set_option autoImplicit false

namespace BucketLifecycle

open Json

/-- The endpoint of the public storage service. -/
def defaultEndpoint : String := "https://storage.googleapis.com"

/-- The settings of a command. -/
structure Settings where
  endpoint : String
  project : Option String
  accessToken : Option String
  /-- the longest that one request may take, in seconds -/
  timeoutSecs : UInt64
  retry : RetryPolicy
  maxConflictCycles : UInt32
  /-- the longest that a reconciliation may take, in seconds; zero for no limit -/
  deadlineSecs : UInt64
  deriving DecidableEq, Repr

namespace Settings

/-- The settings where nothing is said. -/
def standard : Settings :=
  ⟨defaultEndpoint, none, none, 30, .standard, 3, 300⟩

def reconciler (s : Settings) : Reconciler :=
  { retry := s.retry
    maxConflictCycles := s.maxConflictCycles
    deadline := if s.deadlineSecs = 0 then none else some (Duration.ofSeconds s.deadlineSecs) }

def encode (s : Settings) : Node :=
  .ofMembers [("endpoint", .ofString s.endpoint),
    ("project", s.project.elim .null .ofString),
    ("access_token", s.accessToken.elim .null .ofString),
    ("timeout_secs", .ofNat s.timeoutSecs.toNat),
    ("retry", s.retry.encode),
    ("max_conflict_cycles", .ofNat s.maxConflictCycles.toNat),
    ("deadline_secs", .ofNat s.deadlineSecs.toNat)]

def endpointField : RecordField String := ⟨"endpoint", 0, .string, some standard.endpoint⟩

def projectField : RecordField (Option String) :=
  ⟨"project", 1, .option .string, some standard.project⟩

def accessTokenField : RecordField (Option String) :=
  ⟨"access_token", 2, .option .string, some standard.accessToken⟩

/-- The longest time for a request. -/
def timeoutSecsField : RecordField UInt64 := ⟨"timeout_secs", 3, .uint64, some standard.timeoutSecs⟩

def retryField : RecordField RetryPolicy := ⟨"retry", 4, RetryPolicy.decode, some standard.retry⟩

def maxConflictCyclesField : RecordField UInt32 :=
  ⟨"max_conflict_cycles", 5, .uint32, some standard.maxConflictCycles⟩

/-- The longest time for a reconciliation. -/
def deadlineSecsField : RecordField UInt64 :=
  ⟨"deadline_secs", 6, .uint64, some standard.deadlineSecs⟩

def decode : Decoder Settings :=
  Decoder.record "StewardConfig"
    [endpointField.toCheck, projectField.toCheck, accessTokenField.toCheck,
      timeoutSecsField.toCheck, retryField.toCheck, maxConflictCyclesField.toCheck,
      deadlineSecsField.toCheck] fun fields => do
    let endpoint ← fields.get endpointField
    let project ← fields.get projectField
    let accessToken ← fields.get accessTokenField
    let timeoutSecs ← fields.get timeoutSecsField
    let retry ← fields.get retryField
    let maxConflictCycles ← fields.get maxConflictCyclesField
    let deadlineSecs ← fields.get deadlineSecsField
    return ⟨endpoint, project, accessToken, timeoutSecs, retry, maxConflictCycles, deadlineSecs⟩

end Settings

end BucketLifecycle
