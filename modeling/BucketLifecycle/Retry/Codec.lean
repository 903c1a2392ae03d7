import BucketLifecycle.Retry
import BucketLifecycle.Json.Decode
import BucketLifecycle.Json.Writer

/-!
# Retry policies as JSON

Waits are written in whole milliseconds, as a 64-bit number.  A field that is not given keeps its
standard value.
-/

set_option autoImplicit false

namespace BucketLifecycle.RetryPolicy

open Json

def encode (p : RetryPolicy) : Node :=
  .ofMembers [("max_retries", .ofNat p.maxRetries.toNat),
    ("base_delay", .ofNat p.baseDelay.millis.toNat),
    ("max_delay", .ofNat p.maxDelay.millis.toNat)]

/-- Reads a wait in milliseconds. -/
def decodeMillis : Decoder Duration := fun n =>
  (Decoder.uint64 n).map Duration.ofMillis

def maxRetriesField : RecordField UInt32 := ⟨"max_retries", 0, .uint32, some standard.maxRetries⟩

/-- The wait before the first repetition. -/
def baseDelayField : RecordField Duration :=
  ⟨"base_delay", 1, decodeMillis, some standard.baseDelay⟩

def maxDelayField : RecordField Duration := ⟨"max_delay", 2, decodeMillis, some standard.maxDelay⟩

def decode : Decoder RetryPolicy :=
  Decoder.record "RetryConfig"
    [maxRetriesField.toCheck, baseDelayField.toCheck, maxDelayField.toCheck] fun fields => do
    let maxRetries ← fields.get maxRetriesField
    let baseDelay ← fields.get baseDelayField
    let maxDelay ← fields.get maxDelayField
    return ⟨maxRetries, baseDelay, maxDelay⟩

end BucketLifecycle.RetryPolicy
