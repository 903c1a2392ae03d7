import BucketLifecycle.Failure
import BucketLifecycle.Program

/-!
# Bounded retries

A call that fails transiently is made again, up to a number of times and with growing waits in
between; any other failure comes back at once, so that the caller can act on it.  The waits double
from a base up to a largest one.

Attempts are counted in 32 bits. `attempt` recurses on the room that is left in that counter, so it
is total for every policy, also for the one that allows `2^32 - 1` retries and would need to count
one further.
-/

set_option autoImplicit false

namespace BucketLifecycle

/-- How often a call is repeated, and how long to wait before each repetition. -/
structure RetryPolicy where
  /-- attempts allowed after the first -/
  maxRetries : UInt32
  /-- the wait before the first repetition -/
  baseDelay : Duration
  /-- the longest wait -/
  maxDelay : Duration
  deriving DecidableEq, Repr

namespace RetryPolicy

/-- Three repetitions, from 200 milliseconds up to five seconds apart. -/
def standard : RetryPolicy :=
  ⟨3, Duration.ofMillis 200, Duration.ofSeconds 5⟩

/-- A number of repetitions without waits. -/
def immediate (maxRetries : UInt32) : RetryPolicy :=
  ⟨maxRetries, Duration.zero, Duration.zero⟩

/-- The policy with another number of repetitions. -/
def withMaxRetries (p : RetryPolicy) (maxRetries : UInt32) : RetryPolicy :=
  { p with maxRetries }

/-- The policy with other waits; the longest is at least the first. -/
def withBackoff (p : RetryPolicy) (base max : Duration) : RetryPolicy :=
  { p with baseDelay := base, maxDelay := max.longer base }

/-- The wait before a repetition, counted from 1: the base doubled for each repetition before it,
thirty-one times at most, and never longer than the longest wait. -/
def delay (p : RetryPolicy) (retry : Nat) : Duration :=
  if p.baseDelay.nanoseconds = 0 then Duration.zero
  else (p.baseDelay.times (Nat.pow 2 (min (retry - 1) 31))).shorter p.maxDelay

end RetryPolicy

/-- Why a repeated call gave no value. -/
inductive RetryError where
  | permanent (e : StoreError)
  | exhausted (attempts : Nat) (last : StoreError)
  deriving DecidableEq, Repr

namespace RetryError

/-- The last failure of the call. -/
def storeError : RetryError → StoreError
  | .permanent e => e
  | .exhausted _ last => last

/-- The wording of a call that was given up. -/
def message : RetryError → String
  | .permanent e => e.message
  | .exhausted attempts last =>
    "gave up after " ++ String.ofList (Text.writeNat attempts) ++ " attempts: " ++ last.message

/-- The failure with the bucket and the operation that it ends. -/
def toLifecycle (bucket : String) (operation : Operation) : RetryError → LifecycleError
  | .permanent e => .remote bucket operation e
  | .exhausted attempts last => .retriesExhausted bucket operation attempts last

end RetryError

/-- The largest value of a 32-bit counter. -/
def counterLimit : Nat := UInt32.size - 1

variable {ι β : Type}

/-- Makes a call, having made `made` attempts before, with `room` left in the counter of attempts.
-/
def RetryPolicy.attempt (p : RetryPolicy) (c : ι) :
    (room made : Nat) → Program ι (Except StoreError β) (Except RetryError β)
  | 0, _ => .overflow
  | room + 1, made =>
    .call c fun answer =>
      match answer with
      | .ok value => .done (.ok value)
      | .error e =>
        if e.isTransient then
          if p.maxRetries.toNat < made + 1 then .done (.error (.exhausted (made + 1) e))
          else .pause (p.delay (made + 1)) (p.attempt c room (made + 1))
        else .done (.error (.permanent e))

/-- Makes a call until it succeeds, fails for good, or has been repeated often enough. -/
def RetryPolicy.execute (p : RetryPolicy) (c : ι) :
    Program ι (Except StoreError β) (Except RetryError β) :=
  p.attempt c counterLimit 0

end BucketLifecycle
