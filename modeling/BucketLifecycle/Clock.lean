import BucketLifecycle.Program

/-!
# Running a program on a clock

The clock counts milliseconds and moves only when a program waits or an answer takes its time.  A
wait ends at the next whole millisecond.  `Program.run` plays a program against a handler with a
state of its own and records each call with the time at which it starts and the answer to it.

A run may have a deadline.  Work that ends at the very millisecond of the deadline still counts;
the deadline wins when the program has to wait beyond it, and work that never waits beats every
deadline.
-/

set_option autoImplicit false

namespace BucketLifecycle

/-- The clock, in milliseconds. -/
abbrev Instant := Nat

/-- How many milliseconds a wait takes.  A span of `2^63` seconds or more lies beyond the clock and
is cut to thirty years. -/
def Duration.ticks (d : Duration) : Nat :=
  if d.seconds < Text.int64Limit then (d.nanoseconds + 999999) / 1000000
  else 30 * 365 * 86400 * 1000

/-- The answer to a call: what it says, how long it takes, and the state it leaves. -/
structure Reply (σ ρ : Type) where
  answer : ρ
  delay : Duration
  state : σ

/-- Who answers the calls of a program. -/
abbrev Handler (σ ι ρ : Type) := Instant → ι → σ → Reply σ ρ

/-- How a run ends. -/
inductive Ending (α : Type) where
  | finished (result : α)
  | deadline
  | overflow
  deriving Repr

/-- A call of a run, with the time at which it starts and the answer to it. -/
structure Exchange (ι ρ : Type) where
  request : ι
  start : Instant
  answer : ρ
  deriving DecidableEq, Repr

/-- A whole run: its ending, its calls in order, the time at which it ends, and the state that it
leaves.  The answer to the last call is recorded also where the deadline cuts the run off before
the program learns of it. -/
structure Run (σ ι ρ α : Type) where
  ending : Ending α
  exchanges : List (Exchange ι ρ)
  finish : Instant
  state : σ

/-- The calls of a run in order, each with the time at which it starts. -/
def Run.calls {σ ι ρ α : Type} (r : Run σ ι ρ α) : List (ι × Instant) :=
  r.exchanges.map fun e => (e.request, e.start)

namespace Program

variable {σ ι ρ α : Type}

/-- Waits until a time, unless the deadline comes first. -/
def untilDeadline (deadline : Option Instant) (now wake : Instant) (state : σ)
    (go : Instant → Run σ ι ρ α) : Run σ ι ρ α :=
  match deadline with
  | some limit =>
    if now < wake ∧ limit < wake then ⟨.deadline, [], limit, state⟩ else go wake
  | none => go wake

/-- Plays a program from a time on. -/
def run (handler : Handler σ ι ρ) (deadline : Option Instant) :
    Program ι ρ α → Instant → σ → Run σ ι ρ α
  | .done a, now, s => ⟨.finished a, [], now, s⟩
  | .overflow, now, s => ⟨.overflow, [], now, s⟩
  | .wait d next, now, s =>
    untilDeadline deadline now (now + d.ticks) s fun wake => next.run handler deadline wake s
  | .call c next, now, s =>
    let reply := handler now c s
    let rest := untilDeadline deadline now (now + reply.delay.ticks) reply.state fun wake =>
      (next reply.answer).run handler deadline wake reply.state
    { rest with exchanges := ⟨c, now, reply.answer⟩ :: rest.exchanges }

end Program

end BucketLifecycle
