import BucketLifecycle.Duration

/-!
# Programs that call a remote store

A program is a tree of the calls it makes.  It ends with a result, makes a call and goes on with the
answer, or waits and goes on.  It says nothing of who answers: a script, an in-memory store, a
network, or other programs in between can all drive the same program.

Every path through a program is finite, whatever the answers are.  Where a 32-bit counter would have
to pass its largest value the program ends in `overflow` and has no result.
-/

set_option autoImplicit false

namespace BucketLifecycle

/-- A program that makes calls of type `ι`, is answered by values of type `ρ`, and ends with a
result of type `α`. -/
inductive Program (ι ρ α : Type) where
  | done (result : α)
  | call (request : ι) (next : ρ → Program ι ρ α)
  | wait (span : Duration) (next : Program ι ρ α)
  | overflow

namespace Program

variable {ι κ ρ σ α β : Type}

/-- Goes on with another program where this one ends. -/
def bind : Program ι ρ α → (α → Program ι ρ β) → Program ι ρ β
  | .done a, f => f a
  | .call c next, f => .call c fun r => (next r).bind f
  | .wait d next, f => .wait d (next.bind f)
  | .overflow, _ => .overflow

instance : Monad (Program ι ρ) where
  pure := .done
  bind := bind

def request (c : ι) : Program ι ρ ρ :=
  .call c .done

/-- Waits, unless the span is empty. -/
def pause (d : Duration) (next : Program ι ρ α) : Program ι ρ α :=
  if d.nanoseconds = 0 then next else .wait d next

/-- Replaces each call by a program of other calls. -/
def expand (f : ι → Program κ σ ρ) : Program ι ρ α → Program κ σ α
  | .done a => .done a
  | .call c next => (f c).bind fun r => (next r).expand f
  | .wait d next => .wait d (next.expand f)
  | .overflow => .overflow

/-- What follows a finished program begins with its result. -/
@[simp] theorem bind_done (a : α) (f : α → Program ι ρ β) : (done a).bind f = f a := rfl

/-- What follows a call and its continuation follows each of the continuations. -/
@[simp] theorem bind_call (c : ι) (next : ρ → Program ι ρ α) (f : α → Program ι ρ β) :
    (call c next).bind f = call c fun r => (next r).bind f := rfl

/-- What follows a wait and the program behind it follows that program. -/
@[simp] theorem bind_wait (d : Duration) (next : Program ι ρ α) (f : α → Program ι ρ β) :
    (wait d next).bind f = wait d (next.bind f) := rfl

/-- Nothing follows an overflow. -/
@[simp] theorem bind_overflow (f : α → Program ι ρ β) :
    (overflow : Program ι ρ α).bind f = overflow := rfl

end Program

end BucketLifecycle
