import BucketLifecycle.Proofs.Run.NestedRun

/-!
# What a program does, step by step

A run tells of a wait only by the times of the calls behind it, in whole milliseconds.  The journal
of a program that is not cut off has each wait with its full span, between the calls that it
separates.

`sleptTime` adds up the waits. `sleptTime_journal_expand_le` bounds them for a program whose calls
stand for programs of other calls: by what one of these can wait, once for each of them.
-/

set_option autoImplicit false

namespace BucketLifecycle

variable {σ ι κ τ ρ α β : Type}

/-- A call with the answer to it, or a wait. -/
inductive Step (ι ρ : Type) where
  | called (request : ι) (answer : ρ)
  | slept (span : Duration)

/-- The time that a step sleeps, in nanoseconds. -/
def Step.span : Step ι ρ → Nat
  | .called _ _ => 0
  | .slept d => d.nanoseconds

/-- The time that all the steps sleep together, in nanoseconds. -/
def sleptTime (steps : List (Step ι ρ)) : Nat :=
  steps.foldr (fun step total => step.span + total) 0

/-- No steps sleep for no time. -/
@[simp] theorem sleptTime_nil : sleptTime ([] : List (Step ι ρ)) = 0 := rfl

/-- The time of a first step comes on top of that of the others. -/
@[simp] theorem sleptTime_cons (step : Step ι ρ) (steps : List (Step ι ρ)) :
    sleptTime (step :: steps) = step.span + sleptTime steps := rfl

/-- The times of steps in two parts add up. -/
@[simp] theorem sleptTime_append (steps later : List (Step ι ρ)) :
    sleptTime (steps ++ later) = sleptTime steps + sleptTime later := by
  induction steps with
  | nil => simp
  | cons step steps ih => simp [ih, Nat.add_assoc]

/-- The steps that come after a run: those of what follows where it finishes, and none where it
stops short. -/
def Run.stepsAfter (r : Run σ κ τ α) (go : α → Instant → σ → List (Step ι ρ)) :
    List (Step ι ρ) :=
  match r.ending with
  | .finished a => go a r.finish r.state
  | .deadline => []
  | .overflow => []

namespace Program

/-- The steps of a program that is played without a deadline. -/
def journal (handler : Handler σ ι ρ) : Program ι ρ α → Instant → σ → List (Step ι ρ)
  | .done _, _, _ => []
  | .overflow, _, _ => []
  | .wait d next, now, s => .slept d :: next.journal handler (now + d.ticks) s
  | .call c next, now, s =>
    let reply := handler now c s
    .called c reply.answer ::
      (next reply.answer).journal handler (now + reply.delay.ticks) reply.state

/-- The journal of a call is the answer to it and what follows that. -/
theorem journal_call (handler : Handler σ ι ρ) (c : ι) (rest : ρ → Program ι ρ α) (now : Instant)
    (s : σ) :
    (call c rest).journal handler now s = .called c (handler now c s).answer ::
      (rest (handler now c s).answer).journal handler (now + (handler now c s).delay.ticks)
        (handler now c s).state := rfl

/-- The steps of one program followed by another, as far as it gets. -/
theorem journal_bind (handler : Handler σ ι ρ) (p : Program ι ρ α) (f : α → Program ι ρ β)
    (now : Instant) (s : σ) :
    (p.bind f).journal handler now s = p.journal handler now s ++
      (p.run handler none now s).stepsAfter fun a now s => (f a).journal handler now s := by
  induction p generalizing now s with
  | done a => rfl
  | overflow => rfl
  | wait d p ih => exact congrArg (List.cons (.slept d)) (ih _ _)
  | call c rest ih => exact congrArg (List.cons (.called c (handler now c s).answer)) (ih _ _ _)

/-- Whether a program goes from each call to the next without a wait. -/
def NeverWaits : Program ι ρ α → Prop
  | .done _ => True
  | .call _ next => ∀ answer, (next answer).NeverWaits
  | .wait _ _ => False
  | .overflow => True

/-- A program that does not wait by itself waits only within the programs that its calls stand for,
no longer than `bound` in each. -/
theorem sleptTime_journal_expand_le {f : ι → Program κ τ ρ} {handler : Handler σ κ τ} {bound : Nat}
    (hf : ∀ c now s, sleptTime ((f c).journal handler now s) ≤ bound) {p : Program ι ρ α}
    (hp : p.NeverWaits) (now : Instant) (s : σ) :
    sleptTime ((p.expand f).journal handler now s) ≤
      bound * (p.nestedRun f handler none now s).exchanges.length := by
  induction p generalizing now s with
  | done a => exact Nat.zero_le _
  | overflow => exact Nat.zero_le _
  | wait d p ih => exact absurd hp id
  | call c rest ih =>
    have hfirst := hf c now s
    unfold expand nestedRun
    rw [journal_bind, sleptTime_append, Run.exchanges_after, List.length_append,
      List.length_singleton, Nat.mul_add, Nat.mul_one]
    apply Nat.add_le_add hfirst
    -- What follows the first call waits only where that call comes to a result.
    unfold Run.stepsAfter Run.next
    cases ((f c).run handler none now s).ending with
    | finished a => exact ih a (hp a) _ _
    | deadline => exact Nat.zero_le _
    | overflow => exact Nat.zero_le _

end Program

end BucketLifecycle
