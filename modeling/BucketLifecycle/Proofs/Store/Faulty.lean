import BucketLifecycle.Proofs.Reconcile.Course
import BucketLifecycle.Proofs.Store.Memory

/-!
# An in-memory store behind an unreliable connection

A call to the store is served, or the call is lost on its way, or its answer is lost on the way
back.  The two losses look alike to the caller, who gets a transient failure in both cases.  An
`Adversary` decides which of the three becomes of each call, in view of everything there is to see.

`logicalCall_result` says what retries make of such a store: a repeated call either is given up, or
comes to the answer that the store gave to its last attempt.
-/

set_option autoImplicit false

namespace BucketLifecycle

variable {τ : Type}

/-- A failure after which the same call may be made again. -/
abbrev TransientError := { e : StoreError // e.isTransient = true }

/-- What becomes of a call. -/
inductive Delivery where
  | served
  | answerLost (e : TransientError)
  | requestLost (e : TransientError)

/-- What an adversary decides on a call. -/
structure Move (τ : Type) where
  delivery : Delivery
  /-- the time of the store's clock -/
  time : Timestamp
  /-- how long the caller waits for the answer -/
  delay : Duration
  /-- what the adversary remembers from now on -/
  memory : τ

/-- Decides on each call from what it remembers, the time, the call and the store. -/
abbrev Adversary (τ : Type) := τ → Instant → BucketCall → MemoryStore → Move τ

/-- A store behind a connection that an adversary controls. -/
structure FaultyStore (τ : Type) where
  store : MemoryStore
  /-- how many creations took effect -/
  created : Nat
  memory : τ

/-- How many buckets a call created, by the answer of the store to it. -/
def BucketCall.creations (c : BucketCall) (answer : Except StoreError Snapshot) : Nat :=
  match c, answer with
  | .insert _, .ok _ => 1
  | _, _ => 0

/-- A law of the store and of its creations that an answer of the store to a call preserves. -/
def BucketCall.Keeps (c : BucketCall) (Inv : MemoryStore → Nat → Prop) : Prop :=
  ∀ m created time, Inv m created →
    Inv (m.answer time c).2 (created + c.creations (m.answer time c).1)

/-- The call was given up after a transient failure. -/
def GivenUp (result : LogicalAnswer) : Prop :=
  ∃ n e, e.isTransient = true ∧ result = .error (.exhausted n e)

namespace FaultyStore

/-- The state after a call that reached the store. -/
def reached (x : FaultyStore τ) (c : BucketCall) (move : Move τ) : FaultyStore τ where
  store := (x.store.answer move.time c).2
  created := x.created + c.creations (x.store.answer move.time c).1
  memory := move.memory

/-- Answers calls as the adversary decides. -/
def handler (adversary : Adversary τ) : StoreHandler (FaultyStore τ) := fun now c x =>
  let move := adversary x.memory now c x.store
  match move.delivery with
  | .served => ⟨(x.store.answer move.time c).1, move.delay, x.reached c move⟩
  | .answerLost e => ⟨.error e.val, move.delay, x.reached c move⟩
  | .requestLost e => ⟨.error e.val, move.delay, { x with memory := move.memory }⟩

variable {adversary : Adversary τ} {c : BucketCall} {now : Instant} {x : FaultyStore τ}

/-- What an answer of the store preserves survives every decision of the adversary. -/
theorem handler_keeps {Inv : MemoryStore → Nat → Prop} (hkeep : c.Keeps Inv)
    (hx : Inv x.store x.created) :
    Inv (handler adversary now c x).state.store (handler adversary now c x).state.created := by
  unfold handler
  dsimp only
  cases (adversary x.memory now c x.store).delivery with
  | served => exact hkeep _ _ _ hx
  | answerLost e => exact hkeep _ _ _ hx
  | requestLost e => exact hx

/-- Only the store itself gives an answer that is not a transient failure. -/
theorem answer_eq_of_handler {answer : Except StoreError Snapshot}
    (hanswer : (handler adversary now c x).answer = answer)
    (hkind : ∀ e, answer = .error e → e.isTransient = false) :
    ∃ time, (handler adversary now c x).state.store = (x.store.answer time c).2 ∧
      answer = (x.store.answer time c).1 := by
  have hlost (e : TransientError) : .error e.val ≠ answer := by
    rintro rfl
    exact absurd e.property (by simp [hkind e.val rfl])
  unfold handler at hanswer ⊢
  dsimp only at hanswer ⊢
  cases hdelivery : (adversary x.memory now c x.store).delivery with
  | served =>
    rw [hdelivery] at hanswer
    exact ⟨_, rfl, hanswer.symm⟩
  | answerLost e =>
    rw [hdelivery] at hanswer
    exact absurd hanswer (hlost e)
  | requestLost e =>
    rw [hdelivery] at hanswer
    exact absurd hanswer (hlost e)

/-- What an answer of the store preserves holds after a repeated call, however it ends. -/
theorem logicalCall_keeps {Inv : MemoryStore → Nat → Prop} (hkeep : c.Keeps Inv)
    (hx : Inv x.store x.created) {p : RetryPolicy} {deadline : Option Instant}
    {call : LogicalCall (FaultyStore τ)}
    (hcall : call = p.logicalCall (handler adversary) deadline c now x) :
    Inv call.answer.state.store call.answer.state.created := by
  rw [hcall]
  exact (attempts_execute now x).invariant (fun y => Inv y.store y.created)
    (fun _ _ hy => handler_keeps hkeep hy) hx

/-- A repeated call is given up, or it comes to the answer of the store in a state that the
attempts before preserve. -/
theorem logicalCall_result {Inv : MemoryStore → Nat → Prop} (hkeep : c.Keeps Inv)
    (hx : Inv x.store x.created) {p : RetryPolicy} {deadline : Option Instant}
    {call : LogicalCall (FaultyStore τ)}
    (hcall : call = p.logicalCall (handler adversary) deadline c now x) {result : LogicalAnswer}
    (hresult : call.answer.ending = .finished result) :
    GivenUp result ∨ ∃ m created time, Inv m created ∧
      call.answer.state.store = (m.answer time c).2 ∧
        result = (m.answer time c).1.mapError .permanent := by
  have hattempts : Attempts p c (handler adversary) deadline 0 now x call.answer := by
    rw [hcall]
    exact attempts_execute now x
  obtain ⟨start, at_, hat, hanswer, hstate, -⟩ :=
    hattempts.last_attempt (fun y => Inv y.store y.created)
      (fun _ _ _ hy _ _ => handler_keeps hkeep hy) hx hresult
  rw [hstate]
  cases result with
  | ok s =>
    obtain ⟨time, hstore, hok⟩ := answer_eq_of_handler hanswer nofun
    exact .inr ⟨at_.store, at_.created, time, hat, hstore, by rw [← hok]; rfl⟩
  | error failure =>
    cases failure with
    | permanent e =>
      have hkind := hattempts.isTransient_of_permanent hresult
      obtain ⟨time, hstore, herror⟩ := answer_eq_of_handler hanswer fun e' he' => by
        cases he'
        exact hkind
      exact .inr ⟨at_.store, at_.created, time, hat, hstore, by rw [← herror]; rfl⟩
    | exhausted n e => exact .inl ⟨n, e, hattempts.isTransient_of_exhausted hresult, rfl⟩

end FaultyStore

end BucketLifecycle
