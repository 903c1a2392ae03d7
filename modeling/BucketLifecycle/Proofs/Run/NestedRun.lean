import BucketLifecycle.Clock

/-!
# Runs within runs

A program whose calls stand for programs of other calls can be run in two ways: each call is
replaced first (`Program.expand`) and the whole is run, or the program is run as it stands and each
of its calls is answered by the run of the program behind it (`Program.nestedRun`).  The second way
keeps together what belongs to one call. `run_expand` says that it forgets nothing else: flattened,
the nested run is the run of the expanded program, call by call, with the same ending, at the same
time and in the same state.

The proof goes through `run_bind`: a run of `p.bind f` is a run of `p` and, where that one
finishes, a run of `f` from the time and the state in which it does.
-/

set_option autoImplicit false

namespace BucketLifecycle

variable {σ ι κ τ ρ α β : Type}

def Ending.IsStopped : Ending α → Prop
  | .finished _ => False
  | .deadline => True
  | .overflow => True

/-- A run that stopped short has no result. -/
theorem Ending.IsStopped.ne_finished {e : Ending α} (h : e.IsStopped) (a : α) :
    e ≠ .finished a := by
  rintro rfl
  exact h

/-- A run has a result or stopped short. -/
theorem Ending.finished_or_isStopped (e : Ending α) :
    (∃ a, e = .finished a) ∨ e.IsStopped := by
  cases e with
  | finished a => exact .inl ⟨a, rfl⟩
  | deadline => exact .inr trivial
  | overflow => exact .inr trivial

namespace Run

/-- What comes after a run: another run where it finishes, and nothing where it stops short. -/
def next (r : Run σ κ τ α) (go : α → Instant → σ → Run σ ι ρ β) : Run σ ι ρ β :=
  match r.ending with
  | .finished a => go a r.finish r.state
  | .deadline => ⟨.deadline, [], r.finish, r.state⟩
  | .overflow => ⟨.overflow, [], r.finish, r.state⟩

/-- The run with earlier calls in front of its own. -/
def after (r : Run σ ι ρ α) (earlier : List (Exchange ι ρ)) : Run σ ι ρ α :=
  { r with exchanges := earlier ++ r.exchanges }

/-- A run that goes on with another one where it finishes. -/
def andThen (r : Run σ ι ρ α) (go : α → Instant → σ → Run σ ι ρ β) : Run σ ι ρ β :=
  (r.next go).after r.exchanges

/-- The answer to the last call of a run. -/
def lastAnswer? (r : Run σ ι ρ α) : Option ρ :=
  r.exchanges.getLast?.map Exchange.answer

/-- The run of the calls behind the calls of a run. -/
def flatten (r : Run σ ι (Run σ κ τ ρ) α) : Run σ κ τ α :=
  ⟨r.ending, r.exchanges.flatMap fun e => e.answer.exchanges, r.finish, r.state⟩

/-- The calls before a run come first. -/
@[simp] theorem exchanges_after (r : Run σ ι ρ α) (earlier : List (Exchange ι ρ)) :
    (r.after earlier).exchanges = earlier ++ r.exchanges := rfl

/-- Later calls do not change which of the answers is the last one, unless there are none. -/
theorem lastAnswer?_after (r : Run σ ι ρ α) (earlier : List (Exchange ι ρ))
    (h : r.exchanges ≠ []) : (r.after earlier).lastAnswer? = r.lastAnswer? := by
  unfold lastAnswer?
  rw [exchanges_after, List.getLast?_append, List.getLast?_eq_some_getLast h]
  rfl

/-- What follows a finished run goes on from its result. -/
theorem next_of_finished {r : Run σ κ τ α} {a : α} (h : r.ending = .finished a)
    (go : α → Instant → σ → Run σ ι ρ β) : r.next go = go a r.finish r.state := by
  simp only [next, h]

/-- Nothing follows a run that stopped short, and it stops the whole. -/
theorem next_of_isStopped {r : Run σ κ τ α} (h : r.ending.IsStopped)
    (go : α → Instant → σ → Run σ ι ρ β) :
    ∃ ending : Ending β, ending.IsStopped ∧ r.next go = ⟨ending, [], r.finish, r.state⟩ := by
  unfold next
  cases hending : r.ending with
  | finished a => exact absurd h (by simp [hending, Ending.IsStopped])
  | deadline => exact ⟨.deadline, trivial, rfl⟩
  | overflow => exact ⟨.overflow, trivial, rfl⟩

/-- A call before a run comes before what follows that run too. -/
theorem after_andThen (r : Run σ ι ρ α) (e : Exchange ι ρ)
    (go : α → Instant → σ → Run σ ι ρ β) :
    (r.after [e]).andThen go = (r.andThen go).after [e] := by
  unfold andThen next
  cases h : r.ending <;> simp [h, after]

/-- The calls behind a call come before those behind later ones. -/
theorem flatten_after (r : Run σ ι (Run σ κ τ ρ) α) (e : Exchange ι (Run σ κ τ ρ)) :
    (r.after [e]).flatten = r.flatten.after e.answer.exchanges := rfl

end Run

namespace Program

/-- A wait either ends in time, or the deadline cuts the run off during it. -/
theorem untilDeadline_cases (deadline : Option Instant) (now wake : Instant) (s : σ)
    (go : Instant → Run σ ι ρ α) :
    untilDeadline deadline now wake s go = go wake ∨
      ∃ limit, deadline = some limit ∧ now < wake ∧ limit < wake ∧
        untilDeadline deadline now wake s go = ⟨.deadline, [], limit, s⟩ := by
  unfold untilDeadline
  cases deadline with
  | none => exact .inl rfl
  | some limit =>
    by_cases h : now < wake ∧ limit < wake
    · exact .inr ⟨limit, rfl, h.1, h.2, if_pos h⟩
    · exact .inl (if_neg h)

/-- A wait that takes no time meets no deadline. -/
theorem untilDeadline_self (deadline : Option Instant) (now : Instant) (s : σ)
    (go : Instant → Run σ ι ρ α) : untilDeadline deadline now now s go = go now := by
  rcases untilDeadline_cases deadline now now s go with h | ⟨limit, -, hlt, -⟩
  · exact h
  · exact absurd hlt (Nat.lt_irrefl now)

/-- A run that comes to a result is not cut off in a wait before it. -/
theorem untilDeadline_of_finished {deadline : Option Instant} {now wake : Instant} {s : σ}
    {go : Instant → Run σ ι ρ α} {a : α}
    (h : (untilDeadline deadline now wake s go).ending = .finished a) :
    untilDeadline deadline now wake s go = go wake := by
  rcases untilDeadline_cases deadline now wake s go with hgo | ⟨limit, -, -, -, hcut⟩
  · exact hgo
  · rw [hcut] at h
    cases h

/-- Whatever turns a run that was cut off into itself may look through a wait. -/
theorem untilDeadline_map (deadline : Option Instant) (now wake : Instant) (s : σ)
    (go : Instant → Run σ ι ρ α) (f : Run σ ι ρ α → Run σ κ τ β)
    (hf : ∀ limit, f ⟨.deadline, [], limit, s⟩ = ⟨.deadline, [], limit, s⟩) :
    f (untilDeadline deadline now wake s go) =
      untilDeadline deadline now wake s fun w => f (go w) := by
  unfold untilDeadline
  cases deadline with
  | none => rfl
  | some limit =>
    dsimp only
    split
    · exact hf limit
    · rfl

/-- A call is answered first, and the rest is run unless the deadline has come. -/
theorem run_call (handler : Handler σ ι ρ) (deadline : Option Instant) (c : ι)
    (rest : ρ → Program ι ρ α) (now : Instant) (s : σ) :
    (call c rest).run handler deadline now s =
      (untilDeadline deadline now (now + (handler now c s).delay.ticks) (handler now c s).state
        fun wake => (rest (handler now c s).answer).run handler deadline wake
          (handler now c s).state).after [⟨c, now, (handler now c s).answer⟩] := rfl

/-- A wait is over first, and the rest is run unless the deadline has come. -/
theorem run_wait (handler : Handler σ ι ρ) (deadline : Option Instant) (d : Duration)
    (p : Program ι ρ α) (now : Instant) (s : σ) :
    (wait d p).run handler deadline now s =
      untilDeadline deadline now (now + d.ticks) s fun wake => p.run handler deadline wake s := rfl

/-- A run of one program followed by another, as far as it gets. -/
theorem run_bind (handler : Handler σ ι ρ) (deadline : Option Instant) (p : Program ι ρ α)
    (f : α → Program ι ρ β) (now : Instant) (s : σ) :
    (p.bind f).run handler deadline now s =
      (p.run handler deadline now s).andThen fun a now s => (f a).run handler deadline now s := by
  induction p generalizing now s with
  | done a => rfl
  | overflow => rfl
  | wait d p ih =>
    rw [bind_wait, run_wait, run_wait]
    rw [untilDeadline_map deadline now _ s _
      (fun r => r.andThen fun a now s => (f a).run handler deadline now s) fun _ => rfl]
    simp only [ih]
  | call c rest ih =>
    rw [bind_call, run_call, run_call, Run.after_andThen]
    rw [untilDeadline_map deadline now _ _ _
      (fun r => r.andThen fun a now s => (f a).run handler deadline now s) fun _ => rfl]
    simp only [ih]

/-- What holds of no calls at all, and of a call in front of others where it holds of these, holds
of every run, wherever the run ends. -/
theorem run_traces (Traces : σ → List (Exchange ι ρ) → σ → Prop) {handler : Handler σ ι ρ}
    (hnil : ∀ s, Traces s [] s)
    (hcons : ∀ now c s later after, Traces (handler now c s).state later after →
      Traces s (⟨c, now, (handler now c s).answer⟩ :: later) after)
    (deadline : Option Instant) (p : Program ι ρ α) (now : Instant) (s : σ) :
    Traces s (p.run handler deadline now s).exchanges (p.run handler deadline now s).state := by
  induction p generalizing now s with
  | done a => exact hnil s
  | overflow => exact hnil s
  | wait d p ih =>
    rw [run_wait]
    rcases untilDeadline_cases deadline now (now + d.ticks) s
      (fun wake => p.run handler deadline wake s) with h | ⟨limit, -, -, -, h⟩
    · rw [h]
      exact ih _ _
    · rw [h]
      exact hnil s
  | call c rest ih =>
    rw [run_call, Run.exchanges_after]
    apply hcons
    rcases untilDeadline_cases deadline now (now + (handler now c s).delay.ticks)
      (handler now c s).state (fun wake => (rest (handler now c s).answer).run handler deadline wake
        (handler now c s).state) with h | ⟨limit, -, -, -, h⟩
    · rw [h]
      exact ih _ _ _
    · rw [h]
      exact hnil _

/-- The state that some calls leave, which are made one after another. -/
def stateAfter (handler : Handler σ ι ρ) (s : σ) (calls : List (Exchange ι ρ)) : σ :=
  calls.foldl (fun s e => (handler e.start e.request s).state) s

/-- Each call of a run is answered in the state that the calls before it leave. -/
theorem answer_eq_handler {handler : Handler σ ι ρ} {deadline : Option Instant}
    {p : Program ι ρ α} {now : Instant} {s : σ} {earlier later : List (Exchange ι ρ)}
    {e : Exchange ι ρ} (h : (p.run handler deadline now s).exchanges = earlier ++ e :: later) :
    e.answer = (handler e.start e.request (stateAfter handler s earlier)).answer := by
  refine run_traces (fun s calls _ => ∀ earlier e later, calls = earlier ++ e :: later →
      e.answer = (handler e.start e.request (stateAfter handler s earlier)).answer)
    ?_ ?_ deadline p now s earlier e later h
  · intro s earlier e later hnil
    exact absurd hnil (by simp)
  · intro now c s calls after ih earlier e later hsplit
    rcases List.cons_eq_append_iff.1 hsplit with ⟨rfl, heq⟩ | ⟨middle, rfl, hrest⟩
    · cases heq
      rfl
    · exact ih middle e later hrest

/-- Plays a program each of whose calls stands for a program of other calls.  What is recorded as
the answer to a call is the whole run of the program behind it. -/
def nestedRun (f : ι → Program κ τ ρ) (handler : Handler σ κ τ) (deadline : Option Instant) :
    Program ι ρ α → Instant → σ → Run σ ι (Run σ κ τ ρ) α
  | .done a, now, s => ⟨.finished a, [], now, s⟩
  | .overflow, now, s => ⟨.overflow, [], now, s⟩
  | .wait d next, now, s =>
    untilDeadline deadline now (now + d.ticks) s fun wake =>
      next.nestedRun f handler deadline wake s
  | .call c next, now, s =>
    let inner := (f c).run handler deadline now s
    (inner.next fun a now s => (next a).nestedRun f handler deadline now s).after [⟨c, now, inner⟩]

/-- Flattened, the nested run is the run of the program in which each call is replaced. -/
theorem run_expand (f : ι → Program κ τ ρ) (handler : Handler σ κ τ) (deadline : Option Instant)
    (p : Program ι ρ α) (now : Instant) (s : σ) :
    (p.expand f).run handler deadline now s = (p.nestedRun f handler deadline now s).flatten := by
  induction p generalizing now s with
  | done a => rfl
  | overflow => rfl
  | wait d p ih =>
    unfold expand nestedRun
    rw [run_wait, untilDeadline_map deadline now _ s _ Run.flatten fun _ => rfl]
    simp only [ih]
  | call c rest ih =>
    -- Where the program behind the call stops short, both sides end with what it did so far.
    unfold expand nestedRun
    rw [run_bind, Run.flatten_after]
    unfold Run.andThen Run.next
    cases (f c).run handler deadline now s with
    | mk ending exchanges finish state =>
      cases ending with
      | finished a => simp only [ih]
      | deadline => rfl
      | overflow => rfl

/-- Each answer of a nested run is the run of the program behind its call. -/
theorem exists_answer_eq_run (f : ι → Program κ τ ρ) (handler : Handler σ κ τ)
    (deadline : Option Instant) (p : Program ι ρ α) (now : Instant) (s : σ) :
    ∀ e ∈ (p.nestedRun f handler deadline now s).exchanges,
      ∃ at_, e.answer = (f e.request).run handler deadline e.start at_ := by
  induction p generalizing now s with
  | done a => exact fun e he => absurd he List.not_mem_nil
  | overflow => exact fun e he => absurd he List.not_mem_nil
  | wait d p ih =>
    intro e he
    unfold nestedRun at he
    rcases untilDeadline_cases deadline now (now + d.ticks) s
      (fun wake => p.nestedRun f handler deadline wake s) with h | ⟨limit, -, -, -, h⟩
    · rw [h] at he
      exact ih _ _ e he
    · rw [h] at he
      exact absurd he List.not_mem_nil
  | call c rest ih =>
    intro e he
    unfold nestedRun at he
    rcases List.mem_cons.1 he with rfl | he
    · exact ⟨s, rfl⟩
    · rcases ((f c).run handler deadline now s).ending.finished_or_isStopped with
        ⟨a, ha⟩ | hstopped
      · rw [Run.next_of_finished ha] at he
        exact ih _ _ _ e he
      · obtain ⟨ending, -, h⟩ := Run.next_of_isStopped hstopped
          fun a now s => (rest a).nestedRun f handler deadline now s
        rw [h] at he
        exact absurd he List.not_mem_nil

/-- A deadline that comes while a call is answered cuts the whole off, and no other call follows. -/
theorem nestedRun_of_deadline (f : ι → Program κ τ ρ) (handler : Handler σ κ τ)
    (deadline : Option Instant) (p : Program ι ρ α) (now : Instant) (s : σ) :
    ∀ e ∈ (p.nestedRun f handler deadline now s).exchanges, e.answer.ending = .deadline →
      (p.nestedRun f handler deadline now s).exchanges.getLast? = some e ∧
        (p.nestedRun f handler deadline now s).ending = .deadline := by
  induction p generalizing now s with
  | done a => exact fun e he => absurd he List.not_mem_nil
  | overflow => exact fun e he => absurd he List.not_mem_nil
  | wait d p ih =>
    intro e he hcut
    unfold nestedRun at he ⊢
    rcases untilDeadline_cases deadline now (now + d.ticks) s
      (fun wake => p.nestedRun f handler deadline wake s) with h | ⟨limit, -, -, -, h⟩
    · rw [h] at he ⊢
      exact ih _ _ e he hcut
    · rw [h] at he
      exact absurd he List.not_mem_nil
  | call c rest ih =>
    intro e he hcut
    unfold nestedRun at he ⊢
    rcases List.mem_cons.1 he with rfl | he
    · unfold Run.next
      dsimp only at hcut ⊢
      rw [hcut]
      exact ⟨rfl, rfl⟩
    · rcases ((f c).run handler deadline now s).ending.finished_or_isStopped with
        ⟨a, ha⟩ | hstopped
      · dsimp only
        rw [Run.next_of_finished ha] at he ⊢
        obtain ⟨hlast, hending⟩ := ih _ _ _ e he hcut
        refine ⟨?_, hending⟩
        rw [Run.exchanges_after, List.getLast?_append, hlast]
        rfl
      · obtain ⟨ending, -, h⟩ := Run.next_of_isStopped hstopped
          fun a now s => (rest a).nestedRun f handler deadline now s
        rw [h] at he
        exact absurd he List.not_mem_nil

end Program

end BucketLifecycle
