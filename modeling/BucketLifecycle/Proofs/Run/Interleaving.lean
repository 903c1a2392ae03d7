import BucketLifecycle.Proofs.Run.NestedRun
import Mathlib.Logic.Function.Basic

/-!
# Programs that take turns

Several programs use one store at the same time.  Each call is served as a whole, so what happens is
told by an order in which the programs take turns: in a turn a program makes its next call and gets
the answer, or leaves a wait behind.  A `Schedule` says who takes each turn, and when.  Nothing is
assumed of it, so a law of all schedules is a law of every interleaving, at any speed of the
programs; a program that has ended lets its turns pass.

`play_run` ties this to `Program.run`: a program that takes its turns in a row does what its run
does from the state that it meets.
-/

set_option autoImplicit false

namespace BucketLifecycle

/-- Programs that use one store, with the calls that they have made so far. -/
structure Crowd (σ ι ρ α : Type) (n : Nat) where
  programs : Fin n → Program ι ρ α
  calls : List (Fin n × ι)
  state : σ

/-- Who takes each turn, and when. -/
abbrev Schedule (n : Nat) := List (Fin n × Instant)

variable {σ ι ρ α : Type} {n : Nat}

/-- How many turns a schedule gives to a program. -/
def Schedule.turns (schedule : Schedule n) (i : Fin n) : Nat :=
  schedule.countP fun turn => turn.1 == i

namespace Crowd

/-- Programs that have not done anything yet. -/
def start (programs : Fin n → Program ι ρ α) (state : σ) : Crowd σ ι ρ α n :=
  ⟨programs, [], state⟩

def turn (handler : Handler σ ι ρ) (x : Crowd σ ι ρ α n) (i : Fin n) (now : Instant) :
    Crowd σ ι ρ α n :=
  match x.programs i with
  | .call c next =>
    let reply := handler now c x.state
    ⟨Function.update x.programs i (next reply.answer), x.calls ++ [(i, c)], reply.state⟩
  | .wait _ next => { x with programs := Function.update x.programs i next }
  | .done _ => x
  | .overflow => x

def play (handler : Handler σ ι ρ) (x : Crowd σ ι ρ α n) (schedule : Schedule n) :
    Crowd σ ι ρ α n :=
  schedule.foldl (fun x turn => x.turn handler turn.1 turn.2) x

variable {handler : Handler σ ι ρ} {x : Crowd σ ι ρ α n} {i : Fin n}

/-- A schedule is played turn by turn. -/
theorem play_cons (handler : Handler σ ι ρ) (x : Crowd σ ι ρ α n) (i : Fin n) (now : Instant)
    (schedule : Schedule n) :
    x.play handler ((i, now) :: schedule) = (x.turn handler i now).play handler schedule := rfl

/-- A turn at a call serves it and goes on with the answer. -/
theorem turn_of_call {c : ι} {next : ρ → Program ι ρ α} (h : x.programs i = .call c next)
    (now : Instant) :
    x.turn handler i now = ⟨Function.update x.programs i (next (handler now c x.state).answer),
      x.calls ++ [(i, c)], (handler now c x.state).state⟩ := by
  unfold turn
  rw [h]

/-- A turn at a wait goes on behind it. -/
theorem turn_of_wait {d : Duration} {next : Program ι ρ α} (h : x.programs i = .wait d next)
    (now : Instant) :
    x.turn handler i now = { x with programs := Function.update x.programs i next } := by
  unfold turn
  rw [h]

/-- A finished program takes no turn. -/
theorem turn_of_done {a : α} (h : x.programs i = .done a) (now : Instant) :
    x.turn handler i now = x := by
  unfold turn
  rw [h]

/-- A program that overflowed takes no turn. -/
theorem turn_of_overflow (h : x.programs i = .overflow) (now : Instant) :
    x.turn handler i now = x := by
  unfold turn
  rw [h]

/-- A program that has ended lets its turns pass. -/
theorem play_of_done {a : α} (h : x.programs i = .done a) (times : List Instant) :
    x.play handler (times.map fun time => (i, time)) = x := by
  induction times with
  | nil => rfl
  | cons time times ih => rw [List.map_cons, play_cons, turn_of_done h, ih]

/-- A program that takes its turns in a row does what its run does, when that comes to a result. -/
theorem play_run {p : Program ι ρ α} (hp : x.programs i = p) (deadline : Option Instant)
    (now : Instant) {a : α}
    (hfinished : (p.run handler deadline now x.state).ending = .finished a) :
    ∃ times : List Instant, x.play handler (times.map fun time => (i, time)) =
      ⟨Function.update x.programs i (.done a),
        x.calls ++ (p.run handler deadline now x.state).exchanges.map fun e => (i, e.request),
        (p.run handler deadline now x.state).state⟩ := by
  induction p generalizing x now with
  | done b =>
    cases hfinished
    have hself : Function.update x.programs i (.done a) = x.programs := by
      rw [← hp, Function.update_eq_self]
    refine ⟨[], ?_⟩
    rw [hself]
    show x = ⟨x.programs, x.calls ++ [], x.state⟩
    rw [List.append_nil]
  | overflow => cases hfinished
  | wait d next ih =>
    have hrest := Program.untilDeadline_of_finished hfinished
    rw [Program.run_wait, hrest] at hfinished ⊢
    obtain ⟨times, hplay⟩ := ih (x := { x with programs := Function.update x.programs i next })
      (Function.update_self ..) (now + d.ticks) hfinished
    refine ⟨now :: times, ?_⟩
    rw [List.map_cons, play_cons, turn_of_wait hp, hplay, Function.update_idem]
  | call c next ih =>
    rw [Program.run_call] at hfinished ⊢
    have hrest := Program.untilDeadline_of_finished hfinished
    rw [hrest] at hfinished ⊢
    obtain ⟨times, hplay⟩ := ih (handler now c x.state).answer
      (x := ⟨Function.update x.programs i (next (handler now c x.state).answer),
        x.calls ++ [(i, c)], (handler now c x.state).state⟩)
      (Function.update_self ..) (now + (handler now c x.state).delay.ticks) hfinished
    refine ⟨now :: times, ?_⟩
    rw [List.map_cons, play_cons, turn_of_call hp, hplay, Function.update_idem]
    dsimp only
    rw [List.append_assoc]
    rfl

end Crowd

end BucketLifecycle
