import BucketLifecycle.Proofs.Run.NestedRun

/-!
# Runs under a deadline

A run that has a deadline is the run of the same program without one, as far as it gets: either the
free run is over when the deadline comes, and then the two are the same, or the deadline cuts in,
and then the calls that were made are those of the free run that had started by that time.

The one thing to know about the free run is that its clock never runs backwards (`le_start`,
`le_finish`).  Behind a wait that outlasts the deadline everything starts too late, and a wait that
does not outlast it leaves the clock where the deadline has not passed.
-/

set_option autoImplicit false

namespace BucketLifecycle

variable {σ ι ρ α : Type}

/-- What is left of a free run that a deadline cuts off. -/
structure Run.CutOff (limit : Instant) (free cut : Run σ ι ρ α) : Prop where
  ending : cut.ending = .deadline
  finish : cut.finish = limit
  /-- the calls that start by the deadline, at the very deadline included -/
  exchanges : cut.exchanges = free.exchanges.filter fun e => e.start ≤ limit
  /-- none is left out in between -/
  isPrefix : cut.exchanges <+: free.exchanges

/-- An earlier call in front, made by the deadline, is one that both runs make. -/
theorem Run.CutOff.after {limit : Instant} {free cut : Run σ ι ρ α} {e : Exchange ι ρ}
    (h : CutOff limit free cut) (he : e.start ≤ limit) :
    CutOff limit (free.after [e]) (cut.after [e]) where
  ending := h.ending
  finish := h.finish
  exchanges := by
    rw [exchanges_after, exchanges_after, List.singleton_append, List.singleton_append,
      List.filter_cons_of_pos (by simpa using he), h.exchanges]
  isPrefix := by
    rw [exchanges_after, exchanges_after]
    exact (List.prefix_append_right_inj [e]).2 h.isPrefix

/-- Where all calls start too late, a run that was cut off before any of them has made those that
start in time. -/
theorem Run.cutOff_of_late {limit : Instant} {free : Run σ ι ρ α} (s : σ)
    (h : ∀ e ∈ free.exchanges, limit < e.start) :
    CutOff limit free ⟨.deadline, [], limit, s⟩ where
  ending := rfl
  finish := rfl
  exchanges := by
    symm
    rw [List.filter_eq_nil_iff]
    intro e he
    simpa using h e he
  isPrefix := List.nil_prefix

namespace Program

variable (handler : Handler σ ι ρ)

/-- The clock of a free run does not run backwards. -/
theorem le_finish (p : Program ι ρ α) (now : Instant) (s : σ) :
    now ≤ (p.run handler none now s).finish := by
  induction p generalizing now s with
  | done a => exact Nat.le_refl now
  | overflow => exact Nat.le_refl now
  | wait d p ih =>
    calc now ≤ now + d.ticks := Nat.le_add_right now _
      _ ≤ (p.run handler none (now + d.ticks) s).finish := ih _ _
  | call c rest ih =>
    calc now ≤ now + (handler now c s).delay.ticks := Nat.le_add_right now _
      _ ≤ ((rest (handler now c s).answer).run handler none
          (now + (handler now c s).delay.ticks) (handler now c s).state).finish := ih _ _ _

/-- No call starts before the run does. -/
theorem le_start (p : Program ι ρ α) (now : Instant) (s : σ) :
    ∀ e ∈ (p.run handler none now s).exchanges, now ≤ e.start := by
  induction p generalizing now s with
  | done a => exact fun e he => absurd he List.not_mem_nil
  | overflow => exact fun e he => absurd he List.not_mem_nil
  | wait d p ih =>
    intro e he
    calc now ≤ now + d.ticks := Nat.le_add_right now _
      _ ≤ e.start := ih _ _ e he
  | call c rest ih =>
    intro e he
    rcases List.mem_cons.1 he with rfl | he
    · exact Nat.le_refl now
    · calc now ≤ now + (handler now c s).delay.ticks := Nat.le_add_right now _
        _ ≤ e.start := ih _ _ _ e he

/-- Without a deadline nothing is cut off. -/
theorem ending_ne_deadline (p : Program ι ρ α) (now : Instant) (s : σ) :
    (p.run handler none now s).ending ≠ .deadline := by
  induction p generalizing now s with
  | done a => exact nofun
  | overflow => exact nofun
  | wait d p ih => exact ih _ _
  | call c rest ih => exact ih _ _ _

/-- A wait is cut off if it outlasts the deadline, and is over by the deadline otherwise. -/
theorem untilDeadline_some {limit now wake : Instant} (hnow : now ≤ limit) (s : σ)
    (go : Instant → Run σ ι ρ α) :
    untilDeadline (some limit) now wake s go =
      if limit < wake then ⟨.deadline, [], limit, s⟩ else go wake := by
  unfold untilDeadline
  by_cases h : limit < wake
  · have hlate : now < wake ∧ limit < wake := ⟨Nat.lt_of_le_of_lt hnow h, h⟩
    simp only [if_pos hlate, if_pos h]
  · have hearly : ¬ (now < wake ∧ limit < wake) := fun hlate => h hlate.2
    simp only [if_neg hearly, if_neg h]

/-- A free run that is over by the deadline is the run under the deadline. -/
theorem run_deadline_of_finish_le {limit : Instant} (p : Program ι ρ α) {now : Instant} {s : σ}
    (h : (p.run handler none now s).finish ≤ limit) :
    p.run handler (some limit) now s = p.run handler none now s := by
  induction p generalizing now s with
  | done a => rfl
  | overflow => rfl
  | wait d p ih =>
    have hrest : (p.run handler none (now + d.ticks) s).finish ≤ limit := h
    have hwake : now + d.ticks ≤ limit := Nat.le_trans (le_finish handler p _ s) hrest
    have hnow : now ≤ limit := Nat.le_trans (Nat.le_add_right now _) hwake
    rw [run_wait, run_wait, untilDeadline_some hnow, if_neg (Nat.not_lt.2 hwake), ih hrest]
    rfl
  | call c rest ih =>
    have hrest : ((rest (handler now c s).answer).run handler none
        (now + (handler now c s).delay.ticks) (handler now c s).state).finish ≤ limit := h
    have hwake : now + (handler now c s).delay.ticks ≤ limit :=
      Nat.le_trans (le_finish handler _ _ _) hrest
    have hnow : now ≤ limit := Nat.le_trans (Nat.le_add_right now _) hwake
    rw [run_call, run_call, untilDeadline_some hnow, if_neg (Nat.not_lt.2 hwake), ih _ hrest]
    rfl

/-- A free run that goes on beyond the deadline is cut off by it. -/
theorem run_deadline_of_lt_finish {limit : Instant} (p : Program ι ρ α) {now : Instant} {s : σ}
    (hnow : now ≤ limit) (h : limit < (p.run handler none now s).finish) :
    Run.CutOff limit (p.run handler none now s) (p.run handler (some limit) now s) := by
  induction p generalizing now s with
  | done a =>
    have hfinish : limit < now := h
    exact absurd hnow (Nat.not_le.2 hfinish)
  | overflow =>
    have hfinish : limit < now := h
    exact absurd hnow (Nat.not_le.2 hfinish)
  | wait d p ih =>
    have hrest : limit < (p.run handler none (now + d.ticks) s).finish := h
    rw [run_wait, run_wait, untilDeadline_some hnow]
    by_cases hwake : limit < now + d.ticks
    · rw [if_pos hwake]
      apply Run.cutOff_of_late
      intro e he
      exact Nat.lt_of_lt_of_le hwake (le_start handler p _ s e he)
    · rw [if_neg hwake]
      exact ih (Nat.not_lt.1 hwake) hrest
  | call c rest ih =>
    have hrest : limit < ((rest (handler now c s).answer).run handler none
        (now + (handler now c s).delay.ticks) (handler now c s).state).finish := h
    rw [run_call, run_call, untilDeadline_some hnow]
    -- The call itself starts in time; what follows its answer may not.
    apply Run.CutOff.after _ hnow
    by_cases hwake : limit < now + (handler now c s).delay.ticks
    · rw [if_pos hwake]
      apply Run.cutOff_of_late
      intro e he
      exact Nat.lt_of_lt_of_le hwake (le_start handler _ _ _ e he)
    · rw [if_neg hwake]
      exact ih _ (Nat.not_lt.1 hwake) hrest

end Program

end BucketLifecycle
