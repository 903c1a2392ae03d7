import BucketLifecycle.Proofs.Reconcile.Course
import BucketLifecycle.Proofs.Run.Deadline
import BucketLifecycle.Store.Script

/-!
# The deadline of a reconciliation

A deadline only cuts a reconciliation short: until it comes, the same calls are made at the same
times as without it, and a reconciliation that is over by then has the same result.  The boundary
belongs to the work: what ends at the very millisecond of the deadline still counts, and a call that
is due at that millisecond is still made.

Nothing is assumed of the store, the policy, the retries or the number of races.
-/

set_option autoImplicit false

namespace BucketLifecycle

variable {σ : Type}

/-- The milliseconds of a duration, rounded up. -/
def Duration.millisUp (d : Duration) : Nat :=
  (d.nanoseconds + 999999) / 1000000

/-- The clock counts a duration in milliseconds, rounded up, unless it lies beyond the clock. -/
theorem Duration.ticks_eq_millisUp {d : Duration} (h : d.seconds < Text.int64Limit) :
    d.ticks = d.millisUp := by
  unfold Duration.ticks Duration.millisUp
  rw [if_pos h]

namespace Reconciler

def untimed (r : Reconciler) : Reconciler :=
  { r with deadline := none }

def within (r : Reconciler) (limit : Duration) : Reconciler :=
  { r with deadline := some limit }

/-- The deadline has no part in what a reconciler does but for the time at which it cuts in. -/
theorem run_within (r : Reconciler) (limit : Duration) (handler : StoreHandler σ) (bucket : String)
    (decorate : Decorator) (check : Checker) (now : Instant) (s : σ) :
    (r.within limit).run handler bucket decorate check now s =
      (r.program bucket decorate check).run handler (some (now + limit.ticks)) now s := rfl

/-- Without its deadline a reconciliation is the plain run of its program. -/
theorem run_untimed (r : Reconciler) (handler : StoreHandler σ) (bucket : String)
    (decorate : Decorator) (check : Checker) (now : Instant) (s : σ) :
    r.untimed.run handler bucket decorate check now s =
      (r.program bucket decorate check).run handler none now s := rfl

/-- Only the result of a run that was cut off depends on the deadline. -/
theorem result?_within (r : Reconciler) (limit : Duration) (bucket : String)
    {ending : Ending (Except LifecycleError Outcome)} (h : ending ≠ .deadline) :
    (r.within limit).result? bucket ending = r.untimed.result? bucket ending := by
  cases ending with
  | finished result => rfl
  | overflow => rfl
  | deadline => exact absurd rfl h

end Reconciler

/-- A deadline only cuts a reconciliation short.  If the one without a deadline takes no longer than
the deadline allows, the two are the same run with the same result; if it takes longer, the one with
the deadline ends on it, having made the calls of the other that start by then. -/
theorem reconcile_deadline (r : Reconciler) (limit : Duration)
    (hlimit : limit.seconds < Text.int64Limit) (handler : StoreHandler σ) (bucket : String)
    (decorate : Decorator) (check : Checker) (now : Instant) (s : σ) :
    let free := r.untimed.run handler bucket decorate check now s
    let timed := (r.within limit).run handler bucket decorate check now s
    now ≤ free.finish ∧
      (free.finish - now ≤ limit.millisUp → timed = free ∧
        (r.within limit).result? bucket timed.ending = r.untimed.result? bucket free.ending) ∧
      (limit.millisUp < free.finish - now → Run.CutOff (now + limit.millisUp) free timed ∧
        (r.within limit).result? bucket timed.ending =
          some (.error (.deadlineExceeded bucket limit))) := by
  intro free timed
  have hfree : free = (r.program bucket decorate check).run handler none now s :=
    r.run_untimed handler bucket decorate check now s
  have htimed : timed = (r.program bucket decorate check).run handler
      (some (now + limit.millisUp)) now s := by
    rw [← Duration.ticks_eq_millisUp hlimit]
    exact r.run_within limit handler bucket decorate check now s
  rw [hfree, htimed]
  generalize r.program bucket decorate check = p
  refine ⟨Program.le_finish handler p now s, ?_, ?_⟩
  · intro htime
    have hfinish := Nat.sub_le_iff_le_add'.1 htime
    rw [Program.run_deadline_of_finish_le handler p hfinish]
    exact ⟨rfl, r.result?_within limit bucket (Program.ending_ne_deadline handler p now s)⟩
  · intro htime
    have hfinish := Nat.add_lt_of_lt_sub' htime
    have hcut := Program.run_deadline_of_lt_finish handler p (Nat.le_add_right now _) hfinish
    refine ⟨hcut, ?_⟩
    rw [hcut.ending]
    rfl

/-- A store that answers a reading after two milliseconds, at first with a failure, and takes five
milliseconds for an update. -/
def slowStore : ScriptedStore where
  gets := [⟨.error (.transport "reset"), .ofMillis 2⟩, ⟨.ok none, .ofMillis 2⟩]
  inserts := []
  updates := [⟨.ok none, .ofMillis 5⟩]

/-- Three and a half milliseconds count as four, and the update that is due after four of them is
still sent, but its answer comes too late. -/
theorem deadline_of_late_update :
    let r : Reconciler := ⟨.immediate 1, 1, none⟩
    let p : Expiring := ⟨30⟩
    let limit : Duration := ⟨3500000, by decide⟩
    let free := r.untimed.run ScriptedStore.handler "ci-artifacts" p.decorate p.check 0 slowStore
    let timed :=
      (r.within limit).run ScriptedStore.handler "ci-artifacts" p.decorate p.check 0 slowStore
    limit.seconds < Text.int64Limit ∧ free.finish = 9 ∧
      timed.calls.map Prod.snd = [0, 2, 4] ∧ Run.CutOff 4 free timed ∧
      (r.within limit).result? "ci-artifacts" timed.ending =
        some (.error (.deadlineExceeded "ci-artifacts" limit)) := by
  have hlaw := reconcile_deadline ⟨.immediate 1, 1, none⟩ ⟨3500000, by decide⟩ (by decide)
    ScriptedStore.handler "ci-artifacts" (Expiring.decorate ⟨30⟩) (Expiring.check ⟨30⟩) 0 slowStore
  obtain ⟨-, -, hlate⟩ := hlaw
  obtain ⟨hcut, hresult⟩ := hlate (by decide)
  exact ⟨by decide, by rfl, by rfl, hcut, hresult⟩

end BucketLifecycle
