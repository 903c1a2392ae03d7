import BucketLifecycle.Proofs.Reconcile.Deadline
import BucketLifecycle.Proofs.Reconcile.Phase
import BucketLifecycle.Proofs.Store.Shared

/-!
# Reconciliation among others

Others may create the bucket of a reconciliation and change it at any moment, but they do not
delete it.  Then one lost race is the most that can happen: it is lost to a bucket that is there,
the second reading finds that bucket, and an update of it cannot miss.  So the reconciliation
succeeds, and the bucket matches the policy when its last call has been served.

The phase of the reconciliation fits the bucket at every call, whatever was done to the store since
the last one, and an induction on the rank of the phase takes it to the end.
-/

set_option autoImplicit false

namespace BucketLifecycle

variable {τ : Type} {bucket : String} {decorate : Decorator} {check : Checker}
  {env : Environment τ}

/-- From a phase that fits, a reconciliation succeeds with a result that fits. -/
theorem finished_of_fits (hpolicy : Converging bucket decorate check) {r : Reconciler}
    (hcycles : 1 ≤ r.maxConflictCycles.toNat) (henv : env.Spares bucket) {phase : Phase}
    {x : SharedStore τ} (hfits : phase.Fits bucket check (x.store.bucket bucket)) (now : Instant) :
    let run := (r.programAt bucket decorate check phase).run (SharedStore.handler env) none now x
    ∃ o, run.ending = .finished (.ok o) ∧
      (Phase.ended o).Fits bucket check (run.state.store.bucket bucket) := by
  induction hrank : phase.rank using Nat.strongRecOn generalizing phase x now with
  | ind rank ih =>
    subst hrank
    cases hcall : phase.call? bucket decorate with
    | none =>
      obtain ⟨o, rfl⟩ := Phase.ended_of_call? hcall
      exact ⟨o, rfl, hfits⟩
    | some c =>
      obtain ⟨met, time, hkept, hanswer, hstore⟩ := SharedStore.exists_answer henv now c x
      have hmet := hfits.of_present hcall hkept
      obtain ⟨answered, hprogram, next, hturn, hnext⟩ :=
        Phase.exists_turn hpolicy hcycles time hcall hmet
      have hafter := hturn.fits hpolicy hmet
      rw [← hstore] at hafter
      rw [hprogram, Program.run_call, hanswer, hnext]
      exact ih next.rank (hturn.rank_lt hmet) hafter _ rfl

/-- Among others who do not delete its bucket, a reconciliation under an expiry policy that may read
again after one lost race succeeds.  It loses one race at most, and the bucket is as its result says
and matches the policy when its last call has been served. -/
theorem reconcile_oneConflict (r : Reconciler) (hcycles : 1 ≤ r.maxConflictCycles.toNat)
    (env : Environment τ) (bucket : String) (henv : env.Spares bucket) (memory : τ)
    (initial : MemoryStore) (p : Expiring) (now : Instant) :
    let run := r.untimed.run (SharedStore.handler env) bucket p.decorate p.check now
      ⟨initial, memory⟩
    ∃ o, run.ending = .finished (.ok o) ∧ o.conflictCycles ≤ 1 ∧ o.reads ≤ 2 ∧
      run.state.store.bucket bucket = some o.snapshot ∧
      (p.check o.snapshot).isCompliant = true := by
  intro run
  have hstart : (Phase.reading 0).Fits bucket p.check (initial.bucket bucket) := .inl rfl
  have hrun : run = (r.programAt bucket p.decorate p.check (.reading 0)).run
      (SharedStore.handler env) none now ⟨initial, memory⟩ := by
    rw [← r.program_eq_programAt]
    exact r.run_untimed _ _ _ _ _ _
  obtain ⟨o, hending, hlost, hreads, hstored, hcheck⟩ :=
    finished_of_fits (x := ⟨initial, memory⟩) (p.converging bucket) hcycles henv hstart now
  rw [← hrun] at hending hstored
  exact ⟨o, hending, hlost, by omega, hstored, hcheck⟩

/-- Does the deeds that are planned for each call, by its number. -/
def Environment.ofPlan (time : Timestamp) (plan : Nat → List Deed) : Environment Nat :=
  fun number _ _ _ => ⟨plan number, time, .zero, number + 1⟩

/-- Another one creates the bucket before the creation, and changes it once more between the second
reading and the update. -/
theorem oneConflict_of_rival :
    let time : Timestamp := ⟨⟨2024, 1, 31, by decide⟩, 0, 0, by decide⟩
    let env := Environment.ofPlan time fun
      | 1 => [.call time (.insert (.named "ci-artifacts"))]
      | 3 => [.call time (.update (Expiring.decorate ⟨7⟩ (.named "ci-artifacts"))), .delete "logs"]
      | _ => []
    let r : Reconciler := ⟨.immediate 0, 1, none⟩
    let run := r.untimed.run (SharedStore.handler env) "ci-artifacts" (Expiring.decorate ⟨30⟩)
      (Expiring.check ⟨30⟩) 0 ⟨.empty, 0⟩
    1 ≤ r.maxConflictCycles.toNat ∧ env.Spares "ci-artifacts" ∧
      (∃ o, run.ending = .finished (.ok o) ∧ o.decision = .needsCorrection ∧
        o.conflictCycles = 1 ∧ o.reads = 2) ∧
      ∃ o, run.ending = .finished (.ok o) ∧
        run.state.store.bucket "ci-artifacts" = some o.snapshot ∧
        (Expiring.check ⟨30⟩ o.snapshot).isCompliant = true := by
  intro time env r run
  have henv : env.Spares "ci-artifacts" := by
    intro number now c m
    show Deed.delete "ci-artifacts" ∉ (env number now c m).deeds
    unfold env Environment.ofPlan
    dsimp only
    split <;> simp
  obtain ⟨o, hending, -, -, hstored, hcheck⟩ := reconcile_oneConflict r (by decide) env
    "ci-artifacts" henv 0 .empty ⟨30⟩ 0
  refine ⟨by decide, henv, ?_, _, hending, hstored, hcheck⟩
  -- The run is evaluated as a closed term.
  clear hending hstored hcheck henv
  revert time
  exact ⟨_, by rfl, by rfl, by rfl, by rfl⟩

end BucketLifecycle
