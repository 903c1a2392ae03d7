import BucketLifecycle.Proofs.Policy.Converging
import BucketLifecycle.Proofs.Reconcile.Course

/-!
# Convergence over the in-memory store

Under a policy that converges, one reconciliation brings the bucket of an in-memory store to match
and touches no other bucket (`Settles`), and the next one finds nothing left to do.  It takes one
reading and at most one change: the store answers at once and never fails transiently, so no call
is repeated, no race is lost, and no deadline is met.

The store may be in any state, and the clock and the settings of the reconciler are arbitrary.
-/

set_option autoImplicit false

namespace BucketLifecycle

/-- What a reconciliation finds in a store. -/
def MemoryStore.finding (m : MemoryStore) (bucket : String) (check : Checker) : Decision :=
  match m.bucket bucket with
  | none => .doesNotExist
  | some s => if (check s).isCompliant then .alreadyCompliant else .needsCorrection

/-- What a reconciliation makes of an in-memory store. -/
structure Settles (bucket : String) (decorate : Decorator) (check : Checker)
    (before after : MemoryStore) (o : Outcome) : Prop where
  bucket_eq : o.bucket = bucket
  reads : o.reads = 1
  conflictCycles : o.conflictCycles = 0
  decision : o.decision = before.finding bucket check
  stored : after.bucket bucket = some o.snapshot
  isCompliant : (check o.snapshot).isCompliant = true
  /-- a bucket that matches is left as it is -/
  kept : o.decision = .alreadyCompliant → after.bucket bucket = before.bucket bucket
  /-- any other gets the settings that the decorator makes of it, or of the default -/
  changed : o.decision ≠ .alreadyCompliant →
    o.snapshot.settings = (decorate ((before.bucket bucket).getD (.named bucket))).settings
  others : ∀ name, name ≠ bucket → after.bucket name = before.bucket name
  mutations : after.mutations = before.mutations + if o.mutated then 1 else 0

section

variable {bucket : String} {decorate : Decorator} {check : Checker} {m : MemoryStore}

/-- A run over a compliant bucket settles with one reading and no change. -/
theorem settles_of_compliant {s : Snapshot} (hbucket : m.bucket bucket = some s)
    (hcheck : (check s).isCompliant = true) :
    Settles bucket decorate check m { m with reads := m.reads + 1 }
      ⟨bucket, .alreadyCompliant, s, 1, 0⟩ where
  bucket_eq := rfl
  reads := rfl
  conflictCycles := rfl
  decision := by simp [MemoryStore.finding, hbucket, hcheck]
  stored := hbucket
  isCompliant := hcheck
  kept _ := rfl
  changed h := absurd rfl h
  others _ _ := rfl
  mutations := (UInt64.add_zero m.mutations).symm

/-- A change with the decorated settings settles any other bucket. -/
theorem settles_of_commit (hpolicy : Converging bucket decorate check) {old stored : Snapshot}
    (hold : (m.bucket bucket).getD (.named bucket) = old) (hname : old.name = bucket)
    (hstored : stored.settings = (decorate old).settings)
    (hfinding : m.finding bucket check ≠ .alreadyCompliant) :
    Settles bucket decorate check m (MemoryStore.commit { m with reads := m.reads + 1 } stored)
      ⟨bucket, m.finding bucket check, stored, 1, 0⟩ := by
  have hnamed : stored.name = bucket :=
    (Snapshot.name_of_settings hstored).trans (hpolicy.name_decorate hname)
  refine ⟨rfl, rfl, rfl, rfl, ?_, ?_, ?_, ?_, ?_, ?_⟩
  · rw [← hnamed]
    exact MemoryStore.bucket_commit_self _ stored
  · exact hpolicy.isCompliant old stored hname hstored
  · exact fun h => absurd h hfinding
  · intro _
    rw [hold]
    exact hstored
  · intro name hne
    exact MemoryStore.bucket_commit_of_ne _ (by rw [hnamed]; exact hne)
  · simp [Outcome.mutated, hfinding]

/-- A logical call on the in-memory store is a single attempt, answered at once. -/
theorem nestedRun_call_memory {α : Type} {c : BucketCall} {answer : Except StoreError Snapshot}
    {after : MemoryStore} (p : RetryPolicy) (clock : Instant → Timestamp)
    (deadline : Option Instant) (now : Instant) (h : m.answer (clock now) c = (answer, after))
    (rest : LogicalAnswer → Program BucketCall LogicalAnswer α) :
    ∃ call, (Program.call c rest).nestedRun p.execute (MemoryStore.handler clock) deadline now m =
      ((rest (answer.mapError .permanent)).nestedRun p.execute (MemoryStore.handler clock) deadline
        now after).after [call] := by
  refine ⟨p.logicalCall (MemoryStore.handler clock) deadline c now m, ?_⟩
  have hanswer : (MemoryStore.handler clock now c m).answer = answer := congrArg Prod.fst h
  have hstate : (MemoryStore.handler clock now c m).state = after := congrArg Prod.snd h
  have hrun : (p.execute c).run (MemoryStore.handler clock) deadline now m =
      ⟨.finished (answer.mapError .permanent), [⟨c, now, answer⟩], now, after⟩ := by
    rw [← hanswer, ← hstate]
    exact run_execute_of_prompt (Duration.ticks_of_nanoseconds_eq_zero rfl) fun e he =>
      MemoryStore.isTransient_of_answer he
  rw [nestedRun_call, RetryPolicy.logicalCall, hrun]
  rfl

/-- The update of a bucket that does not match settles it. -/
theorem settles_correction (hpolicy : Converging bucket decorate check) {s : Snapshot}
    (hbucket : m.bucket bucket = some s) (hcheck : (check s).isCompliant = false)
    (p : RetryPolicy) (clock : Instant → Timestamp) (deadline : Option Instant) (now : Instant) :
    ∃ o, ((correction bucket 1 0 (decorate s)).nestedRun p.execute (MemoryStore.handler clock)
        deadline now { m with reads := m.reads + 1 }).ending = .finished (.ok o) ∧
      Settles bucket decorate check m
        ((correction bucket 1 0 (decorate s)).nestedRun p.execute (MemoryStore.handler clock)
          deadline now { m with reads := m.reads + 1 }).state o := by
  have hname := MemoryStore.name_of_bucket hbucket
  have hfinding : m.finding bucket check = .needsCorrection := by
    simp [MemoryStore.finding, hbucket, hcheck]
  have hpresent : m.bucket (decorate s).name = some s := by
    rw [hpolicy.name_decorate hname]
    exact hbucket
  obtain ⟨updated, hsettings, hanswer⟩ := MemoryStore.answer_update_of_present
    (m := { m with reads := m.reads + 1 }) (clock now) hpresent
  unfold correction
  obtain ⟨update, hupdate⟩ := nestedRun_call_memory p clock deadline now hanswer _
  rw [hupdate]
  refine ⟨_, rfl, ?_⟩
  rw [← hfinding]
  exact settles_of_commit hpolicy (by rw [hbucket]; rfl) hname hsettings
    (by rw [hfinding]; exact nofun)

/-- The creation of a bucket that does not exist settles it; no race is lost. -/
theorem settles_creation (hpolicy : Converging bucket decorate check)
    (hbucket : m.bucket bucket = none) (again : LogicalProgram) (p : RetryPolicy)
    (clock : Instant → Timestamp) (deadline : Option Instant) (now : Instant) :
    ∃ o, ((creation bucket 1 0 (decorate (.named bucket)) again).nestedRun p.execute
        (MemoryStore.handler clock) deadline now { m with reads := m.reads + 1 }).ending =
          .finished (.ok o) ∧
      Settles bucket decorate check m
        ((creation bucket 1 0 (decorate (.named bucket)) again).nestedRun p.execute
          (MemoryStore.handler clock) deadline now { m with reads := m.reads + 1 }).state o := by
  have hfinding : m.finding bucket check = .doesNotExist := by
    simp [MemoryStore.finding, hbucket]
  have habsent : m.bucket (decorate (.named bucket)).name = none := by
    rw [hpolicy.name_decorate rfl]
    exact hbucket
  obtain ⟨created, hsettings, hanswer⟩ := MemoryStore.answer_insert_of_absent
    (m := { m with reads := m.reads + 1 }) (clock now) habsent
  unfold creation
  obtain ⟨insert, hinsert⟩ := nestedRun_call_memory p clock deadline now hanswer _
  rw [hinsert]
  refine ⟨_, rfl, ?_⟩
  rw [← hfinding]
  exact settles_of_commit hpolicy (by rw [hbucket]; rfl) rfl hsettings
    (by rw [hfinding]; exact nofun)

/-- A reconciliation settles its bucket in any in-memory store. -/
theorem settles_run (hpolicy : Converging bucket decorate check) (r : Reconciler)
    (clock : Instant → Timestamp) (now : Instant) (m : MemoryStore) :
    ∃ o, (r.run (MemoryStore.handler clock) bucket decorate check now m).ending =
        .finished (.ok o) ∧
      Settles bucket decorate check m
        (r.run (MemoryStore.handler clock) bucket decorate check now m).state o := by
  -- The counter has room for the one reading that is needed.
  obtain ⟨room, hroom⟩ : ∃ room, counterLimit = room + 1 := ⟨_, rfl⟩
  rw [r.run_eq_flatten]
  unfold Reconciler.logicalRun reconciliation
  rw [hroom]
  unfold reconcileFrom
  cases hbucket : m.bucket bucket with
  | none =>
    obtain ⟨get, hget⟩ := nestedRun_call_memory r.retry clock (r.limitFrom now) now
      (MemoryStore.answer_get_of_absent (clock now) hbucket) _
    rw [hget]
    dsimp only [Except.mapError]
    rw [if_pos (by rfl), hpolicy.desiredState_eq rfl]
    exact settles_creation hpolicy hbucket _ r.retry clock (r.limitFrom now) now
  | some s =>
    obtain ⟨get, hget⟩ := nestedRun_call_memory r.retry clock (r.limitFrom now) now
      (MemoryStore.answer_get_of_present (clock now) hbucket) _
    rw [hget]
    dsimp only [Except.mapError]
    rw [hpolicy.check_eq s]
    cases hcheck : (check s).isCompliant with
    | true => exact ⟨_, rfl, settles_of_compliant hbucket hcheck⟩
    | false =>
      rw [if_neg (by simp)]
      dsimp only
      rw [hpolicy.desiredState_eq (MemoryStore.name_of_bucket hbucket)]
      exact settles_correction hpolicy hbucket hcheck r.retry clock (r.limitFrom now) now

/-- Where a run has settled, the next finding is that nothing is to be done. -/
theorem Settles.finding_eq {after : MemoryStore} {o : Outcome}
    (h : Settles bucket decorate check m after o) :
    after.finding bucket check = .alreadyCompliant := by
  simp [MemoryStore.finding, h.stored, h.isCompliant]

/-- Settling a bucket that matches changes nothing in the store but its count of readings. -/
theorem Settles.eq_of_alreadyCompliant {after : MemoryStore} {o : Outcome}
    (h : Settles bucket decorate check m after o)
    (hfinding : m.finding bucket check = .alreadyCompliant) :
    (∀ name, after.bucket name = m.bucket name) ∧ after.mutations = m.mutations := by
  have hdecision := h.decision.trans hfinding
  refine ⟨fun name => ?_, ?_⟩
  · by_cases hname : name = bucket
    · subst hname
      exact h.kept hdecision
    · exact h.others name hname
  · rw [h.mutations]
    simp [Outcome.mutated, hdecision]

end

/-- Under a policy that converges, such as expiry at any age, one reconciliation settles its bucket
in any in-memory store, and every later one finds it settled. -/
theorem reconcile_converges :
    (∀ (p : Expiring) (bucket : String), Converging bucket p.decorate p.check) ∧
      ∀ (bucket : String) (decorate : Decorator) (check : Checker),
        Converging bucket decorate check →
        ∀ (r : Reconciler) (clock : Instant → Timestamp) (now : Instant) (m : MemoryStore),
          ∃ o, (r.run (MemoryStore.handler clock) bucket decorate check now m).ending =
              .finished (.ok o) ∧
            Settles bucket decorate check m
              (r.run (MemoryStore.handler clock) bucket decorate check now m).state o ∧
            ∀ (r' : Reconciler) (clock' : Instant → Timestamp) (later : Instant),
              let settled := (r.run (MemoryStore.handler clock) bucket decorate check now m).state
              let again := r'.run (MemoryStore.handler clock') bucket decorate check later settled
              again.ending = .finished (.ok ⟨bucket, .alreadyCompliant, o.snapshot, 1, 0⟩) ∧
                (∀ name, again.state.bucket name = settled.bucket name) ∧
                again.state.mutations = settled.mutations := by
  refine ⟨Expiring.converging, ?_⟩
  intro bucket decorate check hpolicy r clock now m
  obtain ⟨o, ho, hsettles⟩ := settles_run hpolicy r clock now m
  refine ⟨o, ho, hsettles, ?_⟩
  intro r' clock' later settled again
  obtain ⟨o', ho', hsettles'⟩ := settles_run hpolicy r' clock' later settled
  have hfinding := hsettles.finding_eq
  refine ⟨?_, hsettles'.eq_of_alreadyCompliant hfinding⟩
  rw [ho']
  obtain ⟨bucket', decision, snapshot, reads, conflictCycles⟩ := o'
  have hdecision := hsettles'.decision.trans hfinding
  have hstored := hsettles'.stored.symm.trans (hsettles'.kept hdecision)
  rw [hsettles.stored, Option.some.injEq] at hstored
  cases hsettles'.bucket_eq
  cases hsettles'.reads
  cases hsettles'.conflictCycles
  cases hdecision
  cases hstored
  rfl

/-- A bucket without rules, beside another one, comes to expire its objects. -/
theorem converges_of_drifted :
    Converging "ci-artifacts" (Expiring.decorate ⟨30⟩) (Expiring.check ⟨30⟩) ∧
      ∃ o, (Reconciler.standard.run
          (MemoryStore.handler fun _ => ⟨⟨2024, 1, 31, by decide⟩, 0, 0, by decide⟩)
          "ci-artifacts" (Expiring.decorate ⟨30⟩) (Expiring.check ⟨30⟩) 0
          ((MemoryStore.empty.seed (.named "logs")).seed (.named "ci-artifacts"))).ending =
            .finished (.ok o) ∧
        o.decision = .needsCorrection ∧ o.snapshot.lifecycle = ⟨[.deleteAfter 30]⟩ := by
  have hpolicy := Expiring.converging ⟨30⟩ "ci-artifacts"
  obtain ⟨o, ho, hsettles, -⟩ := reconcile_converges.2 "ci-artifacts" (Expiring.decorate ⟨30⟩)
    (Expiring.check ⟨30⟩) hpolicy Reconciler.standard
    (fun _ => ⟨⟨2024, 1, 31, by decide⟩, 0, 0, by decide⟩) 0
    ((MemoryStore.empty.seed (.named "logs")).seed (.named "ci-artifacts"))
  have hdecision : o.decision = .needsCorrection := hsettles.decision.trans (by decide)
  refine ⟨hpolicy, o, ho, hdecision, ?_⟩
  rw [Snapshot.lifecycle_of_settings (hsettles.changed (by rw [hdecision]; exact nofun))]
  rfl

end BucketLifecycle
