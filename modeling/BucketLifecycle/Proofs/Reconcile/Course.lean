import BucketLifecycle.Proofs.Retry.Attempts
import BucketLifecycle.Reconcile

/-!
# The course of a reconciliation

`Reconciler.logicalRun` is a reconciliation in logical calls: each of them is recorded with the run
of the attempts that were made at it, and `run_eq_flatten` says that these attempts, one logical
call after another, are the run itself.

`Course` lists what a reconciliation can do from one reading of the bucket on, and `course_run` says
that every run, under every store, policy and setting, does one of these things.  The number of
readings before it is the number of lost races, so one index stands for both counters of the loop.
A law of the loop is an induction on `Course`, with one case for each way in which a reading ends.
-/

set_option autoImplicit false

namespace BucketLifecycle

variable {σ : Type}

/-- A single attempt at a call, with the answer to it. -/
abbrev Attempt := Exchange BucketCall (Except StoreError Snapshot)

/-- The attempts at one logical call. -/
abbrev CallRun (σ : Type) := Run σ BucketCall (Except StoreError Snapshot) LogicalAnswer

/-- A logical call, answered by the attempts at it. -/
abbrev LogicalCall (σ : Type) := Exchange BucketCall (CallRun σ)

/-- A reconciliation in logical calls. -/
abbrev LogicalRun (σ : Type) := Run σ BucketCall (CallRun σ) (Except LifecycleError Outcome)

/-- A store, seen by its answers to single attempts. -/
abbrev StoreHandler (σ : Type) := Handler σ BucketCall (Except StoreError Snapshot)

/-- A logical call made at a time and in a state of the store. -/
def RetryPolicy.logicalCall (p : RetryPolicy) (handler : StoreHandler σ)
    (deadline : Option Instant) (c : BucketCall) (now : Instant) (s : σ) : LogicalCall σ :=
  ⟨c, now, (p.execute c).run handler deadline now s⟩

/-- The reconciliation of a bucket on a clock, in logical calls. -/
def Reconciler.logicalRun (r : Reconciler) (handler : StoreHandler σ) (bucket : String)
    (decorate : Decorator) (check : Checker) (now : Instant) (state : σ) : LogicalRun σ :=
  (reconciliation bucket decorate check r.maxConflictCycles).nestedRun r.retry.execute handler
    (r.limitFrom now) now state

/-- The attempts at the logical calls, one logical call after another, are the whole run. -/
theorem Reconciler.run_eq_flatten (r : Reconciler) (handler : StoreHandler σ) (bucket : String)
    (decorate : Decorator) (check : Checker) (now : Instant) (state : σ) :
    r.run handler bucket decorate check now state =
      (r.logicalRun handler bucket decorate check now state).flatten :=
  Program.run_expand r.retry.execute handler (r.limitFrom now) _ now state

/-- A desired state is what the decorator makes of a snapshot, where it passes the check. -/
theorem desiredState_eq_ok_iff {bucket : String} {decorate : Decorator} {s desired : Snapshot} :
    desiredState bucket decorate s = .ok desired ↔
      desired = decorate s ∧ desired.check bucket = .ok () := by
  unfold desiredState
  cases h : (decorate s).check bucket with
  | ok u => exact ⟨fun hok => by cases hok; exact ⟨rfl, h⟩, fun hok => by rw [hok.1]⟩
  | error fault =>
    refine ⟨nofun, fun hok => ?_⟩
    rw [hok.1, h] at hok
    cases hok.2

/-- Induction along a reconciliation in logical calls.  What holds where the counter is full and of
every result, and of a call where it holds whatever the answer is, holds of the whole.  A reading
takes room in the counter; every other call sends a desired state of the bucket. -/
theorem reconcileFrom_induction {bucket : String} {decorate : Decorator} {check : Checker}
    {maxCycles : UInt32} {motive : Nat → LogicalProgram → Prop} (full : motive 0 .overflow)
    (ended : ∀ room result, motive room (.done result))
    (reading : ∀ room rest, (∀ answer, motive room (rest answer)) →
      motive (room + 1) (.call (.get bucket) rest))
    (sending : ∀ room s desired call rest, desiredState bucket decorate s = .ok desired →
      (call = .insert desired ∨ call = .update desired) → (∀ answer, motive room (rest answer)) →
        motive room (.call call rest))
    (room reads cycles : Nat) :
    motive room (reconcileFrom bucket decorate check maxCycles room reads cycles) := by
  induction room generalizing reads cycles with
  | zero => exact full
  | succ room ih =>
    refine reading _ _ fun answer => ?_
    cases answer with
    | ok s =>
      dsimp only
      cases check s with
      | compliant kept => exact ended _ _
      | nonCompliant drifted =>
        dsimp only
        cases hdesired : desiredState bucket decorate drifted with
        | error e => exact ended _ _
        | ok desired =>
          refine sending _ drifted desired _ _ hdesired (.inr rfl) fun answer => ?_
          cases answer <;> exact ended _ _
    | error e =>
      dsimp only
      split
      · cases hdesired : desiredState bucket decorate (.named bucket) with
        | error rejected => exact ended _ _
        | ok desired =>
          refine sending _ _ desired _ _ hdesired (.inl rfl) fun answer => ?_
          cases answer with
          | ok stored => exact ended _ _
          | error e =>
            dsimp only
            split
            · split
              · exact ended _ _
              · exact ih _ _
            · exact ended _ _
      · exact ended _ _

/-- A snapshot that fails the check is reported with the bucket and the wording of the fault. -/
theorem desiredState_eq_error_iff {bucket : String} {decorate : Decorator} {s : Snapshot}
    {e : LifecycleError} :
    desiredState bucket decorate s = .error e ↔
      ∃ fault, (decorate s).check bucket = .error fault ∧
        e = .invalidDesiredState bucket fault.message := by
  unfold desiredState
  cases h : (decorate s).check bucket with
  | ok u => exact ⟨nofun, fun ⟨_, hfault, _⟩ => nomatch hfault⟩
  | error fault =>
    constructor
    · intro he
      cases he
      exact ⟨fault, rfl, rfl⟩
    · rintro ⟨fault', hfault, rfl⟩
      cases hfault
      rfl

section

variable (p : RetryPolicy) (handler : StoreHandler σ) (deadline : Option Instant)
  (bucket : String) (decorate : Decorator) (check : Checker) (maxCycles : UInt32)

/-- A reading that finds no bucket, followed by a creation. -/
structure Creates (now : Instant) (s : σ) (get insert : LogicalCall σ) : Prop where
  get_eq : get = p.logicalCall handler deadline (.get bucket) now s
  absent : ∃ e : RetryError,
    get.answer.ending = .finished (.error e) ∧ e.storeError.isNotFound = true
  insert_eq : ∃ desired, desiredState bucket decorate (.named bucket) = .ok desired ∧
    insert = p.logicalCall handler deadline (.insert desired) get.answer.finish get.answer.state

/-- A reading that finds a bucket which does not match, followed by an update. -/
structure Corrects (now : Instant) (s : σ) (get update : LogicalCall σ) : Prop where
  get_eq : get = p.logicalCall handler deadline (.get bucket) now s
  update_eq : ∃ found drifted desired, get.answer.ending = .finished (.ok found) ∧
    check found = .nonCompliant drifted ∧ desiredState bucket decorate drifted = .ok desired ∧
    update = p.logicalCall handler deadline (.update desired) get.answer.finish get.answer.state

/-- What a reconciliation does from a reading on that comes after so many lost races. -/
inductive Course : Nat → Instant → σ → LogicalRun σ → Prop where
  | counterFull {cycles : Nat} {now : Instant} {s : σ} (hfull : cycles = counterLimit) :
    Course cycles now s ⟨.overflow, [], now, s⟩
  | readingStopped {cycles : Nat} {now : Instant} {s : σ} {get : LogicalCall σ}
      {ending : Ending (Except LifecycleError Outcome)}
      (hget : get = p.logicalCall handler deadline (.get bucket) now s)
      (hstopped : get.answer.ending.IsStopped) (hending : ending.IsStopped) :
    Course cycles now s ⟨ending, [get], get.answer.finish, get.answer.state⟩
  | readingFailed {cycles : Nat} {now : Instant} {s : σ} {get : LogicalCall σ} {e : RetryError}
      (hget : get = p.logicalCall handler deadline (.get bucket) now s)
      (hfailed : get.answer.ending = .finished (.error e))
      (hkind : e.storeError.isNotFound = false) :
    Course cycles now s ⟨.finished (.error (e.toLifecycle bucket .get)), [get],
      get.answer.finish, get.answer.state⟩
  | compliant {cycles : Nat} {now : Instant} {s : σ} {get : LogicalCall σ} {found kept : Snapshot}
      (hget : get = p.logicalCall handler deadline (.get bucket) now s)
      (hfound : get.answer.ending = .finished (.ok found))
      (hcheck : check found = .compliant kept) :
    Course cycles now s ⟨.finished (.ok ⟨bucket, .alreadyCompliant, kept, cycles + 1, cycles⟩),
      [get], get.answer.finish, get.answer.state⟩
  | updateRejected {cycles : Nat} {now : Instant} {s : σ} {get : LogicalCall σ}
      {found drifted : Snapshot} {e : LifecycleError}
      (hget : get = p.logicalCall handler deadline (.get bucket) now s)
      (hfound : get.answer.ending = .finished (.ok found))
      (hcheck : check found = .nonCompliant drifted)
      (hdesired : desiredState bucket decorate drifted = .error e) :
    Course cycles now s ⟨.finished (.error e), [get], get.answer.finish, get.answer.state⟩
  | updateStopped {cycles : Nat} {now : Instant} {s : σ} {get update : LogicalCall σ}
      {ending : Ending (Except LifecycleError Outcome)}
      (hsent : Corrects p handler deadline bucket decorate check now s get update)
      (hstopped : update.answer.ending.IsStopped) (hending : ending.IsStopped) :
    Course cycles now s ⟨ending, [get, update], update.answer.finish, update.answer.state⟩
  | updateFailed {cycles : Nat} {now : Instant} {s : σ} {get update : LogicalCall σ}
      {e : RetryError}
      (hsent : Corrects p handler deadline bucket decorate check now s get update)
      (hfailed : update.answer.ending = .finished (.error e)) :
    Course cycles now s ⟨.finished (.error (e.toLifecycle bucket .update)), [get, update],
      update.answer.finish, update.answer.state⟩
  | corrected {cycles : Nat} {now : Instant} {s : σ} {get update : LogicalCall σ}
      {stored : Snapshot}
      (hsent : Corrects p handler deadline bucket decorate check now s get update)
      (hstored : update.answer.ending = .finished (.ok stored)) :
    Course cycles now s ⟨.finished (.ok ⟨bucket, .needsCorrection, stored, cycles + 1, cycles⟩),
      [get, update], update.answer.finish, update.answer.state⟩
  | insertRejected {cycles : Nat} {now : Instant} {s : σ} {get : LogicalCall σ} {e : RetryError}
      {rejected : LifecycleError}
      (hget : get = p.logicalCall handler deadline (.get bucket) now s)
      (habsent : get.answer.ending = .finished (.error e))
      (hkind : e.storeError.isNotFound = true)
      (hdesired : desiredState bucket decorate (.named bucket) = .error rejected) :
    Course cycles now s
      ⟨.finished (.error rejected), [get], get.answer.finish, get.answer.state⟩
  | insertStopped {cycles : Nat} {now : Instant} {s : σ} {get insert : LogicalCall σ}
      {ending : Ending (Except LifecycleError Outcome)}
      (hsent : Creates p handler deadline bucket decorate now s get insert)
      (hstopped : insert.answer.ending.IsStopped) (hending : ending.IsStopped) :
    Course cycles now s ⟨ending, [get, insert], insert.answer.finish, insert.answer.state⟩
  | insertFailed {cycles : Nat} {now : Instant} {s : σ} {get insert : LogicalCall σ}
      {e : RetryError}
      (hsent : Creates p handler deadline bucket decorate now s get insert)
      (hfailed : insert.answer.ending = .finished (.error e))
      (hkind : e.storeError.isConflict = false) :
    Course cycles now s ⟨.finished (.error (e.toLifecycle bucket .insert)), [get, insert],
      insert.answer.finish, insert.answer.state⟩
  | created {cycles : Nat} {now : Instant} {s : σ} {get insert : LogicalCall σ}
      {stored : Snapshot}
      (hsent : Creates p handler deadline bucket decorate now s get insert)
      (hstored : insert.answer.ending = .finished (.ok stored)) :
    Course cycles now s ⟨.finished (.ok ⟨bucket, .doesNotExist, stored, cycles + 1, cycles⟩),
      [get, insert], insert.answer.finish, insert.answer.state⟩
  | racesExhausted {cycles : Nat} {now : Instant} {s : σ} {get insert : LogicalCall σ}
      {e : RetryError}
      (hsent : Creates p handler deadline bucket decorate now s get insert)
      (hlost : insert.answer.ending = .finished (.error e))
      (hkind : e.storeError.isConflict = true) (hspent : maxCycles.toNat < cycles + 1) :
    Course cycles now s ⟨.finished (.error (.conflictLoopExhausted bucket (cycles + 1))),
      [get, insert], insert.answer.finish, insert.answer.state⟩
  | raced {cycles : Nat} {now : Instant} {s : σ} {get insert : LogicalCall σ} {e : RetryError}
      {rest : LogicalRun σ}
      (hsent : Creates p handler deadline bucket decorate now s get insert)
      (hlost : insert.answer.ending = .finished (.error e))
      (hkind : e.storeError.isConflict = true) (hleft : cycles + 1 ≤ maxCycles.toNat)
      (hrest : Course (cycles + 1) insert.answer.finish insert.answer.state rest) :
    Course cycles now s (rest.after [get, insert])

variable {p handler deadline bucket decorate check maxCycles}

/-- A call in a program of logical calls is one series of attempts, and the rest follows its result.
-/
theorem nestedRun_call {α : Type} (c : BucketCall)
    (rest : LogicalAnswer → Program BucketCall LogicalAnswer α) (now : Instant) (s : σ) :
    (Program.call c rest).nestedRun p.execute handler deadline now s =
      ((p.logicalCall handler deadline c now s).answer.next fun answer now s =>
        (rest answer).nestedRun p.execute handler deadline now s).after
          [p.logicalCall handler deadline c now s] := rfl

/-- Without a deadline, and with room for the attempts that the policy allows, a logical call comes
to a result. -/
theorem not_isStopped_logicalCall {c : BucketCall} {now : Instant} {s : σ} {call : LogicalCall σ}
    (hcall : call = p.logicalCall handler deadline c now s) (hdeadline : deadline = none)
    (hretries : p.maxRetries.toNat < counterLimit) : ¬ call.answer.ending.IsStopped := by
  subst hcall
  intro hstopped
  obtain ⟨result, hresult⟩ :=
    (attempts_execute now s).finished_of_room hdeadline (Nat.zero_le _) hretries
  rw [RetryPolicy.logicalCall, hresult] at hstopped
  exact hstopped

/-- What follows a reading whose snapshot has to be corrected. -/
theorem course_correction {cycles : Nat} {now : Instant} {s : σ} {get : LogicalCall σ}
    {found drifted desired : Snapshot}
    (hget : get = p.logicalCall handler deadline (.get bucket) now s)
    (hfound : get.answer.ending = .finished (.ok found))
    (hcheck : check found = .nonCompliant drifted)
    (hdesired : desiredState bucket decorate drifted = .ok desired) :
    Course p handler deadline bucket decorate check maxCycles cycles now s
      (((correction bucket (cycles + 1) cycles desired).nestedRun p.execute handler deadline
        get.answer.finish get.answer.state).after [get]) := by
  unfold correction
  rw [nestedRun_call]
  generalize hupdate : p.logicalCall handler deadline (.update desired) get.answer.finish
    get.answer.state = update
  have hsent : Corrects p handler deadline bucket decorate check now s get update :=
    ⟨hget, found, drifted, desired, hfound, hcheck, hdesired, hupdate.symm⟩
  rcases update.answer.ending.finished_or_isStopped with ⟨answer, hanswer⟩ | hstopped
  · rw [Run.next_of_finished hanswer]
    cases answer with
    | ok stored => exact .corrected hsent hanswer
    | error e => exact .updateFailed hsent hanswer
  · obtain ⟨ending, hending, hnext⟩ := Run.next_of_isStopped hstopped _
    rw [hnext]
    exact .updateStopped hsent hstopped hending

/-- What follows a reading that finds no bucket, where a lost race that leaves another reading is
followed by some course. -/
theorem course_creation {cycles : Nat} {now : Instant} {s : σ} {get : LogicalCall σ}
    {absent : RetryError} {desired : Snapshot} {again : LogicalProgram}
    (hget : get = p.logicalCall handler deadline (.get bucket) now s)
    (habsent : get.answer.ending = .finished (.error absent))
    (hkind : absent.storeError.isNotFound = true)
    (hdesired : desiredState bucket decorate (.named bucket) = .ok desired)
    (hagain : ∀ (now : Instant) (s : σ), cycles + 1 ≤ maxCycles.toNat →
      Course p handler deadline bucket decorate check maxCycles (cycles + 1) now s
        (again.nestedRun p.execute handler deadline now s)) :
    Course p handler deadline bucket decorate check maxCycles cycles now s
      (((creation bucket (cycles + 1) cycles desired <|
        if maxCycles.toNat < cycles + 1 then
          .done (.error (.conflictLoopExhausted bucket (cycles + 1)))
        else again).nestedRun p.execute handler deadline get.answer.finish
          get.answer.state).after [get]) := by
  unfold creation
  rw [nestedRun_call]
  generalize hinsert : p.logicalCall handler deadline (.insert desired) get.answer.finish
    get.answer.state = insert
  have hsent : Creates p handler deadline bucket decorate now s get insert :=
    ⟨hget, ⟨absent, habsent, hkind⟩, desired, hdesired, hinsert.symm⟩
  rcases insert.answer.ending.finished_or_isStopped with ⟨answer, hanswer⟩ | hstopped
  · rw [Run.next_of_finished hanswer]
    cases answer with
    | ok stored => exact .created hsent hanswer
    | error e =>
      dsimp only
      split
      · next hconflict =>
        split
        · next hspent => exact .racesExhausted hsent hanswer hconflict hspent
        · next hleft =>
          exact .raced hsent hanswer hconflict (by omega) (hagain _ _ (by omega))
      · next hconflict => exact .insertFailed hsent hanswer (by simpa using hconflict)
  · obtain ⟨ending, hending, hnext⟩ := Run.next_of_isStopped hstopped _
    rw [hnext]
    exact .insertStopped hsent hstopped hending

/-- Every reconciliation takes its course.  The number of readings equals the number of lost races
whenever the loop reads the bucket, and what the one has used up of its counter is `cycles`. -/
theorem course_reconcileFrom {room cycles : Nat} (hroom : room + cycles = counterLimit)
    (now : Instant) (s : σ) :
    Course p handler deadline bucket decorate check maxCycles cycles now s
      ((reconcileFrom bucket decorate check maxCycles room cycles cycles).nestedRun p.execute
        handler deadline now s) := by
  induction room generalizing cycles now s with
  | zero => exact .counterFull (by omega)
  | succ room ih =>
    unfold reconcileFrom
    rw [nestedRun_call]
    generalize hget : p.logicalCall handler deadline (.get bucket) now s = get
    rcases get.answer.ending.finished_or_isStopped with ⟨answer, hanswer⟩ | hstopped
    · rw [Run.next_of_finished hanswer]
      cases answer with
      | ok found =>
        dsimp only
        cases hcheck : check found with
        | compliant kept => exact .compliant hget.symm hanswer hcheck
        | nonCompliant drifted =>
          dsimp only
          cases hdesired : desiredState bucket decorate drifted with
          | ok desired => exact course_correction hget.symm hanswer hcheck hdesired
          | error e => exact .updateRejected hget.symm hanswer hcheck hdesired
      | error e =>
        dsimp only
        split
        · next hkind =>
          cases hdesired : desiredState bucket decorate (.named bucket) with
          | ok desired =>
            exact course_creation hget.symm hanswer hkind hdesired fun now s _ =>
              ih (by omega) now s
          | error rejected => exact .insertRejected hget.symm hanswer hkind hdesired
        · next hkind => exact .readingFailed hget.symm hanswer (by simpa using hkind)
    · obtain ⟨ending, hending, hnext⟩ := Run.next_of_isStopped hstopped _
      rw [hnext]
      exact .readingStopped hget.symm hstopped hending

/-- What the logical calls of a course preserve holds at its end. -/
theorem Course.invariant {cycles : Nat} {now : Instant} {s : σ} {run : LogicalRun σ}
    (Inv : σ → Prop)
    (hget : ∀ now s, Inv s → Inv (p.logicalCall handler deadline (.get bucket) now s).answer.state)
    (hinsert : ∀ now s get insert, Creates p handler deadline bucket decorate now s get insert →
      Inv get.answer.state → Inv insert.answer.state)
    (hupdate : ∀ now s get update,
      Corrects p handler deadline bucket decorate check now s get update →
      Inv get.answer.state → Inv update.answer.state)
    (h : Course p handler deadline bucket decorate check maxCycles cycles now s run)
    (hs : Inv s) : Inv run.state := by
  have hread {now : Instant} {s : σ} {get : LogicalCall σ}
      (hget' : get = p.logicalCall handler deadline (.get bucket) now s) (hs : Inv s) :
      Inv get.answer.state := by
    rw [hget']
    exact hget now s hs
  induction h with
  | counterFull => exact hs
  | readingStopped hget | readingFailed hget | compliant hget | updateRejected hget
  | insertRejected hget => exact hread hget hs
  | updateStopped hsent | updateFailed hsent | corrected hsent =>
    exact hupdate _ _ _ _ hsent (hread hsent.get_eq hs)
  | insertStopped hsent | insertFailed hsent | created hsent | racesExhausted hsent =>
    exact hinsert _ _ _ _ hsent (hread hsent.get_eq hs)
  | raced hsent _ _ _ _ ih => exact ih (hinsert _ _ _ _ hsent (hread hsent.get_eq hs))

/-- Every run of a reconciler takes its course. -/
theorem Reconciler.course_run (r : Reconciler) (handler : StoreHandler σ) (bucket : String)
    (decorate : Decorator) (check : Checker) (now : Instant) (state : σ) :
    Course r.retry handler (r.limitFrom now) bucket decorate check r.maxConflictCycles 0 now state
      (r.logicalRun handler bucket decorate check now state) :=
  course_reconcileFrom (Nat.add_zero counterLimit) now state

end

end BucketLifecycle
