import BucketLifecycle.Proofs.Reconcile.CallProtocol

/-!
# What the failures of a reconciliation say

A failure that names an operation is about the last call of the run: that call is of the operation,
and its answer is the one that the failure keeps.  One that tells of attempts that were used up is
about the last attempts, all of them.  Conversely, an answer that no retry can mend and that does
not steer the reconciliation ends it there and then, as the failure of that call; the same answer
may steer one operation and be fatal to another (`Steers`).

`Course.failure` lists the failures that a reconciliation can end with, `Course.fatal` says which
logical calls end it, and `Attempts` says the same of the single attempts at one of them.
-/

set_option autoImplicit false

namespace BucketLifecycle

variable {σ : Type}

/-- The failures that steer a reconciliation: there is no bucket to read, or somebody else was
faster to create it. -/
def Steers : Operation → StoreError → Prop
  | .get, .notFound _ => True
  | .insert, .conflict _ => True
  | _, _ => False

/-- What a failure says about the single attempts of the run that it ended, where a call is repeated
up to `n` times. -/
structure Attributed (n : Nat) (bucket : String)
    (attempts : List (Exchange BucketCall (Except StoreError Snapshot))) (e : LifecycleError) :
    Prop where
  bucket_eq : e.bucket = some bucket
  remote : ∀ name operation source, e = .remote name operation source →
    (∃ last, attempts.getLast? = some last ∧ last.request.operation = operation ∧
      last.answer = .error source) ∧ source.isTransient = false ∧ ¬ Steers operation source
  retriesExhausted : ∀ name operation count source,
    e = .retriesExhausted name operation count source → count = n + 1 ∧
      ∃ earlier spent, attempts = earlier ++ spent ∧ spent.length = n + 1 ∧
        (∀ attempt ∈ spent, attempt.request.operation = operation ∧
          ∃ failure, attempt.answer = .error failure ∧ failure.isTransient = true) ∧
        spent.getLast?.map Exchange.answer = some (.error source)
  storeError_iff : ∀ source, e.storeError = some source ↔
    (∃ name operation, e = .remote name operation source) ∨
      ∃ name operation count, e = .retriesExhausted name operation count source

/-- A failure behind which there is no call says nothing about the attempts. -/
theorem attributed_of_storeError_eq_none {n : Nat} {bucket : String}
    {attempts : List (Exchange BucketCall (Except StoreError Snapshot))} {e : LifecycleError}
    (hbucket : e.bucket = some bucket) (hnone : e.storeError = none) :
    Attributed n bucket attempts e where
  bucket_eq := hbucket
  remote := by
    rintro name operation source rfl
    cases hnone
  retriesExhausted := by
    rintro name operation count source rfl
    cases hnone
  storeError_iff := by
    intro source
    constructor
    · intro h
      cases hnone.symm.trans h
    · rintro (⟨name, operation, rfl⟩ | ⟨name, operation, count, rfl⟩) <;> cases hnone

/-- An answer that comes only after the deadline of a reconciliation that began at `now`. -/
def AnsweredLate (r : Reconciler) (handler : StoreHandler σ) (now : Instant)
    (attempt : Exchange BucketCall (Except StoreError Snapshot)) : Prop :=
  ∃ limit at_, r.limitFrom now = some limit ∧
    attempt.answer = (handler attempt.start attempt.request at_).answer ∧
    limit < attempt.start + (handler attempt.start attempt.request at_).delay.ticks

section

variable {p : RetryPolicy} {handler : StoreHandler σ} {deadline : Option Instant}
  {bucket : String} {decorate : Decorator} {check : Checker} {maxCycles : UInt32}
  {now : Instant} {s : σ} {cycles : Nat} {run : LogicalRun σ}

/-- A failed reading does not steer a run unless it says that there is no bucket. -/
theorem not_steers_get {e : StoreError} (h : e.isNotFound = false) : ¬ Steers .get e := by
  cases e with
  | notFound m => exact absurd h (by simp [StoreError.isNotFound, StoreError.kind])
  | conflict | forbidden | invalidRequest | server | transport | decode => exact id

/-- A failed creation does not steer a run unless it is a conflict. -/
theorem not_steers_insert {e : StoreError} (h : e.isConflict = false) : ¬ Steers .insert e := by
  cases e with
  | conflict m => exact absurd h (by simp [StoreError.isConflict, StoreError.kind])
  | notFound | forbidden | invalidRequest | server | transport | decode => exact id

/-- A reading that finds no bucket steers the run. -/
theorem steers_get {e : StoreError} (h : e.isNotFound = true) : Steers .get e := by
  obtain ⟨m, rfl⟩ := StoreError.isNotFound_iff.1 h
  trivial

/-- A creation that is lost to another one steers the run. -/
theorem steers_insert {e : StoreError} (h : e.isConflict = true) : Steers .insert e := by
  obtain ⟨m, rfl⟩ := StoreError.isConflict_iff.1 h
  trivial

/-- A reading before a creation may have failed, but only in the way that asks for one. -/
theorem Creates.steers {get insert : LogicalCall σ}
    (h : Creates p handler deadline bucket decorate now s get insert) {result : RetryError}
    (hfailed : get.answer.ending = .finished (.error result)) :
    Steers get.request.operation result.storeError := by
  obtain ⟨e, habsent, hkind⟩ := h.absent
  cases habsent.symm.trans hfailed
  rw [h.get_request]
  exact steers_get hkind

/-- The reading in front of a replacement did not fail. -/
theorem Corrects.ne_failed {get update : LogicalCall σ}
    (h : Corrects p handler deadline bucket decorate check now s get update)
    (result : RetryError) : get.answer.ending ≠ .finished (.error result) := by
  obtain ⟨-, found, drifted, desired, hfound, -⟩ := h
  rw [hfound]
  exact nofun

namespace Course

/-- A reconciliation fails on its last logical call, on a desired state that a store would not
accept, or because it lost too many races. -/
theorem failure (h : Course p handler deadline bucket decorate check maxCycles cycles now s run)
    {e : LifecycleError} (he : run.ending = .finished (.error e)) :
    (∃ last result, run.exchanges.getLast? = some last ∧
        last.answer.ending = .finished (.error result) ∧
        ¬ Steers last.request.operation result.storeError ∧
        e = result.toLifecycle bucket last.request.operation) ∨
      (∃ reason, e = .invalidDesiredState bucket reason) ∨
      ∃ lost, e = .conflictLoopExhausted bucket lost := by
  induction h with
  | counterFull => cases he
  | readingStopped _ _ hending | updateStopped _ _ hending | insertStopped _ _ hending =>
    exact absurd he (hending.ne_finished _)
  | compliant | corrected | created => cases he
  | @readingFailed _ _ _ get result hget hfailed hkind =>
    cases he
    refine .inl ⟨get, result, rfl, hfailed, ?_, ?_⟩
    · rw [hget]
      exact not_steers_get hkind
    · rw [hget]
      rfl
  | @updateFailed _ _ _ get update result hsent hfailed =>
    cases he
    obtain ⟨desired, hrequest⟩ := hsent.update_request
    refine .inl ⟨update, result, rfl, hfailed, ?_, ?_⟩
    · rw [hrequest]
      exact id
    · rw [hrequest]
      rfl
  | @insertFailed _ _ _ get insert result hsent hfailed hkind =>
    cases he
    refine .inl ⟨insert, result, rfl, hfailed, ?_, ?_⟩
    · rw [hsent.insert_request]
      exact not_steers_insert hkind
    · rw [hsent.insert_request]
      rfl
  | updateRejected _ _ _ hdesired | insertRejected _ _ _ hdesired =>
    cases he
    obtain ⟨fault, -, rfl⟩ := desiredState_eq_error_iff.1 hdesired
    exact .inr (.inl ⟨_, rfl⟩)
  | racesExhausted =>
    cases he
    exact .inr (.inr ⟨_, rfl⟩)
  | raced _ _ _ _ _ ih =>
    rcases ih he with ⟨last, result, hlast, hrest⟩ | hother
    · refine .inl ⟨last, result, ?_, hrest⟩
      rw [Run.exchanges_after, List.getLast?_append, hlast]
      rfl
    · exact .inr hother

/-- A logical call whose failure does not steer the reconciliation ends it. -/
theorem fatal (h : Course p handler deadline bucket decorate check maxCycles cycles now s run)
    {call : LogicalCall σ} (hcall : call ∈ run.exchanges) {result : RetryError}
    (hfailed : call.answer.ending = .finished (.error result))
    (hfatal : ¬ Steers call.request.operation result.storeError) :
    run.exchanges.getLast? = some call ∧
      run.ending = .finished (.error (result.toLifecycle bucket call.request.operation)) := by
  induction h with
  | counterFull => exact absurd hcall List.not_mem_nil
  | readingStopped _ hstopped =>
    cases List.mem_singleton.1 hcall
    exact absurd hfailed (hstopped.ne_finished _)
  | readingFailed hget hfailed' =>
    cases List.mem_singleton.1 hcall
    cases hfailed'.symm.trans hfailed
    rw [hget]
    exact ⟨rfl, rfl⟩
  | compliant _ hfound | updateRejected _ hfound =>
    cases List.mem_singleton.1 hcall
    cases hfound.symm.trans hfailed
  | insertRejected hget habsent hkind =>
    cases List.mem_singleton.1 hcall
    cases habsent.symm.trans hfailed
    rw [hget] at hfatal
    exact absurd (steers_get hkind) hfatal
  | updateStopped hsent hstopped =>
    rcases List.mem_pair.1 hcall with rfl | rfl
    · exact absurd hfailed (hsent.ne_failed _)
    · exact absurd hfailed (hstopped.ne_finished _)
  | updateFailed hsent hfailed' =>
    obtain ⟨desired, hrequest⟩ := hsent.update_request
    rcases List.mem_pair.1 hcall with rfl | rfl
    · exact absurd hfailed (hsent.ne_failed _)
    · cases hfailed'.symm.trans hfailed
      rw [hrequest]
      exact ⟨rfl, rfl⟩
  | corrected hsent hstored =>
    rcases List.mem_pair.1 hcall with rfl | rfl
    · exact absurd hfailed (hsent.ne_failed _)
    · cases hstored.symm.trans hfailed
  | insertStopped hsent hstopped =>
    rcases List.mem_pair.1 hcall with rfl | rfl
    · exact absurd (hsent.steers hfailed) hfatal
    · exact absurd hfailed (hstopped.ne_finished _)
  | insertFailed hsent hfailed' =>
    rcases List.mem_pair.1 hcall with rfl | rfl
    · exact absurd (hsent.steers hfailed) hfatal
    · cases hfailed'.symm.trans hfailed
      rw [hsent.insert_request]
      exact ⟨rfl, rfl⟩
  | created hsent hstored =>
    rcases List.mem_pair.1 hcall with rfl | rfl
    · exact absurd (hsent.steers hfailed) hfatal
    · cases hstored.symm.trans hfailed
  | racesExhausted hsent hlost hkind =>
    rcases List.mem_pair.1 hcall with rfl | rfl
    · exact absurd (hsent.steers hfailed) hfatal
    · cases hlost.symm.trans hfailed
      rw [hsent.insert_request] at hfatal
      exact absurd (steers_insert hkind) hfatal
  | raced hsent hlost hkind _ _ ih =>
    rcases List.mem_append.1 hcall with hcall | hcall
    · rcases List.mem_pair.1 hcall with rfl | rfl
      · exact absurd (hsent.steers hfailed) hfatal
      · cases hlost.symm.trans hfailed
        rw [hsent.insert_request] at hfatal
        exact absurd (steers_insert hkind) hfatal
    · obtain ⟨hlast, hending⟩ := ih hcall
      refine ⟨?_, hending⟩
      rw [Run.exchanges_after, List.getLast?_append, hlast]
      rfl

end Course

/-- The attempts at the last call end the list of all attempts. -/
theorem exists_flatMap_eq {calls : List (LogicalCall σ)} {last : LogicalCall σ}
    (h : calls.getLast? = some last) :
    ∃ earlier, (calls.flatMap fun call => call.answer.exchanges) =
      earlier ++ last.answer.exchanges := by
  obtain ⟨before, rfl⟩ := List.getLast?_eq_some_iff.1 h
  refine ⟨before.flatMap fun call => call.answer.exchanges, ?_⟩
  rw [List.flatMap_append, List.flatMap_singleton]

/-- The last attempt at the last call is the last of all. -/
theorem getLast?_flatMap {calls : List (LogicalCall σ)} {last : LogicalCall σ}
    (h : calls.getLast? = some last) {attempt : Exchange BucketCall (Except StoreError Snapshot)}
    (hattempt : last.answer.exchanges.getLast? = some attempt) :
    (calls.flatMap fun call => call.answer.exchanges).getLast? = some attempt := by
  obtain ⟨earlier, heq⟩ := exists_flatMap_eq h
  rw [heq, List.getLast?_append, hattempt]
  rfl

end

section

variable (r : Reconciler) (handler : StoreHandler σ) (bucket : String) (decorate : Decorator)
  (check : Checker) (now : Instant) (s : σ)

/-- Each logical call of a run is one series of attempts under its retry policy. -/
theorem Reconciler.attempts_of_mem {call : LogicalCall σ}
    (h : call ∈ (r.logicalRun handler bucket decorate check now s).exchanges) :
    ∃ at_,
      Attempts r.retry call.request handler (r.limitFrom now) 0 call.start at_ call.answer := by
  obtain ⟨at_, hanswer⟩ := Program.exists_answer_eq_run _ _ _ _ _ _ call h
  refine ⟨at_, ?_⟩
  rw [hanswer]
  exact attempts_execute call.start at_

/-- The failure of a repeated call is that of its last attempt, or of all of them. -/
theorem attributed_toLifecycle {call : LogicalCall σ} {result : RetryError}
    {earlier : List (Exchange BucketCall (Except StoreError Snapshot))} {at_ : σ}
    {deadline : Option Instant}
    (hattempts : Attempts r.retry call.request handler deadline 0 call.start at_ call.answer)
    (hfailed : call.answer.ending = .finished (.error result))
    (hfatal : ¬ Steers call.request.operation result.storeError) :
    Attributed r.retry.maxRetries.toNat bucket (earlier ++ call.answer.exchanges)
      (result.toLifecycle bucket call.request.operation) := by
  obtain ⟨last, hlast, hanswer⟩ :=
    Option.map_eq_some_iff.1 (hattempts.lastAnswer?_of_finished hfailed)
  have hrequest := hattempts.request_eq
  cases result with
  | permanent source =>
    refine ⟨rfl, ?_, nofun, ?_⟩
    · intro name operation source' heq
      cases heq
      refine ⟨⟨last, ?_, ?_, hanswer⟩, hattempts.isTransient_of_permanent hfailed, hfatal⟩
      · rw [List.getLast?_append, hlast]
        rfl
      · rw [hrequest last (List.mem_of_getLast? hlast)]
    · intro source'
      simp [RetryError.toLifecycle, LifecycleError.storeError]
  | exhausted count source =>
    obtain ⟨hcount, hlength, hall⟩ := hattempts.transient_of_exhausted (Nat.zero_le _) hfailed
    refine ⟨rfl, nofun, ?_, ?_⟩
    · intro name operation count' source' heq
      cases heq
      refine ⟨hcount, earlier, call.answer.exchanges, rfl, hlength, ?_, ?_⟩
      · intro attempt hattempt
        exact ⟨by rw [hrequest attempt hattempt], hall attempt hattempt⟩
      · rw [hlast]
        exact congrArg some hanswer
    · intro source'
      simp [RetryError.toLifecycle, LifecycleError.storeError]

/-- A reconciliation fails as its last attempts say, or for a reason of its own. -/
theorem Reconciler.attributed_run {e : LifecycleError}
    (he : r.result? bucket (r.run handler bucket decorate check now s).ending = some (.error e)) :
    Attributed r.retry.maxRetries.toNat bucket
      (r.run handler bucket decorate check now s).exchanges e := by
  rw [r.run_eq_flatten] at he ⊢
  have hcourse := r.course_run handler bucket decorate check now s
  cases hending : (r.logicalRun handler bucket decorate check now s).ending with
  | finished result =>
    have hresult : result = .error e := by
      simpa [Run.flatten, Reconciler.result?, hending] using he
    rcases hcourse.failure (hending.trans (congrArg _ hresult)) with
      ⟨last, failure, hlast, hfailed, hfatal, rfl⟩ | ⟨reason, rfl⟩ | ⟨lost, rfl⟩
    · obtain ⟨at_, hattempts⟩ :=
        r.attempts_of_mem handler bucket decorate check now s (List.mem_of_getLast? hlast)
      obtain ⟨earlier, hflat⟩ := exists_flatMap_eq hlast
      show Attributed _ _ (List.flatMap _ _) _
      rw [hflat]
      exact attributed_toLifecycle r handler bucket hattempts hfailed hfatal
    · exact attributed_of_storeError_eq_none rfl rfl
    · exact attributed_of_storeError_eq_none rfl rfl
  | deadline =>
    have hlate : ∃ limit, r.deadline = some limit ∧ .deadlineExceeded bucket limit = e := by
      simpa [Run.flatten, Reconciler.result?, hending] using he
    obtain ⟨limit, -, rfl⟩ := hlate
    exact attributed_of_storeError_eq_none rfl rfl
  | overflow =>
    simp [Run.flatten, Reconciler.result?, hending] at he

/-- An answer that no retry can mend and that does not steer the reconciliation is the last of the
run and ends it, unless the deadline had passed before it came. -/
theorem Reconciler.fatal_run {attempt : Exchange BucketCall (Except StoreError Snapshot)}
    (hattempt : attempt ∈ (r.run handler bucket decorate check now s).exchanges)
    {source : StoreError} (hanswer : attempt.answer = .error source)
    (hkind : source.isTransient = false) (hfatal : ¬ Steers attempt.request.operation source) :
    (r.run handler bucket decorate check now s).exchanges.getLast? = some attempt ∧
      ((r.run handler bucket decorate check now s).ending =
          .finished (.error (.remote bucket attempt.request.operation source)) ∨
        (r.run handler bucket decorate check now s).ending = .deadline ∧
          AnsweredLate r handler now attempt) := by
  rw [r.run_eq_flatten] at hattempt ⊢
  obtain ⟨call, hcall, hmem⟩ := List.mem_flatMap.1 hattempt
  obtain ⟨at_, hattempts⟩ := r.attempts_of_mem handler bucket decorate check now s hcall
  have hrequest := hattempts.request_eq attempt hmem
  obtain ⟨hlast, hrefused | ⟨hcut, hlate⟩⟩ :=
    hattempts.refused_or_late attempt hmem source hanswer hkind
  · rw [hrequest] at hfatal
    obtain ⟨hlastCall, hending⟩ := (r.course_run handler bucket decorate check now s).fatal hcall
      hrefused hfatal
    refine ⟨getLast?_flatMap hlastCall hlast, .inl ?_⟩
    rw [hrequest]
    exact hending
  · obtain ⟨hlastCall, hending⟩ := Program.nestedRun_of_deadline _ _ _ _ _ _ call hcall hcut
    exact ⟨getLast?_flatMap hlastCall hlast, .inr ⟨hending, hlate⟩⟩

/-- Failures are attributed correctly.  Whatever error a reconciliation returns says about its last
attempts what they were; and an attempt whose failure neither a retry nor the reconciliation itself
can deal with ends the run as the failure of that attempt. -/
theorem reconcile_attribution :
    let run := r.run handler bucket decorate check now s
    (∀ e, r.result? bucket run.ending = some (.error e) →
        Attributed r.retry.maxRetries.toNat bucket run.exchanges e) ∧
      ∀ attempt ∈ run.exchanges, ∀ source, attempt.answer = .error source →
        source.isTransient = false → ¬ Steers attempt.request.operation source →
        run.exchanges.getLast? = some attempt ∧
          (r.result? bucket run.ending =
              some (.error (.remote bucket attempt.request.operation source)) ∨
            run.ending = .deadline ∧ AnsweredLate r handler now attempt) := by
  intro run
  refine ⟨fun e => r.attributed_run handler bucket decorate check now s, ?_⟩
  intro attempt hattempt source hanswer hkind hfatal
  obtain ⟨hlast, hending | hlate⟩ :=
    r.fatal_run handler bucket decorate check now s hattempt hanswer hkind hfatal
  · refine ⟨hlast, .inl ?_⟩
    rw [hending]
    rfl
  · exact ⟨hlast, .inr hlate⟩

end

/-- A store that has no bucket, loses a connection, and forgets the project while the bucket is
created. -/
def forgetfulStore : ScriptedStore where
  gets := [⟨.error (.transport "reset"), .zero⟩, ⟨.error (.notFound "ci-artifacts"), .zero⟩]
  inserts := [⟨.error (.server 503 "busy"), .zero⟩, ⟨.error (.notFound "ci-project"), .zero⟩]
  updates := []

/-- The same kind of failure steers the reading of a bucket and is fatal to its creation. -/
theorem attribution_of_forgetful_store :
    let r : Reconciler := ⟨.immediate 1, 3, none⟩
    let p : Expiring := ⟨30⟩
    let run := r.run ScriptedStore.handler "ci-artifacts" p.decorate p.check 0 forgetfulStore
    let e : LifecycleError := .remote "ci-artifacts" .insert (.notFound "ci-project")
    r.result? "ci-artifacts" run.ending = some (.error e) ∧
      run.exchanges.map (fun attempt => attempt.request.operation) =
        [.get, .get, .insert, .insert] ∧
      Attributed 1 "ci-artifacts" run.exchanges e := by
  intro r p run e
  have hresult : r.result? "ci-artifacts" run.ending = some (.error e) := by decide +kernel
  obtain ⟨hfailure, -⟩ := reconcile_attribution r ScriptedStore.handler "ci-artifacts" p.decorate
    p.check 0 forgetfulStore
  exact ⟨hresult, by decide +kernel, hfailure e hresult⟩

end BucketLifecycle
