import Mathlib.Data.List.Chain
import BucketLifecycle.Proofs.Reconcile.Course
import BucketLifecycle.Store.Script

/-!
# The call protocol of a reconciliation

The logical calls of a reconciliation come in the order get, (insert, get)*, and then nothing, one
insert or one update. `Follows` says more: when each kind of call may come directly after another,
by the answer that the other one came to.  A result that succeeds accounts for the calls: its two
counters are the numbers of readings and of lost races, and its decision and snapshot are those of
the last call.

Each part is an induction on `Course`; `reconcile_callProtocol` puts them together for every store,
policy and bucket.
-/

set_option autoImplicit false

namespace BucketLifecycle

variable {σ : Type}

/-- A failure says that there is no bucket where it is of that kind. -/
theorem StoreError.isNotFound_iff {e : StoreError} :
    e.isNotFound = true ↔ ∃ m, e = .notFound m := by
  cases e <;> simp [StoreError.isNotFound, StoreError.kind]

/-- A failure is a conflict where it is of that kind. -/
theorem StoreError.isConflict_iff {e : StoreError} :
    e.isConflict = true ↔ ∃ m, e = .conflict m := by
  cases e <;> simp [StoreError.isConflict, StoreError.kind]

def operations (calls : List (LogicalCall σ)) : List Operation :=
  calls.map fun call => call.request.operation

/-- Whether a logical call is a creation that ended in a conflict. -/
def lostRace (call : LogicalCall σ) : Bool :=
  match call.request, call.answer.lastAnswer? with
  | .insert _, some (.error e) => e.isConflict
  | _, _ => false

/-- The order of the operations where so many races are lost. -/
def callOrder (lost : Nat) (last : List Operation) : List Operation :=
  .get :: ((List.replicate lost [.insert, .get]).flatten ++ last)

/-- When a logical call may come directly after another: a reading after a creation that ended in a
conflict, a creation after a reading that ended in not-found, and an update after a reading whose
snapshot does not match the policy. -/
def Follows (bucket : String) (decorate : Decorator) (check : Checker) (a b : LogicalCall σ) :
    Prop :=
  match b.request with
  | .get name => name = bucket ∧ (∃ desired, a.request = .insert desired) ∧
    ∃ m, a.answer.lastAnswer? = some (.error (.conflict m))
  | .insert desired => desired = decorate (.named bucket) ∧ a.request = .get bucket ∧
    ∃ m, a.answer.lastAnswer? = some (.error (.notFound m))
  | .update desired => a.request = .get bucket ∧ ∃ found drifted,
    a.answer.lastAnswer? = some (.ok found) ∧ check found = .nonCompliant drifted ∧
      desired = decorate drifted

/-- What the last logical call says about the result: a reading is followed by no change and
returns the snapshot that the checker accepted, a change returns the answer of the store. -/
def Concludes (check : Checker) (last : LogicalCall σ) (o : Outcome) : Prop :=
  match last.request with
  | .get _ => o.decision = .alreadyCompliant ∧ ∃ found,
    last.answer.lastAnswer? = some (.ok found) ∧ check found = .compliant o.snapshot
  | .insert _ => o.decision = .doesNotExist ∧ last.answer.lastAnswer? = some (.ok o.snapshot)
  | .update _ => o.decision = .needsCorrection ∧ last.answer.lastAnswer? = some (.ok o.snapshot)

/-- How a result accounts for the logical calls that led to it. -/
structure Accounts (check : Checker) (maxCycles : UInt32) (calls : List (LogicalCall σ))
    (o : Outcome) : Prop where
  reads : o.reads = (operations calls).count .get
  conflictCycles : o.conflictCycles = calls.countP lostRace
  reads_eq : o.reads = o.conflictCycles + 1
  conflictCycles_le : o.conflictCycles ≤ maxCycles.toNat
  alreadyCompliant_iff :
    o.decision = .alreadyCompliant ↔ (operations calls).getLast? = some .get
  doesNotExist_iff : o.decision = .doesNotExist ↔ (operations calls).getLast? = some .insert
  needsCorrection_iff : o.decision = .needsCorrection ↔ (operations calls).getLast? = some .update
  concludes : ∃ last, calls.getLast? = some last ∧ Concludes check last o

/-- The call protocol: a run comes to a result, its logical calls come in order and each for its
reason, and a result that succeeds accounts for them. -/
structure CallProtocol (bucket : String) (decorate : Decorator) (check : Checker)
    (maxCycles : UInt32) (run : LogicalRun σ) : Prop where
  finished : ∃ result, run.ending = .finished result
  order : ∃ lost, ∃ last ∈ [[], [Operation.insert], [Operation.update]],
    operations run.exchanges = callOrder lost last
  follows : run.exchanges.IsChain (Follows bucket decorate check)
  accounts : ∀ o, run.ending = .finished (.ok o) → Accounts check maxCycles run.exchanges o

section

variable {p : RetryPolicy} {handler : StoreHandler σ} {deadline : Option Instant}
  {bucket : String} {decorate : Decorator} {check : Checker} {maxCycles : UInt32}
  {now : Instant} {s : σ} {get insert update : LogicalCall σ}

/-- A logical call that comes to a result comes to the answer to its last attempt. -/
theorem lastAnswer?_logicalCall {c : BucketCall} {call : LogicalCall σ}
    (hcall : call = p.logicalCall handler deadline c now s) {result : LogicalAnswer}
    (hresult : call.answer.ending = .finished result) :
    call.answer.lastAnswer? = some (RetryError.answer result) := by
  subst hcall
  exact (attempts_execute now s).lastAnswer?_of_finished hresult

/-- The bucket that is created is decorated from its name alone. -/
theorem Creates.insert_request
    (h : Creates p handler deadline bucket decorate now s get insert) :
    insert.request = .insert (decorate (.named bucket)) := by
  obtain ⟨-, -, desired, hdesired, rfl⟩ := h
  rw [← (desiredState_eq_ok_iff.1 hdesired).1]
  rfl

/-- A creation stands behind a reading of its bucket. -/
theorem Creates.get_request (h : Creates p handler deadline bucket decorate now s get insert) :
    get.request = .get bucket := by
  rw [h.get_eq]
  rfl

/-- What a creation ends with is the last answer to it. -/
theorem Creates.lastAnswer? (h : Creates p handler deadline bucket decorate now s get insert)
    {result : LogicalAnswer} (hresult : insert.answer.ending = .finished result) :
    insert.answer.lastAnswer? = some (RetryError.answer result) := by
  obtain ⟨-, -, desired, -, hinsert⟩ := h
  exact lastAnswer?_logicalCall hinsert hresult

/-- A creation comes after a reading that ended in not-found. -/
theorem Creates.follows (h : Creates p handler deadline bucket decorate now s get insert) :
    Follows bucket decorate check get insert := by
  obtain ⟨e, habsent, hkind⟩ := h.absent
  obtain ⟨m, hm⟩ := StoreError.isNotFound_iff.1 hkind
  unfold Follows
  rw [h.insert_request]
  refine ⟨rfl, h.get_request, m, ?_⟩
  rw [lastAnswer?_logicalCall h.get_eq habsent, ← hm]
  rfl

/-- A replacement stands behind a reading of its bucket. -/
theorem Corrects.get_request
    (h : Corrects p handler deadline bucket decorate check now s get update) :
    get.request = .get bucket := by
  rw [h.get_eq]
  rfl

/-- What a replacement ends with is the last answer to it. -/
theorem Corrects.lastAnswer?
    (h : Corrects p handler deadline bucket decorate check now s get update)
    {result : LogicalAnswer} (hresult : update.answer.ending = .finished result) :
    update.answer.lastAnswer? = some (RetryError.answer result) := by
  obtain ⟨-, found, drifted, desired, -, -, -, hupdate⟩ := h
  exact lastAnswer?_logicalCall hupdate hresult

/-- A replacement asks for an update. -/
theorem Corrects.update_request
    (h : Corrects p handler deadline bucket decorate check now s get update) :
    ∃ desired, update.request = .update desired := by
  obtain ⟨-, found, drifted, desired, -, -, -, rfl⟩ := h
  exact ⟨desired, rfl⟩

/-- An update comes after a reading whose snapshot does not match. -/
theorem Corrects.follows
    (h : Corrects p handler deadline bucket decorate check now s get update) :
    Follows bucket decorate check get update := by
  obtain ⟨hget, found, drifted, desired, hfound, hcheck, hdesired, rfl⟩ := h
  refine ⟨by rw [hget]; rfl, found, drifted, lastAnswer?_logicalCall hget hfound, hcheck, ?_⟩
  exact (desiredState_eq_ok_iff.1 hdesired).1

/-- A creation that lost a race was last answered with a conflict. -/
theorem Creates.lastAnswer?_of_lost
    (h : Creates p handler deadline bucket decorate now s get insert) {e : RetryError}
    (hlost : insert.answer.ending = .finished (.error e)) (hkind : e.storeError.isConflict = true) :
    ∃ m, insert.answer.lastAnswer? = some (.error (.conflict m)) := by
  obtain ⟨m, hm⟩ := StoreError.isConflict_iff.1 hkind
  refine ⟨m, ?_⟩
  rw [h.lastAnswer? hlost, ← hm]
  rfl

/-- A creation that ended otherwise did not lose a race. -/
theorem Creates.lostRace_eq (h : Creates p handler deadline bucket decorate now s get insert)
    {result : LogicalAnswer} (hresult : insert.answer.ending = .finished result) :
    lostRace insert = match result with
      | .ok _ => false
      | .error e => e.storeError.isConflict := by
  unfold lostRace
  rw [h.insert_request, h.lastAnswer? hresult]
  cases result <;> rfl

/-- A reading is no lost race. -/
theorem lostRace_of_get {call : LogicalCall σ} (h : call.request = .get bucket) :
    lostRace call = false := by
  unfold lostRace
  rw [h]

/-- A replacement is no lost race. -/
theorem lostRace_of_update {call : LogicalCall σ} {desired : Snapshot}
    (h : call.request = .update desired) : lostRace call = false := by
  unfold lostRace
  rw [h]

namespace Course

variable {cycles : Nat} {run : LogicalRun σ}

/-- Every course starts with a reading, unless the counter leaves no room for it. -/
theorem head_request
    (h : Course p handler deadline bucket decorate check maxCycles cycles now s run) :
    ∀ call ∈ run.exchanges.head?, call.request = .get bucket := by
  intro call hcall
  cases h with
  | counterFull => cases hcall
  | readingStopped hget | readingFailed hget | compliant hget | updateRejected hget
  | insertRejected hget =>
    cases hcall
    rw [hget]
    rfl
  | updateStopped hsent | updateFailed hsent | corrected hsent =>
    cases hcall
    exact hsent.get_request
  | insertStopped hsent | insertFailed hsent | created hsent | racesExhausted hsent
  | raced hsent =>
    cases hcall
    exact hsent.get_request

/-- A logical call of a course reads the bucket, creates it or corrects it. -/
theorem call_cases
    (h : Course p handler deadline bucket decorate check maxCycles cycles now s run) :
    ∀ call ∈ run.exchanges, call.request = .get bucket ∨
      (∃ now s get, Creates p handler deadline bucket decorate now s get call) ∨
      ∃ now s get, Corrects p handler deadline bucket decorate check now s get call := by
  induction h with
  | counterFull => exact fun call hcall => absurd hcall List.not_mem_nil
  | readingStopped hget | readingFailed hget | compliant hget | updateRejected hget
  | insertRejected hget =>
    intro call hcall
    rw [List.mem_singleton.1 hcall, hget]
    exact .inl rfl
  | updateStopped hsent | updateFailed hsent | corrected hsent =>
    intro call hcall
    rcases List.mem_pair.1 hcall with rfl | rfl
    · exact .inl hsent.get_request
    · exact .inr (.inr ⟨_, _, _, hsent⟩)
  | insertStopped hsent | insertFailed hsent | created hsent | racesExhausted hsent =>
    intro call hcall
    rcases List.mem_pair.1 hcall with rfl | rfl
    · exact .inl hsent.get_request
    · exact .inr (.inl ⟨_, _, _, hsent⟩)
  | raced hsent _ _ _ _ ih =>
    intro call hcall
    rcases List.mem_append.1 hcall with hcall | hcall
    · rcases List.mem_pair.1 hcall with rfl | rfl
      · exact .inl hsent.get_request
      · exact .inr (.inl ⟨_, _, _, hsent⟩)
    · exact ih call hcall

/-- Each logical call of a course has its reason in the one directly before it. -/
theorem isChain_follows
    (h : Course p handler deadline bucket decorate check maxCycles cycles now s run) :
    run.exchanges.IsChain (Follows bucket decorate check) := by
  induction h with
  | counterFull => exact .nil
  | readingStopped | readingFailed | compliant | updateRejected | insertRejected =>
    exact .singleton _
  | updateStopped hsent | updateFailed hsent | corrected hsent =>
    exact .cons_cons hsent.follows (.singleton _)
  | insertStopped hsent | insertFailed hsent | created hsent | racesExhausted hsent =>
    exact .cons_cons hsent.follows (.singleton _)
  | raced hsent hlost hkind _ hrest ih =>
    refine .cons_cons hsent.follows (List.isChain_cons.2 ⟨fun again hagain => ?_, ih⟩)
    unfold Follows
    rw [hrest.head_request again hagain]
    exact ⟨rfl, ⟨_, hsent.insert_request⟩, hsent.lastAnswer?_of_lost hlost hkind⟩

/-- Without a deadline a course comes to a result, if no counter reaches its limit. -/
theorem finished
    (h : Course p handler deadline bucket decorate check maxCycles cycles now s run)
    (hdeadline : deadline = none) (hretries : p.maxRetries.toNat < counterLimit)
    (hlimit : maxCycles.toNat < counterLimit) (hcycles : cycles ≤ maxCycles.toNat) :
    ∃ result, run.ending = .finished result := by
  induction h with
  | counterFull hfull => omega
  | readingStopped hget hstopped =>
    exact absurd hstopped (not_isStopped_logicalCall hget hdeadline hretries)
  | updateStopped hsent hstopped =>
    obtain ⟨-, _, _, _, -, -, -, hupdate⟩ := hsent
    exact absurd hstopped (not_isStopped_logicalCall hupdate hdeadline hretries)
  | insertStopped hsent hstopped =>
    obtain ⟨-, -, _, -, hinsert⟩ := hsent
    exact absurd hstopped (not_isStopped_logicalCall hinsert hdeadline hretries)
  | raced _ _ _ hleft _ ih => exact ih hleft
  | readingFailed | compliant | updateRejected | updateFailed | corrected | insertRejected
  | insertFailed | created | racesExhausted => exact ⟨_, rfl⟩

/-- The operations of a course are in order; each lost race puts one creation and one reading in
front of what follows, and no more races are lost than are left. -/
theorem order_within
    (h : Course p handler deadline bucket decorate check maxCycles cycles now s run)
    (hlimit : maxCycles.toNat < counterLimit) (hcycles : cycles ≤ maxCycles.toNat) :
    ∃ lost ≤ maxCycles.toNat - cycles, ∃ last ∈ [[], [Operation.insert], [Operation.update]],
      operations run.exchanges = callOrder lost last := by
  induction h with
  | counterFull hfull => omega
  | readingStopped hget | readingFailed hget | compliant hget | updateRejected hget
  | insertRejected hget =>
    refine ⟨0, Nat.zero_le _, [], by simp, ?_⟩
    rw [hget]
    rfl
  | updateStopped hsent | updateFailed hsent | corrected hsent =>
    refine ⟨0, Nat.zero_le _, [.update], by simp, ?_⟩
    obtain ⟨desired, hrequest⟩ := hsent.update_request
    simp [operations, callOrder, hsent.get_request, hrequest, BucketCall.operation]
  | insertStopped hsent | insertFailed hsent | created hsent | racesExhausted hsent =>
    refine ⟨0, Nat.zero_le _, [.insert], by simp, ?_⟩
    simp [operations, callOrder, hsent.get_request, hsent.insert_request, BucketCall.operation]
  | raced hsent _ _ hleft _ ih =>
    obtain ⟨lost, hlost, last, hlast, hrest⟩ := ih hleft
    refine ⟨lost + 1, by omega, last, hlast, ?_⟩
    rw [Run.exchanges_after, operations, List.map_append]
    unfold operations at hrest
    rw [hrest]
    simp [callOrder, hsent.get_request, hsent.insert_request, BucketCall.operation,
      List.replicate_succ]

/-- The operations of a course are in order. -/
theorem order (h : Course p handler deadline bucket decorate check maxCycles cycles now s run)
    (hlimit : maxCycles.toNat < counterLimit) (hcycles : cycles ≤ maxCycles.toNat) :
    ∃ lost, ∃ last ∈ [[], [Operation.insert], [Operation.update]],
      operations run.exchanges = callOrder lost last := by
  obtain ⟨lost, -, horder⟩ := h.order_within hlimit hcycles
  exact ⟨lost, horder⟩

/-- The counters of a result that succeeds: what was counted before, and the calls of the course. -/
theorem counters (h : Course p handler deadline bucket decorate check maxCycles cycles now s run)
    (hcycles : cycles ≤ maxCycles.toNat) {o : Outcome} (ho : run.ending = .finished (.ok o)) :
    o.reads = cycles + (operations run.exchanges).count .get ∧
      o.conflictCycles = cycles + run.exchanges.countP lostRace ∧
      o.reads = o.conflictCycles + 1 ∧ o.conflictCycles ≤ maxCycles.toNat := by
  induction h with
  | counterFull => cases ho
  | readingStopped _ _ hending | updateStopped _ _ hending | insertStopped _ _ hending =>
    exact absurd ho (hending.ne_finished _)
  | readingFailed | updateRejected | updateFailed | insertRejected | insertFailed
  | racesExhausted => cases ho
  | compliant hget =>
    cases ho
    subst hget
    refine ⟨rfl, ?_, rfl, hcycles⟩
    rw [List.countP_singleton, lostRace_of_get rfl]
    rfl
  | corrected hsent =>
    cases ho
    obtain ⟨desired, hrequest⟩ := hsent.update_request
    refine ⟨?_, ?_, rfl, hcycles⟩
    · simp [operations, hsent.get_request, hrequest, BucketCall.operation]
    · simp [lostRace_of_get hsent.get_request, lostRace_of_update hrequest]
  | created hsent hstored =>
    cases ho
    refine ⟨?_, ?_, rfl, hcycles⟩
    · simp [operations, hsent.get_request, hsent.insert_request, BucketCall.operation]
    · simp [lostRace_of_get hsent.get_request, hsent.lostRace_eq hstored]
  | raced hsent hlost hkind hleft _ ih =>
    obtain ⟨hreads, hlosses, hsum, hbound⟩ := ih hleft ho
    have hinsert : lostRace _ = true := (hsent.lostRace_eq hlost).trans hkind
    refine ⟨?_, ?_, hsum, hbound⟩
    · rw [hreads]
      simp [operations, hsent.get_request, hsent.insert_request, BucketCall.operation]
      omega
    · rw [hlosses]
      simp [lostRace_of_get hsent.get_request, hinsert]
      omega

/-- The last logical call of a course concludes a result that succeeds. -/
theorem concludes (h : Course p handler deadline bucket decorate check maxCycles cycles now s run)
    {o : Outcome} (ho : run.ending = .finished (.ok o)) :
    ∃ last, run.exchanges.getLast? = some last ∧ Concludes check last o := by
  induction h with
  | counterFull => cases ho
  | readingStopped _ _ hending | updateStopped _ _ hending | insertStopped _ _ hending =>
    exact absurd ho (hending.ne_finished _)
  | readingFailed | updateRejected | updateFailed | insertRejected | insertFailed
  | racesExhausted => cases ho
  | compliant hget hfound hcheck =>
    cases ho
    refine ⟨_, rfl, ?_⟩
    have hlast := lastAnswer?_logicalCall hget hfound
    subst hget
    exact ⟨rfl, _, hlast, hcheck⟩
  | @corrected _ _ _ get update _ hsent hstored =>
    cases ho
    obtain ⟨desired, hrequest⟩ := hsent.update_request
    refine ⟨update, rfl, ?_⟩
    unfold Concludes
    rw [hrequest]
    exact ⟨rfl, hsent.lastAnswer? hstored⟩
  | @created _ _ _ get insert _ hsent hstored =>
    cases ho
    refine ⟨insert, rfl, ?_⟩
    unfold Concludes
    rw [hsent.insert_request]
    exact ⟨rfl, hsent.lastAnswer? hstored⟩
  | raced _ _ _ _ hrest ih =>
    obtain ⟨last, hlast, hconcludes⟩ := ih ho
    refine ⟨last, ?_, hconcludes⟩
    rw [Run.exchanges_after, List.getLast?_append, hlast]
    rfl

end Course

/-- The decision says which operation came last. -/
theorem Concludes.decision_iff {last : LogicalCall σ} {o : Outcome}
    (h : Concludes check last o) :
    (o.decision = .alreadyCompliant ↔ last.request.operation = .get) ∧
      (o.decision = .doesNotExist ↔ last.request.operation = .insert) ∧
      (o.decision = .needsCorrection ↔ last.request.operation = .update) := by
  unfold Concludes at h
  cases hrequest : last.request <;> rw [hrequest] at h <;> simp [h.1, BucketCall.operation]

end

/-- The call protocol of a reconciliation holds for every store, policy and bucket, where there is
no deadline and no counter reaches its limit. -/
theorem reconcile_callProtocol (r : Reconciler) (hdeadline : r.deadline = none)
    (hretries : r.retry.maxRetries.toNat < counterLimit)
    (hcycles : r.maxConflictCycles.toNat < counterLimit) (handler : StoreHandler σ)
    (bucket : String) (decorate : Decorator) (check : Checker) (now : Instant) (s : σ) :
    r.run handler bucket decorate check now s =
        (r.logicalRun handler bucket decorate check now s).flatten ∧
      CallProtocol bucket decorate check r.maxConflictCycles
        (r.logicalRun handler bucket decorate check now s) := by
  have hcourse := r.course_run handler bucket decorate check now s
  refine ⟨r.run_eq_flatten handler bucket decorate check now s, ?_, ?_, ?_, ?_⟩
  · exact hcourse.finished (by simp [Reconciler.limitFrom, hdeadline]) hretries hcycles
      (Nat.zero_le _)
  · exact hcourse.order hcycles (Nat.zero_le _)
  · exact hcourse.isChain_follows
  · intro o ho
    obtain ⟨hreads, hlosses, hsum, hbound⟩ := hcourse.counters (Nat.zero_le _) ho
    obtain ⟨last, hlast, hconcludes⟩ := hcourse.concludes ho
    obtain ⟨hget, hinsert, hupdate⟩ := hconcludes.decision_iff
    have hoperation : (operations (r.logicalRun handler bucket decorate check now s).exchanges
        ).getLast? = some last.request.operation := by
      rw [operations, List.getLast?_map, hlast]
      rfl
    refine ⟨by omega, by omega, hsum, hbound, ?_, ?_, ?_, last, hlast, hconcludes⟩
    · rw [hoperation, Option.some.injEq]
      exact hget
    · rw [hoperation, Option.some.injEq]
      exact hinsert
    · rw [hoperation, Option.some.injEq]
      exact hupdate

/-- A store in which the first reading fails transiently, the bucket then turns out not to exist,
and somebody else is faster to create it. -/
def racingStore : ScriptedStore where
  gets := [⟨.error (.transport "reset"), .zero⟩, ⟨.error (.notFound "ci-artifacts"), .zero⟩,
    ⟨.ok none, .zero⟩]
  inserts := [⟨.error (.conflict "ci-artifacts"), .zero⟩]
  updates := []

/-- The lost race is followed by another reading, and the bucket is corrected. -/
theorem callProtocol_of_lost_race :
    let r : Reconciler := ⟨.immediate 1, 2, none⟩
    let p : Expiring := ⟨30⟩
    let run := r.logicalRun ScriptedStore.handler "ci-artifacts" p.decorate p.check 0 racingStore
    r.deadline = none ∧ r.retry.maxRetries.toNat < counterLimit ∧
      r.maxConflictCycles.toNat < counterLimit ∧
      operations run.exchanges = [.get, .insert, .get, .update] ∧
      CallProtocol "ci-artifacts" p.decorate p.check r.maxConflictCycles run :=
  ⟨rfl, by decide, by decide, by rfl,
    (reconcile_callProtocol ⟨.immediate 1, 2, none⟩ rfl (by decide) (by decide)
      ScriptedStore.handler "ci-artifacts" (Expiring.decorate ⟨30⟩) (Expiring.check ⟨30⟩) 0
      racingStore).2⟩

end BucketLifecycle
