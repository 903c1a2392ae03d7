import BucketLifecycle.Proofs.Policy.Converging
import BucketLifecycle.Proofs.Store.Faulty

/-!
# Lost requests and lost answers

A reconciliation that is alone with its bucket behind an unreliable connection either makes the
bucket match, as it would without the losses, or gives up after too many of them.  A creation whose
answer was lost comes back as a conflict; the next reading finds the bucket that it made, so a
second creation never takes effect.

`Weathered` is what every attempt preserves, and holds however the run ends.  What a result says
beyond that is read off the course of the run: `reading_cases`, `creation_cases` and `update_cases`
say what each answer tells about the store, and by them a lost race leaves the bucket present, and
with it no reason for another creation.
-/

set_option autoImplicit false

namespace BucketLifecycle

variable {τ : Type}

/-- What has become of a store after any number of attempts at reconciling a bucket that was
there, or was not, in the initial store. -/
structure Weathered (bucket : String) (check : Checker) (initial m : MemoryStore) (created : Nat) :
    Prop where
  /-- the bucket is as it was and nothing was created, or it matches the policy -/
  entry : m.bucket bucket = initial.bucket bucket ∧ created = 0 ∨
    ∃ stored, m.bucket bucket = some stored ∧ (check stored).isCompliant = true ∧ created ≤ 1
  others : ∀ name, name ≠ bucket → m.bucket name = initial.bucket name

section

variable {bucket : String} {decorate : Decorator} {check : Checker} {initial m : MemoryStore}
  {created : Nat} {desired : Snapshot}

/-- At most one bucket has been created. -/
theorem Weathered.created_le (h : Weathered bucket check initial m created) : created ≤ 1 := by
  rcases h.entry with ⟨-, hnone⟩ | ⟨_, -, -, hle⟩
  · omega
  · exact hle

/-- A change of the bucket into a desired state, counted as a creation or not. -/
theorem Weathered.commit (h : Weathered bucket check initial m created) {stored : Snapshot}
    {count : Nat} (hname : stored.name = bucket) (hcheck : (check stored).isCompliant = true)
    (hcount : count ≤ 1) : Weathered bucket check initial (m.commit stored) count where
  entry := by
    refine .inr ⟨stored, ?_, hcheck, hcount⟩
    rw [← hname]
    exact MemoryStore.bucket_commit_self m stored
  others name hne := by
    have hother : name ≠ stored.name := by rw [hname]; exact hne
    rw [MemoryStore.bucket_commit_of_ne m hother]
    exact h.others name hne

/-- A reading leaves what has become of the store. -/
theorem weathered_get (name : String) :
    (BucketCall.get name).Keeps (Weathered bucket check initial) := by
  intro m created time h
  rw [MemoryStore.state_answer_get]
  exact ⟨h.entry, h.others⟩

/-- A creation takes effect only where the bucket is missing, and then none did before. -/
theorem weathered_insert (hpolicy : Converging bucket decorate check) {old : Snapshot}
    (hold : old.name = bucket) :
    (BucketCall.insert (decorate old)).Keeps (Weathered bucket check initial) := by
  intro m created time h
  have hname := hpolicy.name_decorate hold
  cases hbucket : m.bucket (decorate old).name with
  | none =>
    obtain ⟨stored, hsettings, hanswer⟩ := MemoryStore.answer_insert_of_absent time hbucket
    have hstored := (Snapshot.name_of_settings hsettings).trans hname
    have hcheck := hpolicy.isCompliant old stored hold hsettings
    -- A bucket that was created earlier would still be there.
    have hfirst : created = 0 := by
      rw [hname] at hbucket
      rcases h.entry with ⟨-, hnone⟩ | ⟨_, hsome, -, -⟩
      · exact hnone
      · rw [hbucket] at hsome
        cases hsome
    rw [hanswer, hfirst]
    exact h.commit hstored hcheck (Nat.le_refl 1)
  | some s =>
    obtain ⟨message, hanswer⟩ := MemoryStore.answer_insert_of_present time hbucket
    rw [hanswer]
    exact h

/-- An update may take effect any number of times. -/
theorem weathered_update (hpolicy : Converging bucket decorate check) {old : Snapshot}
    (hold : old.name = bucket) :
    (BucketCall.update (decorate old)).Keeps (Weathered bucket check initial) := by
  intro m created time h
  have hname := hpolicy.name_decorate hold
  cases hbucket : m.bucket (decorate old).name with
  | none =>
    rw [MemoryStore.answer_update_of_absent time hbucket]
    exact h
  | some s =>
    obtain ⟨stored, hsettings, hanswer⟩ := MemoryStore.answer_update_of_present time hbucket
    have hstored := (Snapshot.name_of_settings hsettings).trans hname
    have hcheck := hpolicy.isCompliant old stored hold hsettings
    rw [hanswer]
    exact h.commit hstored hcheck h.created_le

end

/-- A reading leaves all buckets. -/
theorem keeps_buckets (name : String) (buckets : List Snapshot) :
    (BucketCall.get name).Keeps fun m _ => m.buckets = buckets := by
  intro m created time hm
  rw [MemoryStore.state_answer_get]
  exact hm

/-- A replacement leaves the bucket there. -/
theorem keeps_present (desired : Snapshot) :
    (BucketCall.update desired).Keeps fun m _ => m.bucket desired.name ≠ none := by
  intro m created time hm
  obtain ⟨s, hs⟩ := Option.ne_none_iff_exists'.1 hm
  obtain ⟨stored, hsettings, hanswer⟩ := MemoryStore.answer_update_of_present time hs
  rw [hanswer, m.bucket_commit_of_settings hsettings]
  exact nofun

section

variable {adversary : Adversary τ} {p : RetryPolicy} {deadline : Option Instant}
  {bucket : String} {decorate : Decorator} {check : Checker} {maxCycles : UInt32}
  {now : Instant} {x : FaultyStore τ} {initial : MemoryStore}
  {get insert update : LogicalCall (FaultyStore τ)} {result : LogicalAnswer}

/-- However often a reading is tried, the bucket stays as it was. -/
theorem bucket_reading
    (hget : get = p.logicalCall (FaultyStore.handler adversary) deadline (.get bucket) now x) :
    get.answer.state.store.bucket bucket = x.store.bucket bucket := by
  have hbuckets : get.answer.state.store.buckets = x.store.buckets :=
    FaultyStore.logicalCall_keeps (keeps_buckets bucket x.store.buckets) rfl hget
  unfold MemoryStore.bucket
  rw [hbuckets]

/-- A reading that is not given up tells what the store holds. -/
theorem reading_cases
    (hget : get = p.logicalCall (FaultyStore.handler adversary) deadline (.get bucket) now x)
    (hresult : get.answer.ending = .finished result) :
    GivenUp result ∨ (∃ found, x.store.bucket bucket = some found ∧ result = .ok found) ∨
      x.store.bucket bucket = none ∧ result = .error (.permanent (.notFound bucket)) := by
  rcases FaultyStore.logicalCall_result (keeps_buckets bucket x.store.buckets) rfl hget
    hresult with hgivenUp | ⟨m, _, time, hm, -, rfl⟩
  · exact .inl hgivenUp
  · have hbucket : m.bucket bucket = x.store.bucket bucket := by
      unfold MemoryStore.bucket
      rw [hm]
    cases hfound : x.store.bucket bucket with
    | none =>
      rw [MemoryStore.answer_get_of_absent time (hbucket.trans hfound)]
      exact .inr (.inr ⟨rfl, rfl⟩)
    | some found =>
      rw [MemoryStore.answer_get_of_present time (hbucket.trans hfound)]
      exact .inr (.inl ⟨found, rfl, rfl⟩)

/-- A creation that is not given up was answered by the store: it stored the desired state, or the
bucket is there already. -/
theorem creation_cases {desired : Snapshot}
    (hinsert : insert =
      p.logicalCall (FaultyStore.handler adversary) deadline (.insert desired) now x)
    (hresult : insert.answer.ending = .finished result) :
    GivenUp result ∨
      (∃ stored, insert.answer.state.store.bucket desired.name = some stored ∧
        stored.settings = desired.settings ∧ result = .ok stored) ∨
      ∃ message, insert.answer.state.store.bucket desired.name ≠ none ∧
        result = .error (.permanent (.conflict message)) := by
  have hkeep : (BucketCall.insert desired).Keeps fun _ _ => True := fun _ _ _ _ => trivial
  rcases FaultyStore.logicalCall_result hkeep trivial hinsert hresult with
    hgivenUp | ⟨m, _, time, -, hstate, rfl⟩
  · exact .inl hgivenUp
  · cases hbucket : m.bucket desired.name with
    | none =>
      obtain ⟨stored, hsettings, hanswer⟩ := MemoryStore.answer_insert_of_absent time hbucket
      rw [hstate, hanswer]
      have hstored := m.bucket_commit_of_settings hsettings
      exact .inr (.inl ⟨stored, hstored, hsettings, rfl⟩)
    | some s =>
      obtain ⟨message, hanswer⟩ := MemoryStore.answer_insert_of_present time hbucket
      rw [hstate, hanswer]
      refine .inr (.inr ⟨message, ?_, rfl⟩)
      rw [hbucket]
      exact nofun

/-- The update of a bucket that is there stores the desired state, unless it is given up. -/
theorem update_cases {desired : Snapshot}
    (hupdate : update =
      p.logicalCall (FaultyStore.handler adversary) deadline (.update desired) now x)
    (hpresent : x.store.bucket desired.name ≠ none)
    (hresult : update.answer.ending = .finished result) :
    GivenUp result ∨
      ∃ stored, update.answer.state.store.bucket desired.name = some stored ∧
        stored.settings = desired.settings ∧ result = .ok stored := by
  rcases FaultyStore.logicalCall_result (keeps_present desired) hpresent
    hupdate hresult with hgivenUp | ⟨m, _, time, hm, hstate, rfl⟩
  · exact .inl hgivenUp
  · obtain ⟨s, hs⟩ := Option.ne_none_iff_exists'.1 hm
    obtain ⟨stored, hsettings, hanswer⟩ := MemoryStore.answer_update_of_present time hs
    rw [hstate, hanswer]
    have hstored := m.bucket_commit_of_settings hsettings
    exact .inr ⟨stored, hstored, hsettings, rfl⟩

/-- A call that was given up failed neither on a missing bucket nor on a taken name. -/
theorem GivenUp.kind_of_error {e : RetryError} (h : GivenUp (.error e)) :
    e.storeError.isNotFound = false ∧ e.storeError.isConflict = false := by
  obtain ⟨n, last, hkind, heq⟩ := h
  cases heq
  rcases (StoreError.kind_transient_iff last).1 hkind with ⟨status, m, rfl⟩ | ⟨m, rfl⟩
  · exact ⟨rfl, rfl⟩
  · exact ⟨rfl, rfl⟩

/-- A creation is only made where the bucket is missing. -/
theorem Creates.insert_eq_faulty
    (h : Creates p (FaultyStore.handler adversary) deadline bucket decorate now x get insert) :
    x.store.bucket bucket = none ∧
      insert = p.logicalCall (FaultyStore.handler adversary) deadline
        (.insert (decorate (.named bucket))) get.answer.finish get.answer.state := by
  obtain ⟨hget, ⟨e, habsent, hkind⟩, desired, hdesired, hinsert⟩ := h
  rw [(desiredState_eq_ok_iff.1 hdesired).1] at hinsert
  refine ⟨?_, hinsert⟩
  rcases reading_cases hget habsent with hgivenUp | ⟨_, -, hok⟩ | ⟨hnone, -⟩
  · rw [hgivenUp.kind_of_error.1] at hkind
    cases hkind
  · cases hok
  · exact hnone

/-- An update is only made where the bucket is there, and into what the decorator makes of it. -/
theorem Corrects.update_eq_faulty (hpolicy : Converging bucket decorate check)
    (h : Corrects p (FaultyStore.handler adversary) deadline bucket decorate check now x get
      update) :
    ∃ old, x.store.bucket bucket = some old ∧
      update = p.logicalCall (FaultyStore.handler adversary) deadline (.update (decorate old))
        get.answer.finish get.answer.state := by
  obtain ⟨hget, found, drifted, desired, hfound, hcheck, hdesired, hupdate⟩ := h
  rw [(desiredState_eq_ok_iff.1 hdesired).1, hpolicy.eq_of_nonCompliant hcheck] at hupdate
  rcases reading_cases hget hfound with ⟨_, _, -, herror⟩ | ⟨old, hold, hok⟩ | ⟨-, herror⟩
  · cases herror
  · cases hok
    exact ⟨found, hold, hupdate⟩
  · cases herror

/-- What the result of a creation tells about the bucket. -/
theorem Creates.result_cases (hpolicy : Converging bucket decorate check)
    (h : Creates p (FaultyStore.handler adversary) deadline bucket decorate now x get insert)
    (hresult : insert.answer.ending = .finished result) :
    GivenUp result ∨
      (∃ stored, insert.answer.state.store.bucket bucket = some stored ∧
        (check stored).isCompliant = true ∧ result = .ok stored) ∨
      ∃ message, insert.answer.state.store.bucket bucket ≠ none ∧
        result = .error (.permanent (.conflict message)) := by
  obtain ⟨-, hinsert⟩ := h.insert_eq_faulty
  have hcases := creation_cases hinsert hresult
  rw [hpolicy.name_decorate rfl] at hcases
  rcases hcases with hgivenUp | ⟨stored, hstored, hsettings, hok⟩ | hconflict
  · exact .inl hgivenUp
  · have hcheck := hpolicy.isCompliant (.named bucket) stored rfl hsettings
    exact .inr (.inl ⟨stored, hstored, hcheck, hok⟩)
  · exact .inr (.inr hconflict)

/-- What the result of an update tells about the bucket; the reading before it found the bucket, and
nobody else removes it. -/
theorem Corrects.result_cases (hpolicy : Converging bucket decorate check)
    (h : Corrects p (FaultyStore.handler adversary) deadline bucket decorate check now x get
      update) (hresult : update.answer.ending = .finished result) :
    GivenUp result ∨
      ∃ stored, update.answer.state.store.bucket bucket = some stored ∧
        (check stored).isCompliant = true ∧ result = .ok stored := by
  obtain ⟨old, hold, hupdate⟩ := h.update_eq_faulty hpolicy
  have hname := MemoryStore.name_of_bucket hold
  have hpresent : get.answer.state.store.bucket (decorate old).name ≠ none := by
    rw [hpolicy.name_decorate hname, bucket_reading h.get_eq, hold]
    exact nofun
  have hcases := update_cases hupdate hpresent hresult
  rw [hpolicy.name_decorate hname] at hcases
  rcases hcases with hgivenUp | ⟨stored, hstored, hsettings, hok⟩
  · exact .inl hgivenUp
  · have hcheck := hpolicy.isCompliant old stored hname hsettings
    exact .inr ⟨stored, hstored, hcheck, hok⟩

/-- A whole reconciliation leaves a store that has weathered it, whatever is lost. -/
theorem Course.weathered {cycles : Nat} {run : LogicalRun (FaultyStore τ)}
    (hpolicy : Converging bucket decorate check)
    (h : Course p (FaultyStore.handler adversary) deadline bucket decorate check maxCycles cycles
      now x run) (hx : Weathered bucket check initial x.store x.created) :
    Weathered bucket check initial run.state.store run.state.created := by
  refine h.invariant (fun y => Weathered bucket check initial y.store y.created) ?_ ?_ ?_ hx
  · intro now y hy
    exact FaultyStore.logicalCall_keeps (weathered_get bucket) hy rfl
  · intro now y get insert hsent hy
    obtain ⟨-, hinsert⟩ := hsent.insert_eq_faulty
    exact FaultyStore.logicalCall_keeps (weathered_insert hpolicy rfl) hy hinsert
  · intro now y get update hsent hy
    obtain ⟨old, hold, hupdate⟩ := hsent.update_eq_faulty hpolicy
    have hname := MemoryStore.name_of_bucket hold
    exact FaultyStore.logicalCall_keeps (weathered_update hpolicy hname) hy hupdate

/-- How a reconciliation ends that is alone with its bucket. -/
inductive Recovers (bucket : String) (check : Checker) (p : RetryPolicy)
    (deadline : Option Instant) (m : MemoryStore) :
    Ending (Except LifecycleError Outcome) → Prop where
  | succeeded {o : Outcome} (hcycles : o.conflictCycles ≤ 1)
      (hstored : m.bucket bucket = some o.snapshot)
      (hcheck : (check o.snapshot).isCompliant = true) :
    Recovers bucket check p deadline m (.finished (.ok o))
  | givenUp (operation : Operation) (attempts : Nat) (last : StoreError) :
    Recovers bucket check p deadline m
      (.finished (.error (.retriesExhausted bucket operation attempts last)))
  | stopped {ending : Ending (Except LifecycleError Outcome)} (hstopped : ending.IsStopped)
      (hcause : deadline = none → ¬ p.maxRetries.toNat < counterLimit) :
    Recovers bucket check p deadline m ending

/-- Without a deadline, and with room for the attempts that the policy allows, there is a result. -/
theorem Recovers.finished {m : MemoryStore} {ending : Ending (Except LifecycleError Outcome)}
    (h : Recovers bucket check p deadline m ending) (hdeadline : deadline = none)
    (hretries : p.maxRetries.toNat < counterLimit) : ∃ result, ending = .finished result := by
  cases h with
  | succeeded => exact ⟨_, rfl⟩
  | givenUp => exact ⟨_, rfl⟩
  | stopped _ hcause => exact absurd hretries (hcause hdeadline)

/-- A run that gave up leaves a store from which a later run recovers. -/
theorem GivenUp.recovers {m : MemoryStore} {e : RetryError} (h : GivenUp (.error e))
    (operation : Operation) :
    Recovers bucket check p deadline m (.finished (.error (e.toLifecycle bucket operation))) := by
  obtain ⟨n, last, -, heq⟩ := h
  cases heq
  exact .givenUp operation n last

/-- Every course recovers that starts without a lost race, or with one behind which the bucket is
there.  A race is lost only to a bucket that is there, and then no other creation follows. -/
theorem Course.recovers {cycles : Nat} {run : LogicalRun (FaultyStore τ)}
    (hpolicy : Converging bucket decorate check) (hlimit : 1 ≤ maxCycles.toNat)
    (h : Course p (FaultyStore.handler adversary) deadline bucket decorate check maxCycles cycles
      now x run) (hstart : cycles = 0 ∨ cycles = 1 ∧ x.store.bucket bucket ≠ none) :
    Recovers bucket check p deadline run.state.store run.ending := by
  have hstop {c : BucketCall} {now : Instant} {x : FaultyStore τ}
      {call : LogicalCall (FaultyStore τ)}
      (hcall : call = p.logicalCall (FaultyStore.handler adversary) deadline c now x)
      (hstopped : call.answer.ending.IsStopped) (hdeadline : deadline = none) :
      ¬ p.maxRetries.toNat < counterLimit := fun hretries =>
    not_isStopped_logicalCall hcall hdeadline hretries hstopped
  have hle {cycles : Nat} {present : Prop} (h : cycles = 0 ∨ cycles = 1 ∧ present) :
      cycles ≤ 1 := by omega
  induction h with
  | counterFull hfull =>
    have hlarge : 1 < counterLimit := by decide
    omega
  | readingStopped hget hstopped hending => exact .stopped hending (hstop hget hstopped)
  | readingFailed hget hfailed hkind =>
    rcases reading_cases hget hfailed with hgivenUp | ⟨_, -, hok⟩ | ⟨-, hnotFound⟩
    · exact hgivenUp.recovers .get
    · cases hok
    · cases hnotFound
      cases hkind
  | compliant hget hfound hcheck =>
    rcases reading_cases hget hfound with ⟨_, _, -, herror⟩ | ⟨found, hbucket, hok⟩ | ⟨-, herror⟩
    · cases herror
    · cases hok
      cases hpolicy.eq_of_compliant hcheck
      refine .succeeded (hle hstart) ?_ (by rw [hcheck]; rfl)
      rw [bucket_reading hget]
      exact hbucket
    · cases herror
  | updateRejected hget hfound hcheck hdesired =>
    rcases reading_cases hget hfound with ⟨_, _, -, herror⟩ | ⟨found, hbucket, hok⟩ | ⟨-, herror⟩
    · cases herror
    · cases hok
      cases hpolicy.eq_of_nonCompliant hcheck
      rw [hpolicy.desiredState_eq (MemoryStore.name_of_bucket hbucket)] at hdesired
      cases hdesired
    · cases herror
  | updateStopped hsent hstopped hending =>
    obtain ⟨_, -, hupdate⟩ := hsent.update_eq_faulty hpolicy
    exact .stopped hending (hstop hupdate hstopped)
  | updateFailed hsent hfailed =>
    rcases hsent.result_cases hpolicy hfailed with hgivenUp | ⟨_, -, -, hok⟩
    · exact hgivenUp.recovers .update
    · cases hok
  | corrected hsent hstored =>
    rcases hsent.result_cases hpolicy hstored with ⟨_, _, -, herror⟩ | ⟨_, hbucket, hcheck, hok⟩
    · cases herror
    · cases hok
      exact .succeeded (hle hstart) hbucket hcheck
  | insertRejected _ _ _ hdesired =>
    rw [hpolicy.desiredState_eq rfl] at hdesired
    cases hdesired
  | insertStopped hsent hstopped hending =>
    obtain ⟨-, hinsert⟩ := hsent.insert_eq_faulty
    exact .stopped hending (hstop hinsert hstopped)
  | insertFailed hsent hfailed hkind =>
    rcases hsent.result_cases hpolicy hfailed with hgivenUp | ⟨_, -, -, hok⟩ | ⟨_, -, hconflict⟩
    · exact hgivenUp.recovers .insert
    · cases hok
    · cases hconflict
      cases hkind
  | created hsent hstored =>
    rcases hsent.result_cases hpolicy hstored with ⟨_, _, -, herror⟩ | ⟨_, hbucket, hcheck, hok⟩ |
      ⟨_, -, herror⟩
    · cases herror
    · cases hok
      exact .succeeded (hle hstart) hbucket hcheck
    · cases herror
  | racesExhausted hsent _ _ hspent =>
    -- A creation follows a reading that found no bucket, so it is in the first round.
    obtain ⟨habsent, -⟩ := hsent.insert_eq_faulty
    have hfirst := hstart.resolve_right fun hsecond => hsecond.2 habsent
    omega
  | raced hsent hlost hkind _ _ ih =>
    obtain ⟨habsent, -⟩ := hsent.insert_eq_faulty
    have hfirst := hstart.resolve_right fun hsecond => hsecond.2 habsent
    rcases hsent.result_cases hpolicy hlost with hgivenUp | ⟨_, -, -, hok⟩ | ⟨_, hpresent, -⟩
    · rw [hgivenUp.kind_of_error.2] at hkind
      cases hkind
    · cases hok
    · exact ih (.inr ⟨by omega, hpresent⟩)

end

/-- A reconciliation under an expiry policy that is alone with its bucket behind an unreliable
connection, and may read again after one lost race, recovers from every pattern of losses.  At most
one creation takes effect, the bucket is as it was or matches, and no other bucket is touched. -/
theorem reconcile_lostAnswers (r : Reconciler) (hcycles : 1 ≤ r.maxConflictCycles.toNat)
    (adversary : Adversary τ) (memory : τ) (initial : MemoryStore) (bucket : String)
    (p : Expiring) (now : Instant) :
    let run := r.run (FaultyStore.handler adversary) bucket p.decorate p.check now
      ⟨initial, 0, memory⟩
    Recovers bucket p.check r.retry (r.limitFrom now) run.state.store run.ending ∧
      run.state.created ≤ 1 ∧
      (run.state.store.bucket bucket = initial.bucket bucket ∨
        ∃ stored, run.state.store.bucket bucket = some stored ∧
          (p.check stored).isCompliant = true) ∧
      (∀ name, name ≠ bucket → run.state.store.bucket name = initial.bucket name) ∧
      (r.deadline = none → r.retry.maxRetries.toNat < counterLimit →
        ∃ result, run.ending = .finished result) := by
  intro run
  have hpolicy := p.converging bucket
  have hcourse := r.course_run (FaultyStore.handler adversary) bucket p.decorate p.check now
    ⟨initial, 0, memory⟩
  have hrun : run = (r.logicalRun (FaultyStore.handler adversary) bucket p.decorate p.check now
      ⟨initial, 0, memory⟩).flatten := r.run_eq_flatten _ _ _ _ _ _
  have hrecovers : Recovers bucket p.check r.retry (r.limitFrom now) run.state.store
      run.ending := by
    rw [hrun]
    exact hcourse.recovers hpolicy hcycles (.inl rfl)
  have hweathered : Weathered bucket p.check initial run.state.store run.state.created := by
    rw [hrun]
    exact hcourse.weathered hpolicy ⟨.inl ⟨rfl, rfl⟩, fun _ _ => rfl⟩
  refine ⟨hrecovers, hweathered.created_le, ?_, hweathered.others, ?_⟩
  · rcases hweathered.entry with ⟨hkept, -⟩ | ⟨stored, hstored, hcheck, -⟩
    · exact .inl hkept
    · exact .inr ⟨stored, hstored, hcheck⟩
  · intro hdeadline hretries
    exact hrecovers.finished (by simp [Reconciler.limitFrom, hdeadline]) hretries

/-- Deals with one call after another as a list says, and serves every call after it. -/
def Adversary.ofList (time : Timestamp) : Adversary (List Delivery) := fun script _ _ _ =>
  ⟨script.headD .served, time, .zero, script.tail⟩

/-- The answer to the creation is lost, the repeated creation meets a conflict, and the bucket turns
out to match when it is read again, at the second attempt. -/
theorem recovers_of_lost_answer :
    let r : Reconciler := ⟨.immediate 1, 1, none⟩
    let p : Expiring := ⟨30⟩
    let run := r.run
      (FaultyStore.handler (.ofList ⟨⟨2024, 1, 31, by decide⟩, 0, 0, by decide⟩)) "ci-artifacts"
      p.decorate p.check 0
      ⟨.empty, 0, [.served, .answerLost ⟨.transport "reset", rfl⟩, .served,
        .requestLost ⟨.transport "reset", rfl⟩]⟩
    1 ≤ r.maxConflictCycles.toNat ∧ run.state.created = 1 ∧
      (∃ o, run.ending = .finished (.ok o) ∧ o.decision = .alreadyCompliant ∧
        o.conflictCycles = 1) ∧
      Recovers "ci-artifacts" p.check r.retry (r.limitFrom 0) run.state.store run.ending :=
  ⟨by decide, by rfl, ⟨_, by rfl, by rfl, by rfl⟩,
    (reconcile_lostAnswers ⟨.immediate 1, 1, none⟩ (by decide)
      (.ofList ⟨⟨2024, 1, 31, by decide⟩, 0, 0, by decide⟩)
      [.served, .answerLost ⟨.transport "reset", rfl⟩, .served,
        .requestLost ⟨.transport "reset", rfl⟩]
      .empty "ci-artifacts" ⟨30⟩ 0).1⟩

end BucketLifecycle
