import BucketLifecycle.Proofs.Reconcile.Convergence
import BucketLifecycle.Proofs.Reconcile.Phase
import BucketLifecycle.Proofs.Store.Cells

/-!
# Reconciliations of different buckets

Every call of a reconciliation is about its bucket, under any policy and whatever the answers are
(`Reconciler.keepsTo_program`).  So reconciliations of different buckets that share an in-memory
store take no notice of each other, and to follow one of them it is enough to follow it alone.

Alone it takes one turn to read the bucket and at most one more to change it.  What it comes to
depends on what is stored for the bucket and on the time of the change only (`outcomeAt`), however
much later each of its turns is, and also in a run of its own (`Reconciler.run_settlesAt`).
-/

set_option autoImplicit false

namespace BucketLifecycle

/-- The attempts at a call keep to the place of that call. -/
theorem RetryPolicy.keepsTo_attempt {ι β κ : Type} {place : ι → κ} (p : RetryPolicy) (c : ι)
    (room made : Nat) :
    (p.attempt c room made : Program ι (Except StoreError β) (Except RetryError β)).KeepsTo place
      (place c) := by
  induction room generalizing made with
  | zero => exact .overflow
  | succ room ih =>
    refine .call rfl fun answer => ?_
    cases answer with
    | ok value => exact .done _
    | error e =>
      dsimp only
      split
      · split
        · exact .done _
        · exact (ih _).pause _
      · exact .done _

/-- The desired state of a bucket has the name of the bucket. -/
theorem name_of_desiredState {bucket : String} {decorate : Decorator} {s desired : Snapshot}
    (h : desiredState bucket decorate s = .ok desired) : desired.name = bucket := by
  obtain ⟨rfl, hcheck⟩ := desiredState_eq_ok_iff.1 h
  exact (Snapshot.check_eq_ok_iff.1 hcheck).name_eq

/-- Whatever the decorator makes, nothing is sent that names another bucket. -/
theorem keepsTo_reconcileFrom (bucket : String) (decorate : Decorator) (check : Checker)
    (maxCycles : UInt32) (room reads cycles : Nat) :
    (reconcileFrom bucket decorate check maxCycles room reads cycles).KeepsTo BucketCall.bucket
      bucket := by
  refine reconcileFrom_induction (motive := fun _ p => p.KeepsTo BucketCall.bucket bucket)
    .overflow (fun _ _ => .done _) (fun _ _ h => .call rfl h) ?_ room reads cycles
  intro room s desired call rest hdesired hcall h
  -- What is sent has passed the check, so it bears the name of the bucket.
  refine .call ?_ h
  rcases hcall with rfl | rfl <;> exact name_of_desiredState hdesired

/-- A reconciliation makes no call that is about another bucket. -/
theorem Reconciler.keepsTo_program (r : Reconciler) (bucket : String) (decorate : Decorator)
    (check : Checker) : (r.program bucket decorate check).KeepsTo BucketCall.bucket bucket :=
  .expand (fun c => r.retry.keepsTo_attempt c _ _) (keepsTo_reconcileFrom ..)

/-- What a reconciliation comes to that nobody disturbs, from what is stored for its bucket and the
time of the change, if there is one. -/
def outcomeAt (bucket : String) (decorate : Decorator) (check : Checker) (entry : Option Snapshot)
    (time : Timestamp) : Outcome :=
  match entry with
  | none => ⟨bucket, .doesNotExist, (decorate (.named bucket)).createdAt time, 1, 0⟩
  | some s =>
    if (check s).isCompliant then ⟨bucket, .alreadyCompliant, s, 1, 0⟩
    else ⟨bucket, .needsCorrection, (decorate s).replacingAt s time, 1, 0⟩

/-- The outcome without the times that its change took from the clock. -/
def Outcome.timeless (o : Outcome) : Outcome :=
  match o.decision with
  | .alreadyCompliant => o
  | .needsCorrection => { o with snapshot.updated := none }
  | .doesNotExist => { o with snapshot.timeCreated := none, snapshot.updated := none }

/-- Outcomes that differ in their times only have one decision. -/
theorem decision_of_timeless {o o' : Outcome} (h : o.timeless = o'.timeless) :
    o.decision = o'.decision := by
  have hkept (o : Outcome) : o.timeless.decision = o.decision := by
    unfold Outcome.timeless
    split <;> rfl
  rw [← hkept o, ← hkept o', h]

/-- The phase behind a reading that finds an entry. -/
def Phase.afterReading (bucket : String) (check : Checker) : Option Snapshot → Phase
  | none => .creating 0
  | some s =>
    if (check s).isCompliant then .ended ⟨bucket, .alreadyCompliant, s, 1, 0⟩ else .correcting 0 s

section

variable {bucket : String} {decorate : Decorator} {check : Checker} {entry : Option Snapshot}
  {s : Snapshot}

/-- A compliant bucket is left as it is. -/
theorem outcomeAt_of_compliant (h : (check s).isCompliant = true) (time : Timestamp) :
    outcomeAt bucket decorate check (some s) time = ⟨bucket, .alreadyCompliant, s, 1, 0⟩ :=
  if_pos h

/-- A bucket that has drifted is replaced by its decorated form. -/
theorem outcomeAt_of_drifted (h : (check s).isCompliant = false) (time : Timestamp) :
    outcomeAt bucket decorate check (some s) time =
      ⟨bucket, .needsCorrection, (decorate s).replacingAt s time, 1, 0⟩ :=
  if_neg (by simp [h])

/-- A reconciliation that finds a compliant bucket has ended. -/
theorem afterReading_of_compliant (h : (check s).isCompliant = true) :
    Phase.afterReading bucket check (some s) = .ended ⟨bucket, .alreadyCompliant, s, 1, 0⟩ :=
  if_pos h

/-- A reconciliation that finds a drifted bucket goes on to correct it. -/
theorem afterReading_of_drifted (h : (check s).isCompliant = false) :
    Phase.afterReading bucket check (some s) = .correcting 0 s :=
  if_neg (by simp [h])

/-- Only the times in the outcome depend on the time of the change. -/
theorem timeless_outcomeAt (time time' : Timestamp) :
    (outcomeAt bucket decorate check entry time).timeless =
      (outcomeAt bucket decorate check entry time').timeless := by
  cases entry with
  | none => rfl
  | some s =>
    cases hcheck : (check s).isCompliant with
    | true => rw [outcomeAt_of_compliant hcheck, outcomeAt_of_compliant hcheck]
    | false =>
      rw [outcomeAt_of_drifted hcheck, outcomeAt_of_drifted hcheck]
      rfl

/-- Whether an outcome stands for a change does not depend on the time. -/
theorem mutated_outcomeAt (time time' : Timestamp) :
    (outcomeAt bucket decorate check entry time).mutated =
      (outcomeAt bucket decorate check entry time').mutated := by
  unfold Outcome.mutated
  rw [decision_of_timeless (timeless_outcomeAt time time')]

/-- A reconciliation reads its bucket first. -/
theorem rest_reading (hpolicy : Converging bucket decorate check) (maxCycles : UInt32)
    (hname : ∀ s, entry = some s → s.name = bucket) (time : Timestamp) :
    ∃ logical, (Phase.reading 0).rest bucket decorate check maxCycles =
        .call (.get bucket) logical ∧
      logical (((BucketCall.get bucket).serve time entry).1.mapError .permanent) =
        (Phase.afterReading bucket check entry).rest bucket decorate check maxCycles := by
  obtain ⟨room, hroom, hless⟩ : ∃ room, counterLimit - 0 = room + 1 ∧ counterLimit - 1 = room :=
    ⟨_, rfl, rfl⟩
  rw [Phase.rest, hroom]
  unfold reconcileFrom
  refine ⟨_, rfl, ?_⟩
  cases entry with
  | none =>
    dsimp only [BucketCall.serve, Except.mapError, Phase.afterReading]
    rw [if_pos (by rfl), hpolicy.desiredState_eq rfl, Phase.rest, hless]
  | some s =>
    dsimp only [BucketCall.serve, Except.mapError]
    rw [hpolicy.check_eq s]
    cases hcheck : (check s).isCompliant with
    | true => rw [afterReading_of_compliant hcheck, Phase.rest, if_pos rfl]
    | false =>
      rw [afterReading_of_drifted hcheck, if_neg (by simp), Phase.rest]
      dsimp only
      rw [hpolicy.desiredState_eq (hname s rfl)]

/-- What is left behind the reading is a single change. -/
structure ChangesOnce (bucket : String) (entry : Option Snapshot) (time : Timestamp)
    (c : BucketCall) (o : Outcome) : Prop where
  bucket_eq : c.bucket = bucket
  readings : c.readings entry = 0
  changes : c.changes entry = 1
  answer_eq : (c.serve time entry).1 = .ok o.snapshot
  stored : (c.serve time entry).2 = some o.snapshot
  mutated : o.mutated = true

/-- Behind the reading, a reconciliation has ended, or it makes its only change. -/
theorem rest_afterReading (hpolicy : Converging bucket decorate check) (maxCycles : UInt32)
    (hname : ∀ s, entry = some s → s.name = bucket) (time : Timestamp) :
    let o := outcomeAt bucket decorate check entry time
    (Phase.afterReading bucket check entry = .ended o ∧ entry = some o.snapshot ∧
        o.mutated = false) ∨
      ∃ c logical, (Phase.afterReading bucket check entry).rest bucket decorate check maxCycles =
          .call c logical ∧ ChangesOnce bucket entry time c o ∧
        logical (.ok o.snapshot) = .done (.ok o) := by
  intro o
  cases entry with
  | none =>
    exact .inr ⟨.insert (decorate (.named bucket)), _, rfl,
      ⟨hpolicy.name_decorate rfl, rfl, rfl, rfl, rfl, rfl⟩, rfl⟩
  | some s =>
    cases hcheck : (check s).isCompliant with
    | true =>
      have ho : o = ⟨bucket, .alreadyCompliant, s, 1, 0⟩ := outcomeAt_of_compliant hcheck time
      rw [ho, afterReading_of_compliant hcheck]
      exact .inl ⟨rfl, rfl, rfl⟩
    | false =>
      have ho : o = ⟨bucket, .needsCorrection, (decorate s).replacingAt s time, 1, 0⟩ :=
        outcomeAt_of_drifted hcheck time
      rw [ho, afterReading_of_drifted hcheck]
      exact .inr ⟨.update (decorate s), _, rfl,
        ⟨hpolicy.name_decorate (hname s rfl), rfl, rfl, rfl, rfl, rfl⟩, rfl⟩

/-- What the store answers to a logical call is the answer to its only attempt. -/
theorem programAt_of_call {r : Reconciler} {phase : Phase} {c : BucketCall}
    {logical : LogicalAnswer → LogicalProgram}
    (h : phase.rest bucket decorate check r.maxConflictCycles = .call c logical) :
    ∃ answered, r.programAt bucket decorate check phase = .call c answered ∧
      ∀ time entry, answered (c.serve time entry).1 =
        (logical ((c.serve time entry).1.mapError .permanent)).expand r.retry.execute := by
  obtain ⟨answered, hcall, hanswered⟩ := expand_call_of_prompt r.retry c logical
  unfold Reconciler.programAt
  rw [h]
  exact ⟨answered, hcall, fun time entry =>
    hanswered _ fun e he => BucketCall.isTransient_of_serve he⟩

/-- What a reconciliation that nobody disturbs makes of a store, with its change at a time. -/
structure SettlesAt (bucket : String) (decorate : Decorator) (check : Checker)
    (before after : MemoryStore) (time : Timestamp) : Prop where
  stored : after.bucket bucket =
    some (outcomeAt bucket decorate check (before.bucket bucket) time).snapshot
  reads : after.reads = before.reads + 1
  mutations : after.mutations = before.mutations +
    if (outcomeAt bucket decorate check (before.bucket bucket) time).mutated then 1 else 0

/-- The counts of the store do not tell the time of the change. -/
theorem SettlesAt.counts_eq {before after after' : MemoryStore} {time time' : Timestamp}
    (h : SettlesAt bucket decorate check before after time)
    (h' : SettlesAt bucket decorate check before after' time') :
    after.reads = after'.reads ∧ after.mutations = after'.mutations := by
  refine ⟨h.reads.trans h'.reads.symm, ?_⟩
  rw [h.mutations, h'.mutations, mutated_outcomeAt time time']

variable {n : Nat} {i : Fin n}
  {x : Crowd MemoryStore BucketCall (Except StoreError Snapshot) (Except LifecycleError Outcome) n}

/-- Who takes a turn on the in-memory store is served from the cell of its call. -/
theorem turn_serve {c : BucketCall}
    {answered : Except StoreError Snapshot →
      Program BucketCall (Except StoreError Snapshot) (Except LifecycleError Outcome)}
    (h : x.programs i = .call c answered) (clock : Instant → Timestamp) (now : Instant) :
    let y := x.turn (MemoryStore.handler clock) i now
    y.programs i = answered (c.serve (clock now) (x.state.bucket c.bucket)).1 ∧
      y.state.bucket c.bucket = (c.serve (clock now) (x.state.bucket c.bucket)).2 ∧
      y.state.reads = x.state.reads + c.readings (x.state.bucket c.bucket) ∧
      y.state.mutations = x.state.mutations + c.changes (x.state.bucket c.bucket) := by
  intro y
  have hy : y = _ := Crowd.turn_of_call h now
  obtain ⟨hanswer, hstored⟩ := x.state.answer_eq_serve (clock now) c
  obtain ⟨hreads, hmutations⟩ := x.state.counts_answer (clock now) c
  rw [hy]
  refine ⟨?_, hstored, hreads, hmutations⟩
  rw [← hanswer]
  exact Function.update_self ..

/-- The first turn of a reconciliation is its reading. -/
theorem turn_reading (hpolicy : Converging bucket decorate check) {r : Reconciler}
    (h : x.programs i = r.program bucket decorate check) (clock : Instant → Timestamp)
    (now : Instant) :
    let y := x.turn (MemoryStore.handler clock) i now
    y.programs i = r.programAt bucket decorate check
        (.afterReading bucket check (x.state.bucket bucket)) ∧
      y.state.bucket bucket = x.state.bucket bucket ∧
      y.state.reads = x.state.reads + 1 ∧ y.state.mutations = x.state.mutations := by
  intro y
  obtain ⟨logical, hrest, hlogical⟩ := rest_reading hpolicy r.maxConflictCycles
    (fun s hs => MemoryStore.name_of_bucket hs) (clock now)
  obtain ⟨answered, hcall, hanswered⟩ := programAt_of_call hrest
  rw [r.program_eq_programAt, hcall] at h
  obtain ⟨hprogram, hstored, hreads, hmutations⟩ := turn_serve h clock now
  refine ⟨?_, ?_, hreads, hmutations.trans (UInt64.add_zero _)⟩
  · rw [hprogram]
    show answered ((BucketCall.get bucket).serve (clock now) (x.state.bucket bucket)).1 = _
    rw [hanswered, hlogical]
    rfl
  · refine hstored.trans ?_
    show ((BucketCall.get bucket).serve (clock now) (x.state.bucket bucket)).2 = _
    cases x.state.bucket bucket <;> rfl

/-- The second turn of a reconciliation is its change, if there is one to make. -/
theorem turn_change (hpolicy : Converging bucket decorate check) {r : Reconciler}
    {before : MemoryStore}
    (h : x.programs i = r.programAt bucket decorate check
      (.afterReading bucket check (before.bucket bucket)))
    (hstored : x.state.bucket bucket = before.bucket bucket)
    (hreads : x.state.reads = before.reads + 1) (hmutations : x.state.mutations = before.mutations)
    (clock : Instant → Timestamp) (now : Instant) :
    let y := x.turn (MemoryStore.handler clock) i now
    y.programs i =
        .done (.ok (outcomeAt bucket decorate check (before.bucket bucket) (clock now))) ∧
      SettlesAt bucket decorate check before y.state (clock now) := by
  intro y
  rcases rest_afterReading hpolicy r.maxConflictCycles
    (fun s hs => MemoryStore.name_of_bucket hs) (clock now) with
    ⟨hphase, hsame, hmutated⟩ | ⟨c, logical, hrest, hchange, hlogical⟩
  · rw [hphase] at h
    have hdone : x.programs i = .done (.ok _) := h
    have hy : y = x := Crowd.turn_of_done hdone now
    rw [hy]
    refine ⟨hdone, hstored.trans hsame, hreads, ?_⟩
    rw [hmutated, hmutations]
    exact (UInt64.add_zero _).symm
  · obtain ⟨answered, hcall, hanswered⟩ := programAt_of_call hrest
    obtain ⟨hprogram, hafter, hcount, hcount'⟩ := turn_serve (h.trans hcall) clock now
    rw [hchange.bucket_eq, hstored] at hprogram hafter hcount hcount'
    refine ⟨?_, hafter.trans hchange.stored, ?_, ?_⟩
    · rw [hprogram, hanswered, hchange.answer_eq]
      show (logical (.ok _)).expand r.retry.execute = _
      rw [hlogical]
      rfl
    · rw [hcount, hchange.readings, hreads, UInt64.add_zero]
    · rw [hcount', hchange.changes, hmutations, hchange.mutated]
      rfl

/-- Two turns of its own bring a reconciliation to its end. -/
theorem settles_of_two_turns (hpolicy : Converging bucket decorate check) {r : Reconciler}
    (h : x.programs i = r.program bucket decorate check) (clock : Instant → Timestamp)
    (first second : Instant) (later : List Instant) :
    let y := x.play (MemoryStore.handler clock)
      ((first :: second :: later).map fun time => (i, time))
    y.programs i = .done (.ok (outcomeAt bucket decorate check (x.state.bucket bucket)
        (clock second))) ∧
      SettlesAt bucket decorate check x.state y.state (clock second) := by
  intro y
  obtain ⟨hprogram, hstored, hreads, hmutations⟩ := turn_reading hpolicy h clock first
  obtain ⟨hdone, hsettles⟩ :=
    turn_change hpolicy hprogram hstored hreads hmutations clock second
  have hy : y = ((x.turn (MemoryStore.handler clock) i first).turn (MemoryStore.handler clock) i
      second).play (MemoryStore.handler clock) (later.map fun time => (i, time)) := rfl
  rw [hy, Crowd.play_of_done hdone]
  exact ⟨hdone, hsettles⟩

/-- A reconciliation on the in-memory store never waits between its own turns. -/
theorem ne_wait_of_turns (hpolicy : Converging bucket decorate check) {r : Reconciler}
    (h : x.programs i = r.program bucket decorate check) (clock : Instant → Timestamp)
    (times : List Instant) (d : Duration)
    (next : Program BucketCall (Except StoreError Snapshot) (Except LifecycleError Outcome)) :
    (x.play (MemoryStore.handler clock) (times.map fun time => (i, time))).programs i ≠
      .wait d next := by
  have hname : ∀ s, x.state.bucket bucket = some s → s.name = bucket :=
    fun s hs => MemoryStore.name_of_bucket hs
  -- Before its first turn it is to read, before the second it has a change to make or has ended.
  match times with
  | [] =>
    obtain ⟨logical, hrest, -⟩ := rest_reading hpolicy r.maxConflictCycles hname (clock 0)
    obtain ⟨answered, hcall, -⟩ := programAt_of_call hrest
    show x.programs i ≠ _
    rw [h, r.program_eq_programAt, hcall]
    exact nofun
  | [first] =>
    obtain ⟨hprogram, -⟩ := turn_reading hpolicy h clock first
    show (x.turn (MemoryStore.handler clock) i first).programs i ≠ _
    rw [hprogram]
    rcases rest_afterReading hpolicy r.maxConflictCycles hname (clock 0) with
      ⟨hphase, -⟩ | ⟨c, logical, hrest, -⟩
    · rw [hphase]
      exact nofun
    · obtain ⟨answered, hcall, -⟩ := programAt_of_call hrest
      rw [hcall]
      exact nofun
  | first :: second :: later =>
    rw [(settles_of_two_turns hpolicy h clock first second later).1]
    exact nofun

/-- A reconciliation that has ended within its own turns is one of these, since further turns would
change nothing. -/
theorem settles_of_done (hpolicy : Converging bucket decorate check) {r : Reconciler}
    (h : x.programs i = r.program bucket decorate check) (clock : Instant → Timestamp)
    (times : List Instant) {result : Except LifecycleError Outcome}
    (hdone : (x.play (MemoryStore.handler clock)
      (times.map fun time => (i, time))).programs i = .done result) :
    ∃ time, result = .ok (outcomeAt bucket decorate check (x.state.bucket bucket) time) ∧
      SettlesAt bucket decorate check x.state
        (x.play (MemoryStore.handler clock) (times.map fun time => (i, time))).state time := by
  -- It may have ended in fewer turns than two, so two more are put behind those it has taken.
  obtain ⟨first, second, later, htimes⟩ :
      ∃ first second later, times ++ [0, 0] = first :: second :: later := by
    match times with
    | [] => exact ⟨0, 0, [], rfl⟩
    | [first] => exact ⟨first, 0, [0], rfl⟩
    | first :: second :: later => exact ⟨first, second, later ++ [0, 0], rfl⟩
  have hpadded : x.play (MemoryStore.handler clock) ((times ++ [0, 0]).map fun time => (i, time)) =
      x.play (MemoryStore.handler clock) (times.map fun time => (i, time)) := by
    rw [List.map_append, Crowd.play_append]
    exact Crowd.play_of_done hdone [0, 0]
  obtain ⟨hended, hsettles⟩ := settles_of_two_turns hpolicy h clock first second later
  rw [← htimes, hpadded] at hended hsettles
  rw [hdone] at hended
  cases hended
  exact ⟨clock second, rfl, hsettles⟩

/-- A run of a reconciler on its own is one of these, under any deadline. -/
theorem Reconciler.run_settlesAt (hpolicy : Converging bucket decorate check) (r : Reconciler)
    (clock : Instant → Timestamp) (now : Instant) (m : MemoryStore) :
    let run := r.run (MemoryStore.handler clock) bucket decorate check now m
    ∃ time, run.ending =
        .finished (.ok (outcomeAt bucket decorate check (m.bucket bucket) time)) ∧
      SettlesAt bucket decorate check m run.state time := by
  intro run
  obtain ⟨o, hfinished, -⟩ := settles_run hpolicy r clock now m
  -- The run is what its own turns make of a crowd of one.
  let alone : Crowd MemoryStore BucketCall (Except StoreError Snapshot)
    (Except LifecycleError Outcome) 1 := .start (fun _ => r.program bucket decorate check) m
  have hstart : alone.programs 0 = r.program bucket decorate check := rfl
  obtain ⟨times, hplay⟩ := Crowd.play_run hstart (r.limitFrom now) now hfinished
  have hdone : (alone.play (MemoryStore.handler clock)
      (times.map fun time => (0, time))).programs 0 = .done (.ok o) := by
    simp only [hplay, Function.update_self]
  obtain ⟨time, ho, hsettles⟩ := settles_of_done hpolicy hstart clock times hdone
  rw [hplay] at hsettles
  cases ho
  exact ⟨time, hfinished, hsettles⟩

end

/-- Reconciliations of different buckets, before their first turns. -/
structure Separate {n : Nat} (actors : Fin n → Reconciler) (buckets : Fin n → String)
    (decorate : Fin n → Decorator) (check : Fin n → Checker)
    (x : Crowd MemoryStore BucketCall (Except StoreError Snapshot)
      (Except LifecycleError Outcome) n) : Prop where
  injective : Function.Injective buckets
  converging : ∀ i, Converging (buckets i) (decorate i) (check i)
  programs_eq : ∀ i, x.programs i = (actors i).program (buckets i) (decorate i) (check i)

namespace Separate

variable {n : Nat} {actors : Fin n → Reconciler} {buckets : Fin n → String}
  {decorate : Fin n → Decorator} {check : Fin n → Checker}
  {x : Crowd MemoryStore BucketCall (Except StoreError Snapshot) (Except LifecycleError Outcome) n}
  {i : Fin n}

/-- Each of the separate reconciliations keeps to its own bucket. -/
theorem keepsTo (h : Separate actors buckets decorate check x) :
    x.KeepsTo BucketCall.bucket buckets := by
  intro i
  rw [h.programs_eq]
  exact (actors i).keepsTo_program _ _ _

/-- To each reconciliation, the crowd is like the play of its own turns. -/
theorem alike (h : Separate actors buckets decorate check x) (clock : Instant → Timestamp)
    (schedule : Schedule n) (i : Fin n) :
    Crowd.Alike MemoryStore.bucket buckets i (x.play (MemoryStore.handler clock) schedule)
      (x.play (MemoryStore.handler clock) (schedule.only i)) :=
  (Crowd.Alike.refl x).play (MemoryStore.separation clock) h.injective h.keepsTo schedule

/-- No separate reconciliation over a memory store ever waits. -/
theorem ne_wait (h : Separate actors buckets decorate check x) (clock : Instant → Timestamp)
    (schedule : Schedule n) (i : Fin n) (d : Duration)
    (next : Program BucketCall (Except StoreError Snapshot) (Except LifecycleError Outcome)) :
    (x.play (MemoryStore.handler clock) schedule).programs i ≠ .wait d next := by
  obtain ⟨times, htimes, -⟩ := schedule.exists_only_eq i
  rw [(h.alike clock schedule i).programs_eq, htimes]
  exact ne_wait_of_turns (h.converging i) (h.programs_eq i) clock times d next

/-- A separate reconciliation that has had two turns has ended well. -/
theorem exists_done (h : Separate actors buckets decorate check x) (clock : Instant → Timestamp)
    (schedule : Schedule n) (hturns : 2 ≤ schedule.turns i) :
    ∃ o, (x.play (MemoryStore.handler clock) schedule).programs i = .done (.ok o) := by
  obtain ⟨times, htimes, hlength⟩ := schedule.exists_only_eq i
  rw [(h.alike clock schedule i).programs_eq, htimes]
  match times with
  | [] | [_] =>
    rw [← hlength] at hturns
    simp at hturns
  | first :: second :: later =>
    exact ⟨_, (settles_of_two_turns (h.converging i) (h.programs_eq i) clock first second later).1⟩

/-- A reconciliation that has ended has settled its bucket, in the crowd as with its own turns. -/
theorem settles (h : Separate actors buckets decorate check x) (clock : Instant → Timestamp)
    (schedule : Schedule n) {result : Except LifecycleError Outcome}
    (hdone : (x.play (MemoryStore.handler clock) schedule).programs i = .done result) :
    ∃ time, result = .ok (outcomeAt (buckets i) (decorate i) (check i)
        (x.state.bucket (buckets i)) time) ∧
      (x.play (MemoryStore.handler clock) schedule).state.bucket (buckets i) =
        some (outcomeAt (buckets i) (decorate i) (check i)
          (x.state.bucket (buckets i)) time).snapshot ∧
      SettlesAt (buckets i) (decorate i) (check i) x.state
        (x.play (MemoryStore.handler clock) (schedule.only i)).state time := by
  have halike := h.alike clock schedule i
  obtain ⟨times, htimes, -⟩ := schedule.exists_only_eq i
  rw [halike.programs_eq, htimes] at hdone
  obtain ⟨time, hresult, hsettles⟩ :=
    settles_of_done (h.converging i) (h.programs_eq i) clock times hdone
  rw [← htimes] at hsettles
  exact ⟨time, hresult, halike.view_eq.trans hsettles.stored, hsettles⟩

/-- Buckets that no reconciliation is about stay as they are. -/
theorem bucket_of_ne (h : Separate actors buckets decorate check x) (clock : Instant → Timestamp)
    (schedule : Schedule n) {name : String} (hname : ∀ i, name ≠ buckets i) :
    (x.play (MemoryStore.handler clock) schedule).state.bucket name = x.state.bucket name :=
  Crowd.view_play_of_ne (MemoryStore.separation clock) h.keepsTo hname schedule

/-- When all have ended, the counts have grown by what they grow by where each of them settles its
bucket in a store of its own. -/
theorem counts (h : Separate actors buckets decorate check x) (clock : Instant → Timestamp)
    (schedule : Schedule n)
    (hdone : ∀ i, ∃ result, (x.play (MemoryStore.handler clock) schedule).programs i = .done result)
    (after : Fin n → MemoryStore) (hafter : ∀ i, ∃ time,
      SettlesAt (buckets i) (decorate i) (check i) x.state (after i) time) :
    let y := x.play (MemoryStore.handler clock) schedule
    y.state.reads - x.state.reads = ∑ i, ((after i).reads - x.state.reads) ∧
      y.state.mutations - x.state.mutations =
        ∑ i, ((after i).mutations - x.state.mutations) := by
  intro y
  have hseparate := MemoryStore.separation clock
  -- The stores of its own turns and of its own run differ, but only by the time of the change.
  have hcounts (i : Fin n) :
      (x.play (MemoryStore.handler clock) (schedule.only i)).state.reads = (after i).reads ∧
        (x.play (MemoryStore.handler clock) (schedule.only i)).state.mutations =
          (after i).mutations := by
    obtain ⟨result, hresult⟩ := hdone i
    obtain ⟨time, -, -, hturns⟩ := h.settles clock schedule hresult
    obtain ⟨time', hown⟩ := hafter i
    exact hturns.counts_eq hown
  have hreads := Crowd.count_play hseparate (MemoryStore.tallies_reads clock) h.injective h.keepsTo
    schedule
  have hmutations := Crowd.count_play hseparate (MemoryStore.tallies_mutations clock) h.injective
    h.keepsTo schedule
  refine ⟨hreads.trans ?_, hmutations.trans ?_⟩
  · exact Finset.sum_congr rfl fun i _ => by rw [(hcounts i).1]
  · exact Finset.sum_congr rfl fun i _ => by rw [(hcounts i).2]

end Separate

/-- However the calls of reconciliations of different buckets under expiry policies are interleaved
on an in-memory store, nobody waits, two turns are enough for each of them, and what it comes to and
leaves in its bucket is, but for the times of its change, what it comes to in a run of its own from
the same store.  All other buckets are left as they are, and when all have ended, the counts of the
store have grown by the sums of what they grow by in these runs. -/
theorem reconcile_independence {n : Nat} (actors : Fin n → Reconciler) (buckets : Fin n → String)
    (hbuckets : Function.Injective buckets) (policies : Fin n → Expiring) (start : MemoryStore)
    (clock : Instant → Timestamp) (schedule : Schedule n) (clocks : Fin n → Instant → Timestamp)
    (starts : Fin n → Instant) :
    let crowd := (Crowd.start (fun i => (actors i).program (buckets i) (policies i).decorate
      (policies i).check) start).play (MemoryStore.handler clock) schedule
    let alone := fun i => (actors i).run (MemoryStore.handler (clocks i)) (buckets i)
      (policies i).decorate (policies i).check (starts i) start
    (∀ i d next, crowd.programs i ≠ .wait d next) ∧
      (∀ i, 2 ≤ schedule.turns i → ∃ o, crowd.programs i = .done (.ok o)) ∧
      (∀ i result, crowd.programs i = .done result →
        ∃ o o', result = .ok o ∧ (alone i).ending = .finished (.ok o') ∧
          o.timeless = o'.timeless ∧
          crowd.state.bucket (buckets i) = some o.snapshot ∧
          (alone i).state.bucket (buckets i) = some o'.snapshot) ∧
      (∀ name, (∀ i, name ≠ buckets i) → crowd.state.bucket name = start.bucket name) ∧
      ((∀ i, ∃ result, crowd.programs i = .done result) →
        crowd.state.reads - start.reads = ∑ i, ((alone i).state.reads - start.reads) ∧
        crowd.state.mutations - start.mutations =
          ∑ i, ((alone i).state.mutations - start.mutations)) := by
  intro crowd alone
  have hx : Separate actors buckets (fun i => (policies i).decorate) (fun i => (policies i).check)
      (Crowd.start (fun i => (actors i).program (buckets i) (policies i).decorate
        (policies i).check) start) :=
    ⟨hbuckets, fun i => (policies i).converging (buckets i), fun _ => rfl⟩
  have halone (i : Fin n) := (actors i).run_settlesAt ((policies i).converging (buckets i))
    (clocks i) (starts i) start
  refine ⟨fun i => hx.ne_wait clock schedule i, fun i => hx.exists_done clock schedule, ?_,
    fun name => hx.bucket_of_ne clock schedule, ?_⟩
  · intro i result hdone
    obtain ⟨time, rfl, hstored, -⟩ := hx.settles clock schedule hdone
    obtain ⟨time', hending, hsettles⟩ := halone i
    exact ⟨_, _, rfl, hending, timeless_outcomeAt _ _, hstored, hsettles.stored⟩
  · intro hdone
    exact hx.counts clock schedule hdone (fun i => (alone i).state) fun i =>
      (halone i).imp fun _ h => h.2

/-- One reconciliation creates its bucket while another one corrects a bucket without rules; on its
own, each of them runs a minute later. -/
theorem independence_of_two :
    let time : Timestamp := ⟨⟨2024, 1, 31, by decide⟩, 0, 0, by decide⟩
    let later : Timestamp := ⟨⟨2024, 1, 31, by decide⟩, 60, 0, by decide⟩
    let actors : Fin 2 → Reconciler := fun _ => .standard
    let clocks : Fin 2 → Instant → Timestamp := fun _ _ => later
    let starts : Fin 2 → Instant := fun _ => 60000
    let buckets : Fin 2 → String := fun i => if i = 0 then "ci-artifacts" else "logs"
    let policies : Fin 2 → Expiring := fun i => if i = 0 then ⟨30⟩ else ⟨7⟩
    let start := (MemoryStore.empty.seed (.named "logs")).seed (.named "images")
    let crowd := (Crowd.start (fun i => (actors i).program (buckets i) (policies i).decorate
      (policies i).check) start).play (MemoryStore.handler fun _ => time)
      [(0, 0), (1, 1), (1, 2), (0, 3)]
    let alone := fun i => (actors i).run (MemoryStore.handler (clocks i)) (buckets i)
      (policies i).decorate (policies i).check (starts i) start
    Function.Injective buckets ∧
      (∀ i, ∃ o o', crowd.programs i = .done (.ok o) ∧ (alone i).ending = .finished (.ok o') ∧
        o.timeless = o'.timeless ∧
        o.decision = if i = 0 then .doesNotExist else .needsCorrection) ∧
      crowd.state.bucket "images" = start.bucket "images" ∧
      crowd.state.mutations - start.mutations =
        ∑ i, ((alone i).state.mutations - start.mutations) := by
  intro time later actors clocks starts buckets policies start crowd alone
  have hbuckets : Function.Injective buckets := by
    intro i j
    revert i j
    decide
  obtain ⟨-, hdone, hended, hothers, hcounts⟩ := reconcile_independence actors buckets hbuckets
    policies start (fun _ => time) [(0, 0), (1, 1), (1, 2), (0, 3)] clocks starts
  have hall : ∀ i, ∃ o, crowd.programs i = .done (.ok o) :=
    fun i => hdone i (by revert i; decide)
  refine ⟨hbuckets, ?_, hothers "images" (by decide), (hcounts ?_).2⟩
  · intro i
    obtain ⟨o, ho⟩ := hall i
    obtain ⟨_, o', hresult, hending, htimeless, -⟩ := hended i _ ho
    cases hresult
    refine ⟨o, o', ho, hending, htimeless, ?_⟩
    obtain ⟨o'', hending', hsettles⟩ := settles_run ((policies i).converging (buckets i))
      (actors i) (clocks i) (starts i) start
    cases hending.symm.trans hending'
    rw [decision_of_timeless htimeless, hsettles.decision]
    clear hsettles hending hending' htimeless ho
    revert i
    decide
  · intro i
    obtain ⟨o, ho⟩ := hall i
    exact ⟨_, ho⟩

end BucketLifecycle
