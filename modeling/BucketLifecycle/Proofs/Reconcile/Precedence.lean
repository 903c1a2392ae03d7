import BucketLifecycle.Proofs.Reconcile.Attribution
import BucketLifecycle.Proofs.Reconcile.SentSnapshots

/-!
# What comes before a change

The laws of the logical calls, seen on the single attempts that a run consists of.  Each attempt
reads the bucket or sends a decorated snapshot of it (`attempt_cases`); one that sends a snapshot
has, before it and the earlier attempts at the same change, the reading for which it is made
(`exists_reading`); and a run that succeeds does so by its last attempt (`exists_last`).
-/

set_option autoImplicit false

namespace BucketLifecycle

variable {σ : Type}

/-- What a reading must have been answered for a call to be made that changes the bucket. -/
def Prompts (decorate : Decorator) (check : Checker) (answer : Except StoreError Snapshot) :
    BucketCall → Prop
  | .get _ => False
  | .insert _ => ∃ m, answer = .error (.notFound m)
  | .update desired => ∃ found drifted, answer = .ok found ∧ check found = .nonCompliant drifted ∧
    desired = decorate drifted

/-- A call that sends what a decorator has made for a bucket. -/
def Sends (bucket : String) (decorate : Decorator) (call : BucketCall) : Prop :=
  ∃ s, (call = .insert (decorate s) ∨ call = .update (decorate s)) ∧
    (decorate s).Acceptable bucket

/-- A replacement that is sent has the name of the bucket. -/
theorem Sends.name_eq {bucket : String} {decorate : Decorator} {desired : Snapshot}
    (h : Sends bucket decorate (.update desired)) : desired.name = bucket := by
  obtain ⟨s, hinsert | hupdate, hacceptable⟩ := h
  · cases hinsert
  · cases hupdate
    exact hacceptable.name_eq

/-- An answer that prompts a change is a bucket, or says that there is none. -/
theorem Prompts.isNotFound {decorate : Decorator} {check : Checker}
    {answer : Except StoreError Snapshot} {call : BucketCall}
    (h : Prompts decorate check answer call) : ∀ e, answer = .error e → e.isNotFound = true := by
  intro e he
  cases call with
  | get name => exact absurd h id
  | insert desired =>
    obtain ⟨m, rfl⟩ := h
    cases he
    rfl
  | update desired =>
    obtain ⟨found, drifted, rfl, -⟩ := h
    cases he

/-- A call that is no reading follows the reading whose last answer prompts it. -/
theorem Follows.prompts {bucket : String} {decorate : Decorator} {check : Checker}
    {get call : LogicalCall σ} (h : Follows bucket decorate check get call)
    (hsends : call.request ≠ .get bucket) :
    get.request = .get bucket ∧ ∃ answer, get.answer.lastAnswer? = some answer ∧
      Prompts decorate check answer call.request := by
  unfold Follows at h
  cases hrequest : call.request with
  | get name =>
    rw [hrequest] at h hsends
    rw [h.1] at hsends
    exact absurd rfl hsends
  | insert desired =>
    rw [hrequest] at h
    obtain ⟨-, hget, m, hanswer⟩ := h
    exact ⟨hget, _, hanswer, m, rfl⟩
  | update desired =>
    rw [hrequest] at h
    obtain ⟨hget, found, drifted, hanswer, hcheck, hdesired⟩ := h
    exact ⟨hget, _, hanswer, found, drifted, rfl, hcheck, hdesired⟩

/-- What sends a bucket is no reading. -/
theorem Sends.ne_get {bucket : String} {decorate : Decorator} {call : BucketCall}
    (h : Sends bucket decorate call) : call ≠ .get bucket := by
  obtain ⟨s, rfl | rfl, -⟩ := h
  · exact nofun
  · exact nofun

/-- Where an element of a list of lists stands. -/
theorem exists_of_flatMap_eq {α β : Type} {f : α → List β} {xs : List α} {before after : List β}
    {y : β} (h : xs.flatMap f = before ++ y :: after) :
    ∃ front x back inner outer, xs = front ++ x :: back ∧ f x = inner ++ y :: outer ∧
      before = front.flatMap f ++ inner := by
  induction xs generalizing before with
  | nil => exact absurd h (by simp)
  | cons x xs ih =>
    rw [List.flatMap_cons] at h
    rcases List.append_eq_append_iff.1 h with ⟨middle, rfl, hrest⟩ | ⟨middle, hx, hrest⟩
    · obtain ⟨front, z, back, inner, outer, rfl, hz, rfl⟩ := ih hrest
      exact ⟨x :: front, z, back, inner, outer, rfl, hz, by simp⟩
    · cases middle with
      | nil =>
        -- The list `f x` ends exactly in front of `y`, which stands in a later one.
        have hstart : xs.flatMap f = [] ++ y :: after := hrest.symm
        obtain ⟨front, z, back, inner, outer, rfl, hz, hnone⟩ := ih hstart
        refine ⟨x :: front, z, back, inner, outer, rfl, hz, ?_⟩
        rw [List.flatMap_cons, List.append_assoc, ← hnone, List.append_nil, hx, List.append_nil]
      | cons first middle =>
        cases hrest
        exact ⟨[], x, xs, before, middle, rfl, hx, rfl⟩

section

variable (r : Reconciler) (handler : StoreHandler σ) (bucket : String) (decorate : Decorator)
  (check : Checker) (now : Instant) (s : σ)

/-- Each attempt of a run belongs to one of its logical calls, all of whose attempts ask for the
same. -/
theorem Reconciler.exists_logicalCall {before after : List Attempt} {attempt : Attempt}
    (h : (r.run handler bucket decorate check now s).exchanges = before ++ attempt :: after) :
    ∃ earlier call later inner outer,
      (r.logicalRun handler bucket decorate check now s).exchanges = earlier ++ call :: later ∧
      call.answer.exchanges = inner ++ attempt :: outer ∧
      before = (earlier.flatMap fun call => call.answer.exchanges) ++ inner ∧
      ∀ a ∈ call.answer.exchanges, a.request = call.request := by
  rw [r.run_eq_flatten] at h
  obtain ⟨earlier, call, later, inner, outer, hcalls, hattempts, hbefore⟩ :=
    exists_of_flatMap_eq h
  refine ⟨earlier, call, later, inner, outer, hcalls, hattempts, hbefore, ?_⟩
  obtain ⟨at_, hcall⟩ := r.attempts_of_mem handler bucket decorate check now s
    (by rw [hcalls]; exact List.mem_append_cons_self)
  exact hcall.request_eq

/-- A logical call of a run reads the bucket or sends it. -/
theorem Reconciler.call_cases {call : LogicalCall σ}
    (h : call ∈ (r.logicalRun handler bucket decorate check now s).exchanges) :
    call.request = .get bucket ∨ Sends bucket decorate call.request := by
  rcases (r.course_run handler bucket decorate check now s).call_cases call h with
    hget | ⟨_, _, _, hsent⟩ | ⟨_, _, _, hsent⟩
  · exact .inl hget
  · exact .inr ⟨.named bucket, .inl hsent.insert_request, hsent.acceptable⟩
  · obtain ⟨desired, hrequest⟩ := hsent.update_request
    have hacceptable := hsent.acceptable hrequest
    obtain ⟨found, drifted, sent, -, -, hdesired, hupdate⟩ := hsent.update_eq
    have hsame : desired = decorate drifted := by
      rw [← (desiredState_eq_ok_iff.1 hdesired).1]
      rw [hupdate] at hrequest
      exact (BucketCall.update.inj hrequest).symm
    rw [hsame] at hrequest hacceptable
    exact .inr ⟨drifted, .inr hrequest, hacceptable⟩

/-- An attempt of a run reads the bucket or sends it. -/
theorem Reconciler.attempt_cases {attempt : Attempt}
    (h : attempt ∈ (r.run handler bucket decorate check now s).exchanges) :
    attempt.request = .get bucket ∨ Sends bucket decorate attempt.request := by
  obtain ⟨before, after, hsplit⟩ := List.append_of_mem h
  obtain ⟨earlier, call, later, inner, outer, hcalls, hattempts, -, hsame⟩ :=
    r.exists_logicalCall handler bucket decorate check now s hsplit
  rw [hsame attempt (by rw [hattempts]; exact List.mem_append_cons_self)]
  apply r.call_cases handler bucket decorate check now s
  rw [hcalls]
  exact List.mem_append_cons_self

/-- An attempt that sends a snapshot comes after the reading for which it is made, and nothing but
earlier attempts at the same call are in between. -/
theorem Reconciler.exists_reading {before after : List Attempt} {attempt : Attempt}
    (h : (r.run handler bucket decorate check now s).exchanges = before ++ attempt :: after)
    (hsends : attempt.request ≠ .get bucket) :
    ∃ earlier reading retries, before = earlier ++ reading :: retries ∧
      (∀ a ∈ retries, a.request = attempt.request) ∧ reading.request = .get bucket ∧
      Prompts decorate check reading.answer attempt.request := by
  obtain ⟨earlier, call, later, inner, outer, hcalls, hattempts, rfl, hsame⟩ :=
    r.exists_logicalCall handler bucket decorate check now s h
  have hrequest : attempt.request = call.request :=
    hsame attempt (by rw [hattempts]; exact List.mem_append_cons_self)
  rw [hrequest] at hsends
  obtain ⟨front, get, rfl, hfollows⟩ :=
    (r.course_run handler bucket decorate check now s).predecessor hcalls hsends
  obtain ⟨hget, answer, hanswer, hprompts⟩ := hfollows.prompts hsends
  -- The reading counts by its last attempt, behind which the attempts at the call itself begin.
  obtain ⟨reading, hreading, rfl⟩ := Option.map_eq_some_iff.1 hanswer
  obtain ⟨init, hinit⟩ := List.getLast?_eq_some_iff.1 hreading
  obtain ⟨at_, hattempts'⟩ := r.attempts_of_mem handler bucket decorate check now s
    (by rw [hcalls]; simp : get ∈ _)
  refine ⟨(front.flatMap fun call => call.answer.exchanges) ++ init, reading, inner, ?_, ?_, ?_, ?_⟩
  · simp [hinit]
  · intro a ha
    rw [hrequest]
    exact hsame a (by rw [hattempts]; exact List.mem_append_left _ ha)
  · rw [hattempts'.request_eq reading (List.mem_of_getLast? hreading), hget]
  · rw [hrequest]
    exact hprompts

/-- A run that succeeds does so by the answer to its last attempt: the snapshot that was read is
accepted, or one that was sent has been taken. -/
theorem Reconciler.exists_last {o : Outcome}
    (h : (r.run handler bucket decorate check now s).ending = .finished (.ok o)) :
    ∃ last stored, (r.run handler bucket decorate check now s).exchanges.getLast? = some last ∧
      last.answer = .ok stored ∧
      (last.request = .get bucket ∧ (∃ kept, check stored = .compliant kept) ∨
        Sends bucket decorate last.request) := by
  rw [r.run_eq_flatten] at h
  obtain ⟨call, hcall, hconcludes⟩ :=
    (r.course_run handler bucket decorate check now s).concludes h
  have hmem := List.mem_of_getLast? hcall
  obtain ⟨at_, hattempts⟩ := r.attempts_of_mem handler bucket decorate check now s hmem
  have hlast {stored : Snapshot} (hanswer : call.answer.lastAnswer? = some (.ok stored)) :
      ∃ last, (r.run handler bucket decorate check now s).exchanges.getLast? = some last ∧
        last.answer = .ok stored ∧ last.request = call.request := by
    obtain ⟨last, hlast, hanswer⟩ := Option.map_eq_some_iff.1 hanswer
    refine ⟨last, ?_, hanswer, hattempts.request_eq last (List.mem_of_getLast? hlast)⟩
    rw [r.run_eq_flatten]
    exact getLast?_flatMap hcall hlast
  unfold Concludes at hconcludes
  rcases r.call_cases handler bucket decorate check now s hmem with hget | hsends
  · rw [hget] at hconcludes
    obtain ⟨-, found, hanswer, hcheck⟩ := hconcludes
    obtain ⟨last, hlast, hok, hrequest⟩ := hlast hanswer
    exact ⟨last, found, hlast, hok, .inl ⟨hrequest.trans hget, o.snapshot, hcheck⟩⟩
  · have hanswer : call.answer.lastAnswer? = some (.ok o.snapshot) := by
      obtain ⟨sent, hinsert | hupdate, -⟩ := hsends
      · rw [hinsert] at hconcludes
        exact hconcludes.2
      · rw [hupdate] at hconcludes
        exact hconcludes.2
    obtain ⟨last, hlast, hok, hrequest⟩ := hlast hanswer
    exact ⟨last, o.snapshot, hlast, hok, .inr (by rw [hrequest]; exact hsends)⟩

end

end BucketLifecycle
