import BucketLifecycle.Proofs.Bucket.DesiredState
import BucketLifecycle.Proofs.Reconcile.CallProtocol

/-!
# The snapshots that a reconciliation sends

Whatever the decorator builds, a store is only ever asked for acceptable desired states
(`SentSnapshots`): each snapshot that is sent is what the decorator makes of the default snapshot or
of the one that the checker turned down, repeated attempts send it unchanged, and it passes the
check.  What does not pass ends the run on the spot.

Nothing is assumed here of the store, the policy or the settings: a run may also be cut off by its
deadline or by a full counter.
-/

set_option autoImplicit false

namespace BucketLifecycle

variable {σ : Type}

/-- The snapshot that a reading hands to the decorator: the default one where there is no bucket,
and the one of the verdict where the bucket does not match. -/
inductive Prepares (bucket : String) (check : Checker) (get : LogicalCall σ) : Snapshot → Prop where
  | absent {e : RetryError} (habsent : get.answer.ending = .finished (.error e))
      (hkind : e.storeError.isNotFound = true) :
    Prepares bucket check get (.named bucket)
  | drifted {found drifted : Snapshot} (hfound : get.answer.ending = .finished (.ok found))
      (hcheck : check found = .nonCompliant drifted) :
    Prepares bucket check get drifted

/-- What a reconciliation sends, and what it does instead of sending. -/
structure SentSnapshots (bucket : String) (decorate : Decorator) (check : Checker)
    (run : LogicalRun σ) : Prop where
  /-- the attempts at one logical call all make that call -/
  attempts : ∀ call ∈ run.exchanges, ∀ attempt ∈ call.answer.exchanges,
    attempt.request = call.request
  inserted : ∀ call ∈ run.exchanges, ∀ desired, call.request = .insert desired →
    desired = decorate (.named bucket) ∧ desired.Acceptable bucket
  /-- an update comes directly after the reading that it corrects -/
  updated : ∀ earlier call later desired, run.exchanges = earlier ++ call :: later →
    call.request = .update desired → desired.Acceptable bucket ∧
      ∃ before get found drifted, earlier = before ++ [get] ∧ get.request = .get bucket ∧
        get.answer.lastAnswer? = some (.ok found) ∧ check found = .nonCompliant drifted ∧
        desired = decorate drifted
  /-- an unacceptable desired state is the end: no call follows the reading -/
  rejected : ∀ earlier get later s, run.exchanges = earlier ++ get :: later →
    get.request = .get bucket → Prepares bucket check get s →
    ¬ (decorate s).Acceptable bucket →
      later = [] ∧ run.finish = get.answer.finish ∧ run.state = get.answer.state ∧
        ∃ fault, (decorate s).check bucket = .error fault ∧
          run.ending = .finished (.error (.invalidDesiredState bucket fault.message))

section

variable {p : RetryPolicy} {handler : StoreHandler σ} {deadline : Option Instant}
  {bucket : String} {decorate : Decorator} {check : Checker} {maxCycles : UInt32}
  {now : Instant} {s : σ} {get insert update : LogicalCall σ} {cycles : Nat} {run : LogicalRun σ}

/-- A creation is sent only where its desired state is acceptable. -/
theorem Creates.acceptable (h : Creates p handler deadline bucket decorate now s get insert) :
    (decorate (.named bucket)).Acceptable bucket := by
  obtain ⟨desired, hdesired, -⟩ := h.insert_eq
  obtain ⟨rfl, hcheck⟩ := desiredState_eq_ok_iff.1 hdesired
  exact Snapshot.check_eq_ok_iff.1 hcheck

/-- An update is sent only where its desired state is acceptable. -/
theorem Corrects.acceptable
    (h : Corrects p handler deadline bucket decorate check now s get update) {desired : Snapshot}
    (hrequest : update.request = .update desired) : desired.Acceptable bucket := by
  obtain ⟨-, _, _, sent, -, -, hsent, rfl⟩ := h
  cases hrequest
  exact Snapshot.check_eq_ok_iff.1 (desiredState_eq_ok_iff.1 hsent).2

/-- A creation is sent only where the decorated bucket is acceptable. -/
theorem Creates.acceptable_of_prepares
    (h : Creates p handler deadline bucket decorate now s get insert) {prepared : Snapshot}
    (hprepares : Prepares bucket check get prepared) : (decorate prepared).Acceptable bucket := by
  obtain ⟨e, habsent, -⟩ := h.absent
  cases hprepares with
  | absent => exact h.acceptable
  | drifted hfound =>
    rw [habsent] at hfound
    cases hfound

/-- A replacement is sent only where the decorated bucket is acceptable. -/
theorem Corrects.acceptable_of_prepares
    (h : Corrects p handler deadline bucket decorate check now s get update) {prepared : Snapshot}
    (hprepares : Prepares bucket check get prepared) : (decorate prepared).Acceptable bucket := by
  obtain ⟨-, found, drifted, desired, hfound, hcheck, hdesired, -⟩ := h
  obtain ⟨rfl, haccepted⟩ := desiredState_eq_ok_iff.1 hdesired
  cases hprepares with
  | absent habsent =>
    rw [hfound] at habsent
    cases habsent
  | drifted hfound' hcheck' =>
    rw [hfound] at hfound'
    cases hfound'
    rw [hcheck] at hcheck'
    cases hcheck'
    exact Snapshot.check_eq_ok_iff.1 haccepted

/-- An element of a list is its first, its second, or one of the rest. -/
theorem cases_of_cons_cons {α : Type} {a b c : α} {rest earlier later : List α}
    (h : a :: b :: rest = earlier ++ c :: later) :
    a = c ∧ later = b :: rest ∨ b = c ∧ later = rest ∨ ∃ before, rest = before ++ c :: later := by
  rcases List.cons_eq_append_iff.1 h with ⟨-, heq⟩ | ⟨before, -, hrest⟩
  · cases heq
    exact .inl ⟨rfl, rfl⟩
  · rcases List.cons_eq_append_iff.1 hrest with ⟨-, heq⟩ | ⟨before, -, hrest⟩
    · cases heq
      exact .inr (.inl ⟨rfl, rfl⟩)
    · exact .inr (.inr ⟨before, hrest⟩)

namespace Course

/-- Every snapshot that a course sends is acceptable, and one that it creates is the decorated
default. -/
theorem sent (h : Course p handler deadline bucket decorate check maxCycles cycles now s run)
    {call : LogicalCall σ} (hcall : call ∈ run.exchanges) (desired : Snapshot) :
    (call.request = .insert desired →
        desired = decorate (.named bucket) ∧ desired.Acceptable bucket) ∧
      (call.request = .update desired → desired.Acceptable bucket) := by
  rcases h.call_cases call hcall with hget | ⟨_, _, _, hsent⟩ | ⟨_, _, _, hsent⟩
  · rw [hget]
    exact ⟨nofun, nofun⟩
  · rw [hsent.insert_request]
    refine ⟨fun hrequest => ?_, nofun⟩
    cases hrequest
    exact ⟨rfl, hsent.acceptable⟩
  · refine ⟨fun hrequest => ?_, hsent.acceptable⟩
    obtain ⟨sent, hupdate⟩ := hsent.update_request
    rw [hupdate] at hrequest
    cases hrequest

/-- A logical call that is not a reading has one directly before it, for which it is made. -/
theorem predecessor
    (h : Course p handler deadline bucket decorate check maxCycles cycles now s run)
    {earlier later : List (LogicalCall σ)} {call : LogicalCall σ}
    (hsplit : run.exchanges = earlier ++ call :: later) (hcall : call.request ≠ .get bucket) :
    ∃ before get, earlier = before ++ [get] ∧ Follows bucket decorate check get call := by
  have hchain := h.isChain_follows
  rcases List.eq_nil_or_concat earlier with rfl | ⟨before, get, hconcat⟩
  · exact absurd (h.head_request call (by rw [hsplit]; rfl)) hcall
  · rw [List.concat_eq_append] at hconcat
    rw [hsplit, hconcat, List.append_assoc, List.singleton_append] at hchain
    exact ⟨before, get, hconcat, (List.isChain_append_cons_cons.1 hchain).2.1⟩

/-- A reading that prepares an unacceptable desired state is the last call of its course, and the
result names the fault.  A reading before a creation or an update prepared what was sent then, so it
is none of these. -/
theorem rejected (h : Course p handler deadline bucket decorate check maxCycles cycles now s run)
    {earlier later : List (LogicalCall σ)} (hsplit : run.exchanges = earlier ++ get :: later)
    (hrequest : get.request = .get bucket) {prepared : Snapshot}
    (hprepares : Prepares bucket check get prepared)
    (hbad : ¬ (decorate prepared).Acceptable bucket) :
    later = [] ∧ run.finish = get.answer.finish ∧ run.state = get.answer.state ∧
      ∃ fault, (decorate prepared).check bucket = .error fault ∧
        run.ending = .finished (.error (.invalidDesiredState bucket fault.message)) := by
  induction h generalizing earlier with
  | counterFull => exact absurd hsplit (by simp)
  | readingStopped _ hstopped =>
    obtain ⟨rfl, -⟩ := eq_of_singleton hsplit
    cases hprepares with
    | absent habsent => exact absurd habsent (hstopped.ne_finished _)
    | drifted hfound => exact absurd hfound (hstopped.ne_finished _)
  | readingFailed _ hfailed hkind =>
    obtain ⟨rfl, -⟩ := eq_of_singleton hsplit
    cases hprepares with
    | absent habsent hnotFound =>
      cases hfailed.symm.trans habsent
      rw [hnotFound] at hkind
      cases hkind
    | drifted hfound => cases hfailed.symm.trans hfound
  | compliant _ hfound hcheck =>
    obtain ⟨rfl, -⟩ := eq_of_singleton hsplit
    cases hprepares with
    | absent habsent => cases hfound.symm.trans habsent
    | drifted hfound' hcheck' =>
      cases hfound.symm.trans hfound'
      cases hcheck.symm.trans hcheck'
  | updateRejected _ hfound hcheck hdesired =>
    obtain ⟨rfl, hlater⟩ := eq_of_singleton hsplit
    obtain ⟨fault, hfault, rfl⟩ := desiredState_eq_error_iff.1 hdesired
    refine ⟨hlater, rfl, rfl, fault, ?_, rfl⟩
    cases hprepares with
    | absent habsent => cases hfound.symm.trans habsent
    | drifted hfound' hcheck' =>
      cases hfound.symm.trans hfound'
      cases hcheck.symm.trans hcheck'
      exact hfault
  | insertRejected _ habsent _ hdesired =>
    obtain ⟨rfl, hlater⟩ := eq_of_singleton hsplit
    obtain ⟨fault, hfault, rfl⟩ := desiredState_eq_error_iff.1 hdesired
    refine ⟨hlater, rfl, rfl, fault, ?_, rfl⟩
    cases hprepares with
    | absent => exact hfault
    | drifted hfound => cases habsent.symm.trans hfound
  | updateStopped hsent | updateFailed hsent | corrected hsent =>
    -- A reading with a call behind it prepared what that call sends, and this passed the check.
    obtain ⟨sent, hupdate⟩ := hsent.update_request
    rcases cases_of_cons_cons hsplit with ⟨rfl, -⟩ | ⟨rfl, -⟩ | ⟨before, hnil⟩
    · exact absurd (hsent.acceptable_of_prepares hprepares) hbad
    · rw [hupdate] at hrequest
      cases hrequest
    · exact absurd hnil (by simp)
  | insertStopped hsent | insertFailed hsent | created hsent | racesExhausted hsent =>
    rcases cases_of_cons_cons hsplit with ⟨rfl, -⟩ | ⟨rfl, -⟩ | ⟨before, hnil⟩
    · exact absurd (hsent.acceptable_of_prepares hprepares) hbad
    · rw [hsent.insert_request] at hrequest
      cases hrequest
    · exact absurd hnil (by simp)
  | raced hsent _ _ _ _ ih =>
    rcases cases_of_cons_cons hsplit with ⟨rfl, -⟩ | ⟨rfl, -⟩ | ⟨before, hrest⟩
    · exact absurd (hsent.acceptable_of_prepares hprepares) hbad
    · rw [hsent.insert_request] at hrequest
      cases hrequest
    · exact ih hrest

end Course

end

/-- Only acceptable desired states are sent, under every store, policy and setting, and one that is
not acceptable ends the run. -/
theorem reconcile_sentSnapshots (r : Reconciler) (handler : StoreHandler σ) (bucket : String)
    (decorate : Decorator) (check : Checker) (now : Instant) (s : σ) :
    r.run handler bucket decorate check now s =
        (r.logicalRun handler bucket decorate check now s).flatten ∧
      SentSnapshots bucket decorate check
        (r.logicalRun handler bucket decorate check now s) := by
  have hcourse := r.course_run handler bucket decorate check now s
  refine ⟨r.run_eq_flatten handler bucket decorate check now s, ?_, ?_, ?_, ?_⟩
  · intro call hcall attempt hattempt
    obtain ⟨at_, hrun⟩ := Program.exists_answer_eq_run _ _ _ _ _ _ call hcall
    rw [hrun] at hattempt
    exact (attempts_execute _ _).request_eq attempt hattempt
  · intro call hcall desired hrequest
    exact (hcourse.sent hcall desired).1 hrequest
  · intro earlier call later desired hsplit hrequest
    have hmem : call ∈ (r.logicalRun handler bucket decorate check now s).exchanges := by
      rw [hsplit]
      exact List.mem_append_right _ List.mem_cons_self
    refine ⟨(hcourse.sent hmem desired).2 hrequest, ?_⟩
    obtain ⟨before, get, rfl, hfollows⟩ :=
      hcourse.predecessor hsplit (by rw [hrequest]; exact nofun)
    unfold Follows at hfollows
    rw [hrequest] at hfollows
    obtain ⟨hget, found, drifted, hfound, hcheck, hdesired⟩ := hfollows
    exact ⟨before, get, found, drifted, rfl, hget, hfound, hcheck, hdesired⟩
  · intro earlier get later prepared hsplit hget hprepares hbad
    exact hcourse.rejected hsplit hget hprepares hbad

end BucketLifecycle
