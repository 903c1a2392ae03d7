import BucketLifecycle.Proofs.Reconcile.Precedence

/-!
# What comes after a reading

A reading that finds a bucket which does not match is answered by the update that its snapshot asks
for: the next attempt of the run sends it (`Reconciler.exists_update`).  Only a deadline that has
passed when the answer arrives can keep the run from it.
-/

set_option autoImplicit false

namespace BucketLifecycle

variable {σ : Type}

section

variable {p : RetryPolicy} {handler : StoreHandler σ} {deadline : Option Instant}
  {bucket : String} {decorate : Decorator} {check : Checker} {maxCycles : UInt32}
  {now : Instant} {s : σ} {cycles : Nat} {run : LogicalRun σ}

/-- The reading behind which a bucket is created has been answered, but by no snapshot. -/
theorem Creates.finds_nothing {get insert : LogicalCall σ}
    (h : Creates p handler deadline bucket decorate now s get insert) :
    ¬ get.answer.ending.IsStopped ∧ ∀ found, get.answer.ending ≠ .finished (.ok found) := by
  obtain ⟨e, habsent, -⟩ := h.absent
  refine ⟨fun hstopped => hstopped.ne_finished _ habsent, fun found hfound => ?_⟩
  cases habsent.symm.trans hfound

/-- A reading that is cut off has no call behind it, and one that finds a bucket to be corrected has
the update behind it. -/
theorem Course.successor
    (h : Course p handler deadline bucket decorate check maxCycles cycles now s run)
    {earlier later : List (LogicalCall σ)} {get : LogicalCall σ}
    (hsplit : run.exchanges = earlier ++ get :: later) (hrequest : get.request = .get bucket) :
    (get.answer.ending.IsStopped → later = []) ∧
      ∀ found drifted desired, get.answer.ending = .finished (.ok found) →
        check found = .nonCompliant drifted → desiredState bucket decorate drifted = .ok desired →
          ∃ now s, later = [p.logicalCall handler deadline (.update desired) now s] := by
  induction h generalizing earlier with
  | counterFull => exact absurd hsplit (by simp)
  | readingStopped _ hstopped =>
    obtain ⟨rfl, hlater⟩ := eq_of_singleton hsplit
    exact ⟨fun _ => hlater, fun _ _ _ hfound => absurd hfound (hstopped.ne_finished _)⟩
  | readingFailed _ hfailed | insertRejected _ hfailed =>
    obtain ⟨rfl, hlater⟩ := eq_of_singleton hsplit
    refine ⟨fun _ => hlater, fun found drifted desired hfound => ?_⟩
    cases hfailed.symm.trans hfound
  | compliant _ hfound hcheck =>
    obtain ⟨rfl, hlater⟩ := eq_of_singleton hsplit
    refine ⟨fun _ => hlater, fun found drifted desired hfound' hcheck' => ?_⟩
    cases hfound.symm.trans hfound'
    cases hcheck.symm.trans hcheck'
  | updateRejected _ hfound hcheck hdesired =>
    obtain ⟨rfl, hlater⟩ := eq_of_singleton hsplit
    refine ⟨fun _ => hlater, fun found drifted desired hfound' hcheck' hdesired' => ?_⟩
    cases hfound.symm.trans hfound'
    cases hcheck.symm.trans hcheck'
    cases hdesired.symm.trans hdesired'
  | updateStopped hsent | updateFailed hsent | corrected hsent =>
    rcases cases_of_cons_cons hsplit with ⟨rfl, hlater⟩ | ⟨rfl, -⟩ | ⟨before, hnil⟩
    · obtain ⟨-, found, drifted, desired, hfound, hcheck, hdesired, hupdate⟩ := hsent
      refine ⟨fun hstopped => absurd hfound (hstopped.ne_finished _),
        fun found' drifted' desired' hfound' hcheck' hdesired' => ?_⟩
      cases hfound.symm.trans hfound'
      cases hcheck.symm.trans hcheck'
      cases hdesired.symm.trans hdesired'
      rw [hlater, hupdate]
      exact ⟨_, _, rfl⟩
    · obtain ⟨sent, hupdate⟩ := hsent.update_request
      rw [hupdate] at hrequest
      cases hrequest
    · exact absurd hnil (by simp)
  | insertStopped hsent | insertFailed hsent | created hsent | racesExhausted hsent =>
    rcases cases_of_cons_cons hsplit with ⟨rfl, -⟩ | ⟨rfl, -⟩ | ⟨before, hnil⟩
    · obtain ⟨hanswered, hnone⟩ := hsent.finds_nothing
      exact ⟨fun hstopped => absurd hstopped hanswered,
        fun found _ _ hfound => absurd hfound (hnone found)⟩
    · rw [hsent.insert_request] at hrequest
      cases hrequest
    · exact absurd hnil (by simp)
  | raced hsent _ _ _ _ ih =>
    rcases cases_of_cons_cons hsplit with ⟨rfl, -⟩ | ⟨rfl, -⟩ | ⟨before, hrest⟩
    · obtain ⟨hanswered, hnone⟩ := hsent.finds_nothing
      exact ⟨fun hstopped => absurd hstopped hanswered,
        fun found _ _ hfound => absurd hfound (hnone found)⟩
    · rw [hsent.insert_request] at hrequest
      cases hrequest
    · exact ih hrest

end

/-- A reading that finds a bucket to be corrected is followed by an attempt at the update, unless
the deadline has passed when it is answered. -/
theorem Reconciler.exists_update (r : Reconciler) (handler : StoreHandler σ) (bucket : String)
    (decorate : Decorator) (check : Checker) (now : Instant) (s : σ)
    {before after : List Attempt} {reading : Attempt}
    (h : (r.run handler bucket decorate check now s).exchanges = before ++ reading :: after)
    (hrequest : reading.request = .get bucket) {found drifted desired : Snapshot}
    (hfound : reading.answer = .ok found) (hcheck : check found = .nonCompliant drifted)
    (hdesired : desiredState bucket decorate drifted = .ok desired) :
    (∃ update rest, after = update :: rest ∧ update.request = .update desired) ∨
      after = [] ∧ (r.run handler bucket decorate check now s).ending = .deadline := by
  obtain ⟨earlier, get, later, inner, outer, hcalls, hattempts, hbefore, hsame⟩ :=
    r.exists_logicalCall handler bucket decorate check now s h
  have hmem : get ∈ (r.logicalRun handler bucket decorate check now s).exchanges := by
    rw [hcalls]
    exact List.mem_append_cons_self
  have hget : get.request = .get bucket := by
    rw [← hsame reading (by rw [hattempts]; exact List.mem_append_cons_self), hrequest]
  -- The attempts behind the reading are those of the calls behind its own.
  have hafter : after = outer ++ later.flatMap fun call => call.answer.exchanges := by
    rw [r.run_eq_flatten] at h
    have hflat : ((r.logicalRun handler bucket decorate check now s).exchanges.flatMap
        fun call => call.answer.exchanges) = before ++ reading :: after := h
    rw [hcalls, hbefore, List.flatMap_append, List.flatMap_cons, hattempts] at hflat
    simpa using hflat.symm
  obtain ⟨at_, hrun⟩ := r.attempts_of_mem handler bucket decorate check now s hmem
  obtain ⟨rfl, hending⟩ := hrun.answered_or_late hattempts hfound
  obtain ⟨hstopped, hnext⟩ :=
    (r.course_run handler bucket decorate check now s).successor hcalls hget
  rcases hending with hfinished | hlate
  · obtain ⟨start, state, rfl⟩ := hnext found drifted desired hfinished hcheck hdesired
    obtain ⟨update, rest, hupdate, hsent⟩ := exists_exchanges_execute r.retry
      (BucketCall.update desired) handler (r.limitFrom now) start state
    refine .inl ⟨update, rest, ?_, hsent⟩
    rw [hafter, List.flatMap_singleton]
    exact hupdate
  · obtain ⟨-, hdeadline⟩ := Program.nestedRun_of_deadline _ _ _ _ _ _ get hmem hlate
    refine .inr ⟨?_, ?_⟩
    · rw [hafter, hstopped (by rw [hlate]; trivial)]
      rfl
    · rw [r.run_eq_flatten]
      exact hdeadline

end BucketLifecycle
