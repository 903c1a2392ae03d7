import BucketLifecycle.Proofs.Reconcile.Budget
import BucketLifecycle.Proofs.Run.Deadline

/-!
# The counters of the loops

Attempts, readings and lost races are counted in 32 bits.  Each counter is raised before it is
compared with its bound, and the bound has 32 bits as well: under the largest bound no comparison
ends the loop before the counter has to pass its limit.

`Program.CallsAtMost` bounds the calls on every path through a program.  It makes the room in a
counter a bound of the loop that uses it up (`callsAtMost_attempt`, `callsAtMost_reconcileFrom`),
whatever the store answers.  When the room is used up is read off by induction on `Attempts` and on
`Course`.  `counters_overflow_iff` puts this together: the loops keep to their bounds, and overflow
under the largest bound and under no other.
-/

set_option autoImplicit false

namespace BucketLifecycle

variable {σ τ ι κ ρ α β : Type}

/-! ### Calls on the paths through a program -/

namespace Program

/-- No path through the program makes more than `n` of the calls that are counted. -/
def CallsAtMost (counted : ι → Bool) : Program ι ρ α → Nat → Prop
  | .done _, _ => True
  | .overflow, _ => True
  | .wait _ next, n => next.CallsAtMost counted n
  | .call c next, n =>
    ∃ left, (if counted c then 1 else 0) + left ≤ n ∧
      ∀ answer, (next answer).CallsAtMost counted left

/-- A bound on what is counted holds with a deadline where it holds without. -/
theorem countP_untilDeadline_le {counted : Exchange ι ρ → Bool} {n : Nat}
    {go : Instant → Run σ ι ρ α} (h : ∀ wake, (go wake).exchanges.countP counted ≤ n)
    (deadline : Option Instant) (now wake : Instant) (s : σ) :
    (untilDeadline deadline now wake s go).exchanges.countP counted ≤ n := by
  rcases untilDeadline_cases deadline now wake s go with hgo | ⟨limit, -, -, -, hcut⟩
  · rw [hgo]
    exact h wake
  · rw [hcut]
    exact Nat.zero_le n

/-- A bound on what is counted behind every result holds of what follows a run. -/
theorem countP_next_le {counted : Exchange ι ρ → Bool} {n : Nat} (r : Run σ κ τ α)
    {go : α → Instant → σ → Run σ ι ρ β}
    (h : ∀ a now s, (go a now s).exchanges.countP counted ≤ n) :
    (r.next go).exchanges.countP counted ≤ n := by
  rcases r.ending.finished_or_isStopped with ⟨a, ha⟩ | hstopped
  · rw [Run.next_of_finished ha]
    exact h a _ _
  · obtain ⟨ending, -, hnext⟩ := Run.next_of_isStopped hstopped go
    rw [hnext]
    exact Nat.zero_le n

/-- A run makes no more calls than any path through its program. -/
theorem countP_run_le {counted : ι → Bool} {p : Program ι ρ α} {n : Nat}
    (h : p.CallsAtMost counted n) (handler : Handler σ ι ρ) (deadline : Option Instant)
    (now : Instant) (s : σ) :
    (p.run handler deadline now s).exchanges.countP (fun e => counted e.request) ≤ n := by
  induction p generalizing n now s with
  | done a => exact Nat.zero_le n
  | overflow => exact Nat.zero_le n
  | wait d p ih => exact countP_untilDeadline_le (fun wake => ih h wake s) _ _ _ _
  | call c rest ih =>
    obtain ⟨left, hleft, hrest⟩ := h
    have hlater := countP_untilDeadline_le
      (fun wake => ih (handler now c s).answer (hrest _) wake (handler now c s).state) deadline now
      (now + (handler now c s).delay.ticks) (handler now c s).state
    rw [run_call, Run.exchanges_after, List.countP_append, List.countP_singleton]
    exact Nat.le_trans (Nat.add_le_add_left hlater _) hleft

/-- A run makes no more calls than any path through its program, also where each of them stands for
a program of its own. -/
theorem countP_nestedRun_le {counted : ι → Bool} {p : Program ι ρ α} {n : Nat}
    (h : p.CallsAtMost counted n) (f : ι → Program κ τ ρ) (handler : Handler σ κ τ)
    (deadline : Option Instant) (now : Instant) (s : σ) :
    (p.nestedRun f handler deadline now s).exchanges.countP (fun e => counted e.request) ≤ n := by
  induction p generalizing n now s with
  | done a => exact Nat.zero_le n
  | overflow => exact Nat.zero_le n
  | wait d p ih => exact countP_untilDeadline_le (fun wake => ih h wake s) _ _ _ _
  | call c rest ih =>
    obtain ⟨left, hleft, hrest⟩ := h
    have hlater := countP_next_le ((f c).run handler deadline now s)
      fun answer now s => ih answer (hrest _) now s
    unfold nestedRun
    rw [Run.exchanges_after, List.countP_append, List.countP_singleton]
    exact Nat.le_trans (Nat.add_le_add_left hlater _) hleft

/-- A call that overflows ends the whole run. -/
theorem nestedRun_of_overflow (f : ι → Program κ τ ρ) (handler : Handler σ κ τ)
    (deadline : Option Instant) (p : Program ι ρ α) (now : Instant) (s : σ) :
    ∀ e ∈ (p.nestedRun f handler deadline now s).exchanges, e.answer.ending = .overflow →
      (p.nestedRun f handler deadline now s).ending = .overflow := by
  induction p generalizing now s with
  | done a => exact fun e he => absurd he List.not_mem_nil
  | overflow => exact fun e he => absurd he List.not_mem_nil
  | wait d p ih =>
    intro e he hoverflow
    unfold nestedRun at he ⊢
    rcases untilDeadline_cases deadline now (now + d.ticks) s
      (fun wake => p.nestedRun f handler deadline wake s) with h | ⟨limit, -, -, -, h⟩
    · rw [h] at he ⊢
      exact ih _ _ e he hoverflow
    · rw [h] at he
      exact absurd he List.not_mem_nil
  | call c rest ih =>
    intro e he hoverflow
    unfold nestedRun at he ⊢
    rcases List.mem_cons.1 he with rfl | he
    · unfold Run.next
      dsimp only at hoverflow ⊢
      rw [hoverflow]
      rfl
    · rcases ((f c).run handler deadline now s).ending.finished_or_isStopped with
        ⟨a, ha⟩ | hstopped
      · dsimp only
        rw [Run.next_of_finished ha] at he ⊢
        exact ih _ _ _ e he hoverflow
      · obtain ⟨ending, -, h⟩ := Run.next_of_isStopped hstopped
          fun a now s => (rest a).nestedRun f handler deadline now s
        rw [h] at he
        exact absurd he List.not_mem_nil

/-- A call that is stopped in a run that overflows has overflowed itself. -/
theorem overflow_of_isStopped {f : ι → Program κ τ ρ} {handler : Handler σ κ τ}
    {deadline : Option Instant} {p : Program ι ρ α} {now : Instant} {s : σ}
    (hoverflow : (p.nestedRun f handler deadline now s).ending = .overflow) :
    ∀ e ∈ (p.nestedRun f handler deadline now s).exchanges, e.answer.ending.IsStopped →
      e.answer.ending = .overflow := by
  intro e he hstopped
  cases hending : e.answer.ending with
  | finished a => exact absurd hending (hstopped.ne_finished a)
  | overflow => rfl
  | deadline =>
    obtain ⟨-, hcut⟩ := nestedRun_of_deadline _ _ _ _ _ _ e he hending
    cases hcut.symm.trans hoverflow

end Program

/-- A word of 32 bits keeps to the limit of the counters. -/
theorem toNat_le_counterLimit (n : UInt32) : n.toNat ≤ counterLimit :=
  Nat.le_sub_one_of_lt n.toNat_lt

/-! ### Attempts -/

/-- Every attempt takes room in the counter. -/
theorem callsAtMost_attempt (p : RetryPolicy) (c : ι) (room made : Nat) :
    (p.attempt (β := β) c room made).CallsAtMost (fun _ => true) room := by
  induction room generalizing made with
  | zero => trivial
  | succ room ih =>
    refine ⟨room, Nat.le_of_eq (Nat.add_comm _ _), fun answer => ?_⟩
    cases answer with
    | ok a => trivial
    | error e =>
      dsimp only
      split
      · split
        · trivial
        · unfold Program.pause
          split
          · exact ih _
          · exact ih _
      · trivial

/-- How the attempts at a call are counted.  They keep to the bound of the policy and fit the
counter, and a failure reports their number.  The counter overflows under a single bound, its own
limit: once it is full of transient failures, unless the deadline comes first. -/
structure AttemptsCounted (p : RetryPolicy)
    (run : Run σ ι (Except StoreError β) (Except RetryError β)) : Prop where
  length_le : run.exchanges.length ≤ p.maxRetries.toNat + 1
  length_fits : run.exchanges.length ≤ counterLimit
  reported : ∀ n e, run.ending = .finished (.error (.exhausted n e)) → n = run.exchanges.length
  overflow_iff : run.ending = .overflow ↔
    p.maxRetries.toNat = counterLimit ∧ run.exchanges.length = counterLimit ∧
      (∀ attempt ∈ run.exchanges, settlesCall attempt.answer = false) ∧ run.ending ≠ .deadline

namespace Attempts

variable {p : RetryPolicy} {c : ι} {handler : Handler σ ι (Except StoreError β)}
  {deadline : Option Instant} {made : Nat} {now : Instant} {s : σ}
  {run : Run σ ι (Except StoreError β) (Except RetryError β)}

/-- A transient failure does not settle a call. -/
theorem settlesCall_error {e : StoreError} (h : e.isTransient = true) :
    settlesCall (.error e : Except StoreError β) = false := by
  simp [settlesCall, h]

/-- A counter that overflows has counted as many transient failures as it can. -/
theorem full_of_overflow (h : Attempts p c handler deadline made now s run)
    (hmade : made ≤ p.maxRetries.toNat) (hoverflow : run.ending = .overflow) :
    p.maxRetries.toNat = counterLimit ∧ made + run.exchanges.length = counterLimit ∧
      ∀ attempt ∈ run.exchanges, settlesCall attempt.answer = false := by
  induction h with
  | counterFull hfull =>
    have hmax := toNat_le_counterLimit p.maxRetries
    exact ⟨by omega, hfull, fun attempt hmem => absurd hmem List.not_mem_nil⟩
  | cutInCall | answered | refused | exhausted | cutInPause => cases hoverflow
  | again _ hkind hleft _ ih =>
    obtain ⟨hmax, hlength, hall⟩ := ih hleft hoverflow
    rw [Run.exchanges_after, List.singleton_append, List.length_cons]
    refine ⟨hmax, by omega, fun attempt hmem => ?_⟩
    rcases List.mem_cons.1 hmem with rfl | hmem
    · exact settlesCall_error hkind
    · exact hall attempt hmem

/-- A call that comes to a result, although no attempt settled it, was given up. -/
theorem length_eq_of_unsettled (h : Attempts p c handler deadline made now s run)
    (hmade : made ≤ p.maxRetries.toNat)
    (hall : ∀ attempt ∈ run.exchanges, settlesCall attempt.answer = false)
    {result : Except RetryError β} (hresult : run.ending = .finished result) :
    made + run.exchanges.length = p.maxRetries.toNat + 1 := by
  induction h with
  | counterFull | cutInCall | cutInPause => cases hresult
  | answered => cases hall _ List.mem_cons_self
  | refused _ hkind =>
    have hsettles := hall _ List.mem_cons_self
    simp [settlesCall, hkind] at hsettles
  | exhausted _ _ hspent =>
    rw [List.length_singleton]
    omega
  | again _ _ hleft _ ih =>
    rw [Run.exchanges_after, List.singleton_append] at hall ⊢
    have hrest := ih hleft (fun attempt hmem => hall attempt (List.mem_cons_of_mem _ hmem)) hresult
    rw [List.length_cons]
    omega

end Attempts

section

variable (p : RetryPolicy) (c : ι) (handler : Handler σ ι (Except StoreError β))
  (deadline : Option Instant) (now : Instant) (s : σ)

/-- A call under a policy makes no more attempts than the counter can count. -/
theorem length_execute_le :
    ((p.execute c).run handler deadline now s).exchanges.length ≤ counterLimit := by
  have hcount := Program.countP_run_le (callsAtMost_attempt (β := β) p c counterLimit 0) handler
    deadline now s
  rwa [List.countP_true] at hcount

variable {p c handler deadline}

/-- Under the largest bound a call does not come to a result while its attempts fail transiently:
the counter overflows, unless the deadline comes first. -/
theorem overflow_of_unsettled (hmax : p.maxRetries.toNat = counterLimit)
    (hall : ∀ attempt ∈ ((p.execute c).run handler deadline now s).exchanges,
      settlesCall attempt.answer = false)
    (hdeadline : ((p.execute c).run handler deadline now s).ending ≠ .deadline) :
    ((p.execute c).run handler deadline now s).ending = .overflow := by
  have hlength := length_execute_le p c handler deadline now s
  cases hending : ((p.execute c).run handler deadline now s).ending with
  | overflow => rfl
  | deadline => exact absurd hending hdeadline
  | finished result =>
    have hgiven := (attempts_execute now s).length_eq_of_unsettled (Nat.zero_le _) hall hending
    omega

variable (p c handler deadline)

/-- The attempts at a call under a policy are counted as the policy says. -/
theorem attemptsCounted_execute :
    AttemptsCounted p ((p.execute c).run handler deadline now s) := by
  have hattempts : Attempts p c handler deadline 0 now s _ := attempts_execute now s
  have hmade : 0 ≤ p.maxRetries.toNat := Nat.zero_le _
  refine ⟨hattempts.length_le hmade, length_execute_le p c handler deadline now s,
    fun n e hexhausted => ?_, fun hoverflow => ?_, fun ⟨hmax, _, hall, hdeadline⟩ =>
    overflow_of_unsettled now s hmax hall hdeadline⟩
  · obtain ⟨hn, hlength, -⟩ := hattempts.transient_of_exhausted hmade hexhausted
    rw [hn, hlength, Nat.sub_zero]
  · obtain ⟨hmax, hlength, hall⟩ := hattempts.full_of_overflow hmade hoverflow
    exact ⟨hmax, by omega, hall, by rw [hoverflow]; exact nofun⟩

variable {p c handler}

/-- A call that goes on failing transiently makes its counter overflow. -/
theorem ending_execute_of_failing (hmax : p.maxRetries.toNat = counterLimit)
    (hfails : ∀ now s, settlesCall (handler now c s).answer = false) :
    ((p.execute c).run handler none now s).ending = .overflow := by
  refine overflow_of_unsettled now s hmax (fun attempt hattempt => ?_)
    (Program.ending_ne_deadline handler _ now s)
  obtain ⟨earlier, later, hsplit⟩ := List.append_of_mem hattempt
  rw [Program.answer_eq_handler hsplit, (attempts_execute now s).request_eq attempt hattempt]
  exact hfails _ _

end

/-! ### Readings and lost races -/

/-- Every reading takes room in the counter. -/
theorem callsAtMost_reconcileFrom (bucket : String) (decorate : Decorator) (check : Checker)
    (maxCycles : UInt32) (room reads cycles : Nat) :
    (reconcileFrom bucket decorate check maxCycles room reads cycles).CallsAtMost
      (fun c => c.operation == .get) room := by
  refine reconcileFrom_induction
    (motive := fun room p => p.CallsAtMost (fun c => c.operation == .get) room) trivial
    (fun _ _ => trivial) ?_ ?_ room reads cycles
  · intro room rest h
    exact ⟨room, Nat.le_of_eq (Nat.add_comm _ _), h⟩
  · intro room s desired call rest _ hcall h
    refine ⟨room, ?_, h⟩
    rcases hcall with rfl | rfl <;> simp [BucketCall.operation]

/-- How readings and lost races are counted.  Readings and creations keep to the bound of the
reconciler, readings and lost races fit their counters, and a result reports their numbers.  Beside
the attempts at a call, a counter overflows under a single bound, its own limit: once as many races
are lost, unless the deadline comes first. -/
structure RacesCounted (maxCycles : UInt32) (run : LogicalRun σ) : Prop where
  gets_le : (operations run.exchanges).count .get ≤ maxCycles.toNat + 1
  gets_fit : (operations run.exchanges).count .get ≤ counterLimit
  inserts_le : (operations run.exchanges).count .insert ≤ maxCycles.toNat + 1
  races_fit : run.exchanges.countP lostRace ≤ counterLimit
  reported : ∀ o, run.ending = .finished (.ok o) →
    o.reads = (operations run.exchanges).count .get ∧
      o.conflictCycles = run.exchanges.countP lostRace
  exhausted : ∀ bucket n,
    run.ending = .finished (.error (.conflictLoopExhausted bucket n)) →
      n = run.exchanges.countP lostRace
  overflow_iff : run.ending = .overflow ↔
    (∃ call ∈ run.exchanges, call.answer.ending = .overflow) ∨
      (maxCycles.toNat = counterLimit ∧ run.exchanges.countP lostRace = counterLimit ∧
        run.ending ≠ .deadline)

/-- Counting an operation among the calls is counting the calls of that operation. -/
theorem count_operations (operation : Operation) (calls : List (LogicalCall σ)) :
    (operations calls).count operation = callCount operation calls :=
  List.countP_map

/-- The operations of calls in two parts are those of the parts. -/
theorem operations_append (earlier later : List (LogicalCall σ)) :
    operations (earlier ++ later) = operations earlier ++ operations later :=
  List.map_append

/-- Only a creation loses a race. -/
theorem countP_lostRace_le (calls : List (LogicalCall σ)) :
    calls.countP lostRace ≤ (operations calls).count .insert := by
  rw [count_operations]
  refine List.countP_mono_left fun call _ hlost => ?_
  unfold lostRace at hlost
  split at hlost
  · next hrequest _ =>
    rw [hrequest]
    rfl
  · cases hlost

section

variable {p : RetryPolicy} {handler : StoreHandler σ} {deadline : Option Instant}
  {bucket : String} {decorate : Decorator} {check : Checker} {maxCycles : UInt32}
  {cycles : Nat} {now : Instant} {s : σ} {run : LogicalRun σ} {get insert update : LogicalCall σ}

/-- A reading is one operation. -/
theorem operations_reading (hget : get = p.logicalCall handler deadline (.get bucket) now s) :
    operations [get] = [.get] := by
  rw [hget]
  rfl

/-- A creation is two operations. -/
theorem Creates.operations_eq
    (h : Creates p handler deadline bucket decorate now s get insert) :
    operations [get, insert] = [.get, .insert] := by
  simp [operations, h.get_request, h.insert_request, BucketCall.operation]

/-- A replacement is two operations. -/
theorem Corrects.operations_eq
    (h : Corrects p handler deadline bucket decorate check now s get update) :
    operations [get, update] = [.get, .update] := by
  obtain ⟨desired, hrequest⟩ := h.update_request
  simp [operations, h.get_request, hrequest, BucketCall.operation]

/-- A creation that lost a race is the only one of the two calls that did. -/
theorem Creates.countP_lostRace
    (h : Creates p handler deadline bucket decorate now s get insert) {e : RetryError}
    (hlost : insert.answer.ending = .finished (.error e))
    (hkind : e.storeError.isConflict = true) : [get, insert].countP lostRace = 1 := by
  have hinsert : lostRace insert = true := (h.lostRace_eq hlost).trans hkind
  simp [lostRace_of_get h.get_request, hinsert]

namespace Course

/-- The readings and the creations of a course. -/
theorem count_le
    (h : Course p handler deadline bucket decorate check maxCycles cycles now s run)
    (hcycles : cycles ≤ maxCycles.toNat) :
    cycles + (operations run.exchanges).count .get ≤ maxCycles.toNat + 1 ∧
      (operations run.exchanges).count .insert ≤ (operations run.exchanges).count .get := by
  induction h with
  | counterFull => exact ⟨Nat.le_succ_of_le hcycles, Nat.le_refl _⟩
  | readingStopped hget | readingFailed hget | compliant hget | updateRejected hget
  | insertRejected hget =>
    rw [operations_reading hget]
    exact ⟨Nat.succ_le_succ hcycles, by decide⟩
  | updateStopped hsent | updateFailed hsent | corrected hsent =>
    rw [hsent.operations_eq]
    exact ⟨Nat.succ_le_succ hcycles, by decide⟩
  | insertStopped hsent | insertFailed hsent | created hsent | racesExhausted hsent =>
    rw [hsent.operations_eq]
    exact ⟨Nat.succ_le_succ hcycles, by decide⟩
  | raced hsent _ _ hleft _ ih =>
    obtain ⟨hgets, hinserts⟩ := ih hleft
    rw [Run.exchanges_after, operations_append, hsent.operations_eq]
    simp
    omega

/-- A course overflows in a call, or where the lost races have filled the counter of readings. -/
theorem full_of_overflow
    (h : Course p handler deadline bucket decorate check maxCycles cycles now s run)
    (hcycles : cycles ≤ maxCycles.toNat) (hoverflow : run.ending = .overflow) :
    (∃ call ∈ run.exchanges, call.answer.ending.IsStopped) ∨
      (maxCycles.toNat = counterLimit ∧ cycles + run.exchanges.countP lostRace = counterLimit) := by
  induction h with
  | counterFull hfull =>
    have hmax := toNat_le_counterLimit maxCycles
    exact .inr ⟨by omega, hfull⟩
  | readingStopped _ hstopped => exact .inl ⟨_, List.mem_singleton_self _, hstopped⟩
  | updateStopped _ hstopped | insertStopped _ hstopped =>
    exact .inl ⟨_, List.mem_cons_of_mem _ (List.mem_singleton_self _), hstopped⟩
  | readingFailed | compliant | updateRejected | updateFailed | corrected | insertRejected
  | insertFailed | created | racesExhausted => cases hoverflow
  | raced hsent hlost hkind hleft _ ih =>
    rcases ih hleft hoverflow with ⟨call, hcall, hstopped⟩ | ⟨hmax, hraces⟩
    · exact .inl ⟨call, List.mem_append_right _ hcall, hstopped⟩
    · refine .inr ⟨hmax, ?_⟩
      rw [Run.exchanges_after, List.countP_append, hsent.countP_lostRace hlost hkind]
      omega

/-- A course that ends with a result has lost fewer races than it has read the bucket, unless it
has lost too many of them. -/
theorem lost_lt_of_finished
    (h : Course p handler deadline bucket decorate check maxCycles cycles now s run)
    {result : Except LifecycleError Outcome} (hresult : run.ending = .finished result) :
    run.exchanges.countP lostRace < (operations run.exchanges).count .get ∨
      (maxCycles.toNat < cycles + run.exchanges.countP lostRace ∧
        run.exchanges.countP lostRace = (operations run.exchanges).count .get) := by
  induction h with
  | counterFull => cases hresult
  | readingStopped _ _ hending | updateStopped _ _ hending | insertStopped _ _ hending =>
    exact absurd hresult (hending.ne_finished _)
  | readingFailed hget | compliant hget | updateRejected hget | insertRejected hget =>
    subst hget
    exact .inl Nat.zero_lt_one
  | updateFailed hsent | corrected hsent =>
    obtain ⟨desired, hrequest⟩ := hsent.update_request
    rw [hsent.operations_eq]
    simp [lostRace_of_get hsent.get_request, lostRace_of_update hrequest]
  | insertFailed hsent hfailed hkind =>
    have hnone : lostRace _ = false := (hsent.lostRace_eq hfailed).trans hkind
    rw [hsent.operations_eq]
    simp [lostRace_of_get hsent.get_request, hnone]
  | created hsent hstored =>
    have hnone : lostRace _ = false := hsent.lostRace_eq hstored
    rw [hsent.operations_eq]
    simp [lostRace_of_get hsent.get_request, hnone]
  | racesExhausted hsent hlost hkind hspent =>
    rw [hsent.operations_eq, hsent.countP_lostRace hlost hkind]
    exact .inr ⟨hspent, by decide⟩
  | raced hsent hlost hkind _ _ ih =>
    have hrest := ih hresult
    rw [Run.exchanges_after, operations_append, hsent.operations_eq, List.countP_append,
      hsent.countP_lostRace hlost hkind]
    simp
    omega

/-- A course that is given up for its lost races reports their number. -/
theorem lost_of_exhausted
    (h : Course p handler deadline bucket decorate check maxCycles cycles now s run)
    {name : String} {n : Nat}
    (hexhausted : run.ending = .finished (.error (.conflictLoopExhausted name n))) :
    n = cycles + run.exchanges.countP lostRace := by
  induction h with
  | counterFull => cases hexhausted
  | readingStopped _ _ hending | updateStopped _ _ hending | insertStopped _ _ hending =>
    exact absurd hexhausted (hending.ne_finished _)
  | compliant | corrected | created => cases hexhausted
  | @readingFailed _ _ _ _ e | @updateFailed _ _ _ _ _ e | @insertFailed _ _ _ _ _ e =>
    cases e <;> cases hexhausted
  | updateRejected _ _ _ hdesired | insertRejected _ _ _ hdesired =>
    obtain ⟨fault, -, rfl⟩ := desiredState_eq_error_iff.1 hdesired
    cases hexhausted
  | racesExhausted hsent hlost hkind =>
    cases hexhausted
    rw [hsent.countP_lostRace hlost hkind]
  | raced hsent hlost hkind _ _ ih =>
    have hrest := ih hexhausted
    rw [Run.exchanges_after, List.countP_append, hsent.countP_lostRace hlost hkind]
    omega

end Course

end

/-- The lost races of a run are counted as its limit says. -/
theorem racesCounted_logicalRun (r : Reconciler) (handler : StoreHandler σ) (bucket : String)
    (decorate : Decorator) (check : Checker) (now : Instant) (s : σ) :
    RacesCounted r.maxConflictCycles (r.logicalRun handler bucket decorate check now s) := by
  have hcourse := r.course_run handler bucket decorate check now s
  have hraces := countP_lostRace_le (r.logicalRun handler bucket decorate check now s).exchanges
  have hfit : callCount .get (r.logicalRun handler bucket decorate check now s).exchanges ≤
      counterLimit :=
    Program.countP_nestedRun_le
      (callsAtMost_reconcileFrom bucket decorate check r.maxConflictCycles counterLimit 0 0)
      r.retry.execute handler (r.limitFrom now) now s
  rw [← count_operations] at hfit
  obtain ⟨hgets, hinserts⟩ := hcourse.count_le (Nat.zero_le _)
  refine ⟨by omega, hfit, by omega, by omega, fun o ho => ?_, fun name n hexhausted => ?_,
    fun hoverflow => ?_, ?_⟩
  · obtain ⟨hreads, hlosses, -, -⟩ := hcourse.counters (Nat.zero_le _) ho
    exact ⟨hreads.trans (Nat.zero_add _), hlosses.trans (Nat.zero_add _)⟩
  · exact (hcourse.lost_of_exhausted hexhausted).trans (Nat.zero_add _)
  · rcases hcourse.full_of_overflow (Nat.zero_le _) hoverflow with
      ⟨call, hcall, hstopped⟩ | ⟨hmax, hfull⟩
    · exact .inl ⟨call, hcall, Program.overflow_of_isStopped hoverflow call hcall hstopped⟩
    · exact .inr ⟨hmax, by omega, by rw [hoverflow]; exact nofun⟩
  · rintro (⟨call, hcall, hoverflow⟩ | ⟨hmax, hfull, hdeadline⟩)
    · exact Program.nestedRun_of_overflow _ _ _ _ _ _ call hcall hoverflow
    · cases hending : (r.logicalRun handler bucket decorate check now s).ending with
      | overflow => rfl
      | deadline => exact absurd hending hdeadline
      | finished result =>
        -- The last of so many races would leave no room for another reading.
        have hlost := hcourse.lost_lt_of_finished hending
        omega

/-- Under every policy, reconciler, store and deadline, a call makes no more attempts than one and
the allowed repetitions, and a reconciliation no more creations than one and the races that it may
lose; no counter shows a number beyond its limit.  A counter overflows exactly where its bound is
that limit itself and the answers of the store use it up. -/
theorem counters_overflow_iff (p : RetryPolicy) (c : ι)
    (handler : Handler σ ι (Except StoreError β)) (limit : Option Instant) (r : Reconciler)
    (store : StoreHandler τ) (bucket : String) (decorate : Decorator) (check : Checker)
    (now : Instant) (s : σ) (t : τ) :
    let run := r.logicalRun store bucket decorate check now t
    AttemptsCounted p ((p.execute c).run handler limit now s) ∧
      r.run store bucket decorate check now t = run.flatten ∧
      (∀ call ∈ run.exchanges, AttemptsCounted r.retry call.answer) ∧
      RacesCounted r.maxConflictCycles run := by
  intro run
  refine ⟨attemptsCounted_execute p c handler limit now s,
    r.run_eq_flatten store bucket decorate check now t, fun call hcall => ?_,
    racesCounted_logicalRun r store bucket decorate check now t⟩
  obtain ⟨at_, hanswer⟩ := Program.exists_answer_eq_run _ _ _ _ _ _ call hcall
  rw [hanswer]
  exact attemptsCounted_execute _ _ _ _ _ _

/-! ### Stores under which the counters overflow -/

/-- A run ends as it does with its answers taken apart. -/
theorem Run.ending_flatten (run : Run σ ι (Run σ κ τ ρ) α) : run.flatten.ending = run.ending :=
  rfl

section

variable (r : Reconciler) (handler : StoreHandler σ) (bucket : String) (decorate : Decorator)
  (check : Checker) (now : Instant) (s : σ)

/-- A run of attempts ends as its run of logical calls does. -/
theorem ending_run_eq : (r.run handler bucket decorate check now s).ending =
    (r.logicalRun handler bucket decorate check now s).ending := by
  rw [r.run_eq_flatten]
  exact Run.ending_flatten _

/-- A reconciliation begins with a reading. -/
theorem exists_exchanges_logicalRun :
    ∃ later, (r.logicalRun handler bucket decorate check now s).exchanges =
      r.retry.logicalCall handler (r.limitFrom now) (.get bucket) now s :: later := by
  obtain ⟨room, hroom⟩ : ∃ room, counterLimit = room + 1 := ⟨_, rfl⟩
  unfold Reconciler.logicalRun reconciliation
  rw [hroom]
  unfold reconcileFrom
  rw [nestedRun_call, Run.exchanges_after]
  exact ⟨_, rfl⟩

variable {r handler bucket decorate check}

/-- The counter of the attempts at the first reading overflows where no reading is answered. -/
theorem ending_logicalRun_of_failing (hdeadline : r.deadline = none)
    (hmax : r.retry.maxRetries.toNat = counterLimit)
    (hfails : ∀ now s, settlesCall (handler now (.get bucket) s).answer = false) :
    (r.logicalRun handler bucket decorate check now s).ending = .overflow := by
  have hlimit : r.limitFrom now = none := by simp [Reconciler.limitFrom, hdeadline]
  obtain ⟨later, hfirst⟩ := exists_exchanges_logicalRun r handler bucket decorate check now s
  refine (racesCounted_logicalRun r handler bucket decorate check now s).overflow_iff.2
    (.inl ⟨_, by rw [hfirst]; exact List.mem_cons_self, ?_⟩)
  rw [hlimit]
  exact ending_execute_of_failing now s hmax hfails

variable {p : RetryPolicy} {c : BucketCall}

/-- A failure that no retry can mend is what a logical call comes to. -/
theorem ending_logicalCall_of_refused {e : StoreError}
    (hanswer : (handler now c s).answer = .error e) (hkind : e.isTransient = false) :
    (p.logicalCall handler none c now s).answer.ending = .finished (.error (.permanent e)) := by
  obtain ⟨next, hexecute, hnext⟩ := execute_eq_call (β := Snapshot) p c
  have hdone := hnext (.error e) (by rintro e ⟨⟩; exact hkind)
  unfold RetryPolicy.logicalCall
  dsimp only
  rw [hexecute, Program.run_call, hanswer, hdone]
  rfl

/-- A store in which the bucket is never there to be read and always there when it is created. -/
structure AlwaysRaced (handler : StoreHandler σ) (bucket : String) : Prop where
  absent : ∀ now s, ∃ m, (handler now (.get bucket) s).answer = .error (.notFound m)
  present : ∀ now s desired, ∃ m, (handler now (.insert desired) s).answer = .error (.conflict m)

/-- The counter of readings overflows where every race is lost and the bound allows for as many
readings as there is room for. -/
theorem ending_reconcileFrom_of_raced (hraced : AlwaysRaced handler bucket) {desired : Snapshot}
    (hdesired : desiredState bucket decorate (.named bucket) = .ok desired) {maxCycles : UInt32}
    {room reads cycles : Nat} (hcycles : cycles + room ≤ maxCycles.toNat) :
    ((reconcileFrom bucket decorate check maxCycles room reads cycles).nestedRun p.execute handler
      none now s).ending = .overflow := by
  -- The room and the lost races together keep to the bound, so that no race is the last one.
  induction room generalizing reads cycles now s with
  | zero => rfl
  | succ room ih =>
    unfold reconcileFrom
    obtain ⟨m, hget⟩ := hraced.absent now s
    have habsent : (RetryError.permanent (.notFound m)).storeError.isNotFound = true := rfl
    rw [nestedRun_call, Run.next_of_finished (ending_logicalCall_of_refused now s hget rfl)]
    dsimp only
    rw [if_pos habsent, hdesired]
    dsimp only
    unfold creation
    obtain ⟨m, hinsert⟩ := hraced.present
      (p.logicalCall handler none (.get bucket) now s).answer.finish
      (p.logicalCall handler none (.get bucket) now s).answer.state desired
    have hconflict : (RetryError.permanent (.conflict m)).storeError.isConflict = true := rfl
    have hleft : ¬ maxCycles.toNat < cycles + 1 := by omega
    rw [nestedRun_call, Run.next_of_finished (ending_logicalCall_of_refused _ _ hinsert rfl)]
    dsimp only
    rw [if_pos hconflict, if_neg hleft]
    exact ih _ _ (by omega)

/-- The counter of readings overflows where every race is lost, under the largest bound of them. -/
theorem ending_logicalRun_of_raced (hdeadline : r.deadline = none)
    (hmax : r.maxConflictCycles.toNat = counterLimit) (hraced : AlwaysRaced handler bucket)
    {desired : Snapshot} (hdesired : desiredState bucket decorate (.named bucket) = .ok desired) :
    (r.logicalRun handler bucket decorate check now s).ending = .overflow := by
  have hlimit : r.limitFrom now = none := by simp [Reconciler.limitFrom, hdeadline]
  unfold Reconciler.logicalRun
  rw [hlimit]
  exact ending_reconcileFrom_of_raced now s hraced hdesired (by omega)

end

/-- A store that cannot be reached. -/
def unreachableStore : StoreHandler Unit :=
  fun _ _ _ => ⟨.error (.transport "connection refused"), .zero, ()⟩

/-- A store in which somebody else is always faster, and gone at the next reading. -/
def fickleStore : StoreHandler Unit
  | _, .get name, _ => ⟨.error (.notFound name), .zero, ()⟩
  | _, .insert desired, _ => ⟨.error (.conflict desired.name), .zero, ()⟩
  | _, .update desired, _ => ⟨.ok desired, .zero, ()⟩

/-- The fickle store loses every creation to another one. -/
theorem alwaysRaced_fickleStore (bucket : String) : AlwaysRaced fickleStore bucket :=
  ⟨fun _ _ => ⟨bucket, rfl⟩, fun _ _ desired => ⟨desired.name, rfl⟩⟩

/-- Under the largest bounds both counters overflow: the counter of attempts after `2^32 - 1` of
them, in a call by itself and in the first reading of a reconciliation, and the counter of readings
after as many lost races. -/
theorem overflow_of_largest_bounds :
    let largest : RetryPolicy := .immediate 4294967295
    let call := (largest.execute (.get "ci-artifacts")).run unreachableStore none 0 ()
    let patient : Reconciler := ⟨largest, 3, none⟩
    let stubborn : Reconciler := ⟨.immediate 0, 4294967295, none⟩
    let p : Expiring := ⟨30⟩
    call.ending = .overflow ∧ call.exchanges.length = 4294967295 ∧
      (patient.run unreachableStore "ci-artifacts" p.decorate p.check 0 ()).ending = .overflow ∧
      (stubborn.run fickleStore "ci-artifacts" p.decorate p.check 0 ()).ending = .overflow := by
  intro largest call patient stubborn p
  have hlargest : (4294967295 : UInt32).toNat = counterLimit := by decide
  have hlimit : counterLimit = 4294967295 := by decide
  have hcall : call.ending = .overflow :=
    ending_execute_of_failing 0 () hlargest fun _ _ => rfl
  have hlength := ((attemptsCounted_execute _ _ _ _ _ _).overflow_iff.1 hcall).2.1
  refine ⟨hcall, hlength.trans hlimit, ?_, ?_⟩
  · rw [ending_run_eq]
    exact ending_logicalRun_of_failing 0 () rfl hlargest fun _ _ => rfl
  · rw [ending_run_eq]
    exact ending_logicalRun_of_raced 0 () rfl hlargest (alwaysRaced_fickleStore _)
      (desiredState_eq_ok_iff.2 ⟨rfl, by decide +kernel⟩)

end BucketLifecycle
