import BucketLifecycle.Proofs.Reconcile.CallProtocol
import BucketLifecycle.Proofs.Retry.RetryLaw

/-!
# The budget of a reconciliation

Two nested loops, one over lost races and one over attempts, are driven by a store that may answer
as it likes.  The outer one makes at most two logical calls for each race that may be lost and two
more (`order_within`); the inner one makes at most one attempt more than there are repetitions
(`Attempts.length_le`) and waits at most once for each repetition (`sleptTime_attempt_le`).  Each
logical call has the whole policy for itself, so the bounds multiply.
-/

set_option autoImplicit false

namespace BucketLifecycle

variable {σ ι β ρ : Type}

/-- No wait is longer than the longest that the policy allows. -/
theorem RetryPolicy.delay_le (p : RetryPolicy) (retry : Nat) :
    (p.delay retry).nanoseconds ≤ p.maxDelay.nanoseconds := by
  unfold RetryPolicy.delay
  split
  · exact Nat.zero_le _
  · rw [Duration.nanoseconds_shorter]
    exact Nat.min_le_right _ _

/-- A wait sleeps for its span, and an empty one not at all. -/
@[simp] theorem sleptTime_sleepStep (d : Duration) :
    sleptTime (sleepStep d : List (Step ι (Except StoreError β))) = d.nanoseconds := by
  unfold sleepStep
  by_cases h : d.nanoseconds = 0
  · simp [h]
  · simp [h, Step.span]

/-- The attempts at a call wait at most once for each repetition that is left. -/
theorem sleptTime_attempt_le (p : RetryPolicy) (c : ι) (handler : Handler σ ι (Except StoreError β))
    {room made : Nat} (hmade : made ≤ p.maxRetries.toNat) (now : Instant) (s : σ) :
    sleptTime ((p.attempt c room made).journal handler now s) ≤
      (p.maxRetries.toNat - made) * p.maxDelay.nanoseconds := by
  induction room generalizing made now s with
  | zero => exact Nat.zero_le _
  | succ room ih =>
    rw [RetryPolicy.attempt, Program.journal_call, sleptTime_cons, Step.span, Nat.zero_add]
    cases (handler now c s).answer with
    | ok a => exact Nat.zero_le _
    | error e =>
      dsimp only
      split
      · split
        · exact Nat.zero_le _
        · next hleft =>
          have hrest := ih (show made + 1 ≤ p.maxRetries.toNat by omega)
            (now + (handler now c s).delay.ticks + (p.delay (made + 1)).ticks)
            (handler now c s).state
          have hroom : p.maxRetries.toNat - made = p.maxRetries.toNat - (made + 1) + 1 := by omega
          calc sleptTime _ = (p.delay (made + 1)).nanoseconds + sleptTime _ := by
                rw [journal_pause, sleptTime_append, sleptTime_sleepStep]
            _ ≤ p.maxDelay.nanoseconds +
                (p.maxRetries.toNat - (made + 1)) * p.maxDelay.nanoseconds :=
              Nat.add_le_add (p.delay_le _) hrest
            _ = (p.maxRetries.toNat - made) * p.maxDelay.nanoseconds := by
              rw [hroom, Nat.succ_mul, Nat.add_comm]
      · exact Nat.zero_le _

/-- How many of the calls are of an operation. -/
def callCount (operation : Operation) (calls : List (Exchange BucketCall ρ)) : Nat :=
  calls.countP fun call => call.request.operation == operation

/-- A logical call has the retry policy for itself: its attempts start afresh, whatever was spent on
earlier calls, and it is given up only after as many of them as the policy allows. -/
structure FreshBudget (p : RetryPolicy) (handler : StoreHandler σ) (call : LogicalCall σ) :
    Prop where
  answer_eq : ∃ at_, call.answer = (p.execute call.request).run handler none call.start at_
  length_le : call.answer.exchanges.length ≤ p.maxRetries.toNat + 1
  length_eq : ∀ n e, call.answer.ending = .finished (.error (.exhausted n e)) →
    call.answer.exchanges.length = p.maxRetries.toNat + 1

section

variable {p : RetryPolicy} {handler : StoreHandler σ}

/-- A call that is executed under a policy has the whole policy for itself. -/
theorem freshBudget_of_answer_eq {call : LogicalCall σ} {at_ : σ}
    (h : call.answer = (p.execute call.request).run handler none call.start at_) :
    FreshBudget p handler call := by
  have hattempts : Attempts p call.request handler none 0 call.start at_ call.answer := by
    rw [h]
    exact attempts_execute call.start at_
  refine ⟨⟨at_, h⟩, hattempts.length_le (Nat.zero_le _), ?_⟩
  intro n e hexhausted
  exact (hattempts.transient_of_exhausted (Nat.zero_le _) hexhausted).2.1

/-- The attempts at a call all ask for the same. -/
theorem FreshBudget.request_eq {call : LogicalCall σ} (h : FreshBudget p handler call) :
    ∀ attempt ∈ call.answer.exchanges, attempt.request = call.request := by
  obtain ⟨at_, hanswer⟩ := h.answer_eq
  rw [hanswer]
  exact (attempts_execute call.start at_).request_eq

/-- The attempts at one logical call count for its operation and for no other. -/
theorem FreshBudget.callCount_le {call : LogicalCall σ} (h : FreshBudget p handler call)
    (operation : Operation) :
    callCount operation call.answer.exchanges ≤
      [call.request.operation].count operation * (p.maxRetries.toNat + 1) := by
  by_cases heq : call.request.operation = operation
  · rw [heq, List.count_singleton_self, Nat.one_mul]
    exact Nat.le_trans List.countP_le_length h.length_le
  · have hnone : callCount operation call.answer.exchanges = 0 := by
      refine List.countP_eq_zero.2 fun attempt hattempt => ?_
      rw [h.request_eq attempt hattempt]
      simpa using heq
    rw [hnone]
    exact Nat.zero_le _

/-- Of an operation there are as many attempts, at most, as logical calls times the attempts at one
of them. -/
theorem callCount_flatMap_le {calls : List (LogicalCall σ)}
    (h : ∀ call ∈ calls, FreshBudget p handler call) (operation : Operation) :
    callCount operation (calls.flatMap fun call => call.answer.exchanges) ≤
      (operations calls).count operation * (p.maxRetries.toNat + 1) := by
  induction calls with
  | nil => exact Nat.zero_le _
  | cons call calls ih =>
    have hfirst := (h call List.mem_cons_self).callCount_le operation
    have hrest := ih fun call hcall => h call (List.mem_cons_of_mem _ hcall)
    have hcount : (operations (call :: calls)).count operation =
        [call.request.operation].count operation + (operations calls).count operation := by
      rw [operations, List.map_cons, ← List.singleton_append, List.count_append]
      rfl
    rw [List.flatMap_cons, callCount, List.countP_append, hcount, Nat.add_mul]
    exact Nat.add_le_add hfirst hrest

/-- Calls that each have the whole policy make so many attempts at most. -/
theorem length_flatMap_le {calls : List (LogicalCall σ)}
    (h : ∀ call ∈ calls, FreshBudget p handler call) :
    (calls.flatMap fun call => call.answer.exchanges).length ≤
      calls.length * (p.maxRetries.toNat + 1) := by
  induction calls with
  | nil => exact Nat.zero_le _
  | cons call calls ih =>
    have hrest := ih fun call hcall => h call (List.mem_cons_of_mem _ hcall)
    rw [List.flatMap_cons, List.length_append, List.length_cons, Nat.succ_mul, Nat.add_comm]
    exact Nat.add_le_add hrest (h call List.mem_cons_self).length_le

end

/-- Each lost race puts one creation and one reading between the first reading and the last call. -/
theorem count_callOrder (operation : Operation) (lost : Nat) (last : List Operation) :
    (callOrder lost last).count operation = [Operation.get].count operation +
      (lost * [Operation.insert, .get].count operation + last.count operation) := by
  unfold callOrder
  rw [← List.singleton_append, List.count_append, List.count_append]
  congr 2
  induction lost with
  | zero => simp
  | succ lost ih => rw [List.replicate_succ, List.flatten_cons, List.count_append, ih,
      Nat.succ_mul, Nat.add_comm]

/-- Each lost race takes two calls, and the first reading and the last calls come on top. -/
theorem length_callOrder (lost : Nat) (last : List Operation) :
    (callOrder lost last).length = 1 + 2 * lost + last.length := by
  simp [callOrder]
  omega

/-- The logical calls of an order in which no more than `c` races are lost. -/
theorem callOrder_le {calls : List Operation} {c : Nat}
    (h : ∃ lost ≤ c, ∃ last ∈ [[], [Operation.insert], [Operation.update]],
      calls = callOrder lost last) :
    calls.count .get ≤ c + 1 ∧ calls.count .insert ≤ c + 1 ∧ calls.count .update ≤ 1 ∧
      calls.length ≤ 2 * (c + 1) := by
  obtain ⟨lost, hlost, last, hlast, rfl⟩ := h
  simp only [List.mem_cons, List.not_mem_nil, or_false] at hlast
  rcases hlast with rfl | rfl | rfl <;> simp [count_callOrder, length_callOrder] <;> omega

/-- A reconciliation itself never waits. -/
theorem neverWaits_reconcileFrom (bucket : String) (decorate : Decorator) (check : Checker)
    (maxCycles : UInt32) (room reads cycles : Nat) :
    (reconcileFrom bucket decorate check maxCycles room reads cycles).NeverWaits :=
  reconcileFrom_induction (motive := fun _ p => p.NeverWaits) trivial (fun _ _ => trivial)
    (fun _ _ h => h) (fun _ _ _ _ _ _ _ h => h) room reads cycles

/-- A reconciliation keeps within its budget.  Without a deadline, and with room in the counters, it
comes to a result, after no more attempts and no longer waits than its settings allow for. -/
theorem reconcile_budget (r : Reconciler) (hdeadline : r.deadline = none)
    (hretries : r.retry.maxRetries.toNat < counterLimit)
    (hcycles : r.maxConflictCycles.toNat < counterLimit) (handler : StoreHandler σ)
    (bucket : String) (decorate : Decorator) (check : Checker) (now : Instant) (s : σ) :
    let n := r.retry.maxRetries.toNat
    let c := r.maxConflictCycles.toNat
    let run := r.run handler bucket decorate check now s
    let logical := r.logicalRun handler bucket decorate check now s
    (∃ result, run.ending = .finished result) ∧
      callCount .get run.exchanges ≤ (c + 1) * (n + 1) ∧
      callCount .insert run.exchanges ≤ (c + 1) * (n + 1) ∧
      callCount .update run.exchanges ≤ n + 1 ∧
      run.exchanges.length ≤ 2 * (c + 1) * (n + 1) ∧
      run = logical.flatten ∧ (∀ call ∈ logical.exchanges, FreshBudget r.retry handler call) ∧
      sleptTime ((r.program bucket decorate check).journal handler now s) ≤
        2 * (c + 1) * n * r.retry.maxDelay.nanoseconds := by
  intro n c run logical
  have hcourse := r.course_run handler bucket decorate check now s
  have hflatten : run = logical.flatten := r.run_eq_flatten handler bucket decorate check now s
  have hlimit : r.limitFrom now = none := by simp [Reconciler.limitFrom, hdeadline]
  have hfresh : ∀ call ∈ logical.exchanges, FreshBudget r.retry handler call := by
    intro call hcall
    obtain ⟨at_, hanswer⟩ := Program.exists_answer_eq_run _ _ _ _ _ _ call hcall
    rw [hlimit] at hanswer
    exact freshBudget_of_answer_eq hanswer
  obtain ⟨hget, hinsert, hupdate, hlength⟩ :=
    callOrder_le (hcourse.order_within hcycles (Nat.zero_le _))
  have hcount (operation : Operation) : callCount operation run.exchanges ≤
      (operations logical.exchanges).count operation * (n + 1) := by
    rw [hflatten]
    exact callCount_flatMap_le hfresh operation
  have hcalls : logical.exchanges.length ≤ 2 * (c + 1) := by
    simpa [operations] using hlength
  refine ⟨?_, ?_, ?_, ?_, ?_, hflatten, hfresh, ?_⟩
  · rw [hflatten]
    exact hcourse.finished hlimit hretries hcycles (Nat.zero_le _)
  · exact Nat.le_trans (hcount .get) (Nat.mul_le_mul_right _ hget)
  · exact Nat.le_trans (hcount .insert) (Nat.mul_le_mul_right _ hinsert)
  · calc callCount .update run.exchanges ≤ _ := hcount .update
      _ ≤ 1 * (n + 1) := Nat.mul_le_mul_right _ hupdate
      _ = n + 1 := Nat.one_mul _
  · rw [hflatten]
    exact Nat.le_trans (length_flatMap_le hfresh) (Nat.mul_le_mul_right _ hcalls)
  · have hwaits : sleptTime ((r.program bucket decorate check).journal handler now s) ≤
        n * r.retry.maxDelay.nanoseconds * logical.exchanges.length := by
      have hslept := Program.sleptTime_journal_expand_le (f := r.retry.execute)
        (fun c now s => sleptTime_attempt_le r.retry c handler (Nat.zero_le _) now s)
        (neverWaits_reconcileFrom bucket decorate check r.maxConflictCycles counterLimit 0 0) now s
      show _ ≤ _ * ((reconciliation bucket decorate check r.maxConflictCycles).nestedRun
        r.retry.execute handler (r.limitFrom now) now s).exchanges.length
      rw [hlimit]
      exact hslept
    calc sleptTime _ ≤ n * r.retry.maxDelay.nanoseconds * logical.exchanges.length := hwaits
      _ ≤ n * r.retry.maxDelay.nanoseconds * (2 * (c + 1)) := Nat.mul_le_mul_left _ hcalls
      _ = 2 * (c + 1) * n * r.retry.maxDelay.nanoseconds := by
        rw [Nat.mul_comm, Nat.mul_assoc (2 * (c + 1))]

/-- A store in which every call fails once, the bucket never exists and every race is lost. -/
def worstStore : ScriptedStore where
  gets := [⟨.error (.transport "reset"), .zero⟩, ⟨.error (.notFound "ci-artifacts"), .zero⟩,
    ⟨.error (.server 503 "busy"), .zero⟩, ⟨.error (.notFound "ci-artifacts"), .zero⟩]
  inserts := [⟨.error (.server 503 "busy"), .zero⟩, ⟨.error (.conflict "ci-artifacts"), .zero⟩,
    ⟨.error (.transport "reset"), .zero⟩, ⟨.error (.conflict "ci-artifacts"), .zero⟩]
  updates := []

/-- The bounds are met where every call is repeated and every race is lost. -/
theorem budget_of_worst_store :
    let r : Reconciler := ⟨⟨1, .ofMillis 100, .ofMillis 100⟩, 1, none⟩
    let p : Expiring := ⟨30⟩
    let run := r.run ScriptedStore.handler "ci-artifacts" p.decorate p.check 0 worstStore
    let steps :=
      (r.program "ci-artifacts" p.decorate p.check).journal ScriptedStore.handler 0 worstStore
    r.deadline = none ∧ r.retry.maxRetries.toNat < counterLimit ∧
      r.maxConflictCycles.toNat < counterLimit ∧
      callCount .get run.exchanges = 4 ∧ callCount .insert run.exchanges = 4 ∧
      run.exchanges.length ≤ 8 ∧ sleptTime steps = 400000000 ∧
      sleptTime steps ≤ 2 * (1 + 1) * 1 * (Duration.ofMillis 100).nanoseconds := by
  intro r p run steps
  obtain ⟨-, -, -, -, hlength, -, -, hslept⟩ := reconcile_budget r rfl (by decide) (by decide)
    ScriptedStore.handler "ci-artifacts" p.decorate p.check 0 worstStore
  exact ⟨rfl, by decide, by decide, by decide +kernel, by decide +kernel, hlength,
    by decide +kernel, hslept⟩

end BucketLifecycle
