import BucketLifecycle.Proofs.Run.NestedRun
import BucketLifecycle.Retry

/-!
# The attempts at one call

`Attempts` lists what can happen when a retry policy makes a call: it is answered, refused for good,
given up after the last attempt, cut off by the deadline in the call or in the pause behind it, or
it fails transiently and the next attempt follows. `attempts_execute` says that every run of
`RetryPolicy.execute` is of this kind.  All that later modules need of a repeated call is read off
by induction on it: every attempt makes the same call, the result is the answer to the last attempt,
and what every attempt preserves holds when the last one is made.
-/

set_option autoImplicit false

namespace BucketLifecycle

variable {σ ι α β : Type}

/-- A list of one element has that one at each of its places. -/
theorem eq_of_singleton {α : Type} {a b : α} {earlier later : List α}
    (h : [a] = earlier ++ b :: later) : a = b ∧ later = [] := by
  rcases List.cons_eq_append_iff.1 h with ⟨-, heq⟩ | ⟨before, -, hnil⟩
  · cases heq
    exact ⟨rfl, rfl⟩
  · exact absurd hnil (by simp)

/-- No time at all takes no time on the clock. -/
theorem Duration.ticks_of_nanoseconds_eq_zero {d : Duration} (h : d.nanoseconds = 0) :
    d.ticks = 0 := by
  unfold Duration.ticks Duration.seconds
  rw [h]
  decide

/-- A pause is a wait for its span, the empty one included. -/
theorem Program.run_pause (handler : Handler σ ι β) (deadline : Option Instant) (d : Duration)
    (p : Program ι β α) (now : Instant) (s : σ) :
    (p.pause d).run handler deadline now s =
      untilDeadline deadline now (now + d.ticks) s fun wake => p.run handler deadline wake s := by
  unfold Program.pause
  split
  · next h =>
    rw [Duration.ticks_of_nanoseconds_eq_zero h, Nat.add_zero, untilDeadline_self]
  · rfl

/-- The answer of the store behind the result of a repeated call. -/
def RetryError.answer (result : Except RetryError β) : Except StoreError β :=
  result.mapError RetryError.storeError

section

variable (p : RetryPolicy) (c : ι) (handler : Handler σ ι (Except StoreError β))
  (deadline : Option Instant)

/-- The runs of a call under a retry policy, after `made` attempts at it. -/
inductive Attempts :
    Nat → Instant → σ → Run σ ι (Except StoreError β) (Except RetryError β) → Prop where
  | counterFull {made : Nat} {now : Instant} {s : σ} (hfull : made = counterLimit) :
    Attempts made now s ⟨.overflow, [], now, s⟩
  | cutInCall {made : Nat} {now limit : Instant} {s : σ} (hlimit : deadline = some limit)
      (hlate : limit < now + (handler now c s).delay.ticks) :
    Attempts made now s
      ⟨.deadline, [⟨c, now, (handler now c s).answer⟩], limit, (handler now c s).state⟩
  | answered {made : Nat} {now : Instant} {s : σ} {a : β}
      (hanswer : (handler now c s).answer = .ok a) :
    Attempts made now s ⟨.finished (.ok a), [⟨c, now, .ok a⟩],
      now + (handler now c s).delay.ticks, (handler now c s).state⟩
  | refused {made : Nat} {now : Instant} {s : σ} {e : StoreError}
      (hanswer : (handler now c s).answer = .error e) (hkind : e.isTransient = false) :
    Attempts made now s ⟨.finished (.error (.permanent e)), [⟨c, now, .error e⟩],
      now + (handler now c s).delay.ticks, (handler now c s).state⟩
  | exhausted {made : Nat} {now : Instant} {s : σ} {e : StoreError}
      (hanswer : (handler now c s).answer = .error e) (hkind : e.isTransient = true)
      (hspent : p.maxRetries.toNat < made + 1) :
    Attempts made now s ⟨.finished (.error (.exhausted (made + 1) e)), [⟨c, now, .error e⟩],
      now + (handler now c s).delay.ticks, (handler now c s).state⟩
  | cutInPause {made : Nat} {now limit : Instant} {s : σ} {e : StoreError}
      (hanswer : (handler now c s).answer = .error e) (hkind : e.isTransient = true)
      (hleft : made + 1 ≤ p.maxRetries.toNat) (hlimit : deadline = some limit)
      (hlate : limit < now + (handler now c s).delay.ticks + (p.delay (made + 1)).ticks) :
    Attempts made now s ⟨.deadline, [⟨c, now, .error e⟩], limit, (handler now c s).state⟩
  | again {made : Nat} {now : Instant} {s : σ} {e : StoreError}
      {rest : Run σ ι (Except StoreError β) (Except RetryError β)}
      (hanswer : (handler now c s).answer = .error e) (hkind : e.isTransient = true)
      (hleft : made + 1 ≤ p.maxRetries.toNat)
      (hrest : Attempts (made + 1)
        (now + (handler now c s).delay.ticks + (p.delay (made + 1)).ticks)
        (handler now c s).state rest) :
    Attempts made now s (rest.after [⟨c, now, .error e⟩])

variable {p c handler deadline}

/-- Every run of a call under a retry policy is one of its attempts.  The counter is full exactly
when no room is left in it, so the induction on the room knows why it ends. -/
theorem attempts_attempt {room made : Nat} (hroom : room + made = counterLimit) (now : Instant)
    (s : σ) :
    Attempts p c handler deadline made now s
      ((p.attempt c room made).run handler deadline now s) := by
  induction room generalizing made now s with
  | zero => exact .counterFull (by omega)
  | succ room ih =>
    unfold RetryPolicy.attempt
    rw [Program.run_call]
    -- The deadline can cut in twice: while the answer is awaited, and in the pause behind it.
    rcases Program.untilDeadline_cases deadline now (now + (handler now c s).delay.ticks)
      (handler now c s).state _ with h | ⟨limit, hlimit, -, hlate, h⟩
    · rw [h]
      cases hanswer : (handler now c s).answer with
      | ok a => exact .answered hanswer
      | error e =>
        dsimp only
        split
        · next hkind =>
          split
          · next hspent => exact .exhausted hanswer hkind hspent
          · next hleft =>
            rw [Program.run_pause]
            rcases Program.untilDeadline_cases deadline (now + (handler now c s).delay.ticks)
              (now + (handler now c s).delay.ticks + (p.delay (made + 1)).ticks)
              (handler now c s).state _ with h | ⟨limit, hlimit, -, hlate, h⟩
            · rw [h]
              exact .again hanswer hkind (by omega) (ih (by omega) _ _)
            · rw [h]
              exact .cutInPause hanswer hkind (by omega) hlimit hlate
        · next hkind => exact .refused hanswer (by simpa using hkind)
    · rw [h]
      exact .cutInCall hlimit hlate

/-- A call under a policy is a series of attempts from the first one on. -/
theorem attempts_execute (now : Instant) (s : σ) :
    Attempts p c handler deadline 0 now s ((p.execute c).run handler deadline now s) :=
  attempts_attempt (Nat.add_zero counterLimit) now s

/-- A repeated call starts with an attempt; an answer that is not a transient failure ends it. -/
theorem execute_eq_call (p : RetryPolicy) (c : ι) :
    ∃ next : Except StoreError β → Program ι (Except StoreError β) (Except RetryError β),
      p.execute c = .call c next ∧
        ∀ answer, (∀ e, answer = .error e → e.isTransient = false) →
          next answer = .done (answer.mapError .permanent) := by
  obtain ⟨room, hroom⟩ : ∃ room, counterLimit = room + 1 := ⟨_, rfl⟩
  unfold RetryPolicy.execute
  rw [hroom]
  unfold RetryPolicy.attempt
  refine ⟨_, rfl, ?_⟩
  intro answer hkind
  cases answer with
  | ok a => rfl
  | error e =>
    dsimp only
    rw [if_neg (by simp [hkind e rfl])]
    rfl

/-- A repeated call is made at least once. -/
theorem exists_exchanges_execute (p : RetryPolicy) (c : ι)
    (handler : Handler σ ι (Except StoreError β)) (deadline : Option Instant) (now : Instant)
    (s : σ) :
    ∃ first rest, ((p.execute c).run handler deadline now s).exchanges = first :: rest ∧
      first.request = c := by
  obtain ⟨next, hexecute, -⟩ := execute_eq_call (β := β) p c
  rw [hexecute, Program.run_call]
  exact ⟨_, _, rfl, rfl⟩

/-- A call that is answered at once, and not by a transient failure, is made a single time under
every policy and every deadline. -/
theorem run_execute_of_prompt {now : Instant} {s : σ}
    (hdelay : (handler now c s).delay.ticks = 0)
    (hkind : ∀ e, (handler now c s).answer = .error e → e.isTransient = false) :
    (p.execute c).run handler deadline now s =
      ⟨.finished ((handler now c s).answer.mapError .permanent),
        [⟨c, now, (handler now c s).answer⟩], now, (handler now c s).state⟩ := by
  obtain ⟨next, hexecute, hnext⟩ := execute_eq_call (β := β) p c
  rw [hexecute, Program.run_call, hdelay, Nat.add_zero, Program.untilDeadline_self,
    hnext _ hkind]
  rfl

/-- Where no answer fails transiently, what follows a repeated call follows its only attempt. -/
theorem expand_call_of_prompt (p : RetryPolicy) (c : ι)
    (rest : Except RetryError β → Program ι (Except RetryError β) α) :
    ∃ next, (Program.call c rest).expand p.execute = .call c next ∧
      ∀ answer : Except StoreError β, (∀ e, answer = .error e → e.isTransient = false) →
        next answer = (rest (answer.mapError .permanent)).expand p.execute := by
  obtain ⟨next, hexecute, hnext⟩ := execute_eq_call (β := β) p c
  refine ⟨fun answer => (next answer).bind fun result => (rest result).expand p.execute, ?_, ?_⟩
  · show (p.execute c).bind (fun result => (rest result).expand p.execute) = _
    rw [hexecute]
    rfl
  · intro answer hkind
    show (next answer).bind _ = _
    rw [hnext answer hkind]
    rfl

namespace Attempts

variable {made : Nat} {now : Instant} {s : σ}
  {run : Run σ ι (Except StoreError β) (Except RetryError β)}

/-- Every attempt makes the same call. -/
theorem request_eq (h : Attempts p c handler deadline made now s run) :
    ∀ attempt ∈ run.exchanges, attempt.request = c := by
  induction h with
  | counterFull => exact fun attempt hmem => absurd hmem List.not_mem_nil
  | again _ _ _ _ ih =>
    intro attempt hmem
    rcases List.mem_cons.1 hmem with rfl | hmem
    · rfl
    · exact ih attempt hmem
  | cutInCall | answered | refused | exhausted | cutInPause =>
    intro attempt hmem
    rw [List.mem_singleton.1 hmem]

/-- The last attempt of a call that comes to a result. It is made in a state that the attempts
before it leave, so whatever a transient failure preserves still holds then. -/
theorem last_attempt (Inv : σ → Prop)
    (hkeep : ∀ (now : Instant) (s : σ) (e : StoreError), Inv s →
      (handler now c s).answer = .error e → e.isTransient = true → Inv (handler now c s).state)
    (h : Attempts p c handler deadline made now s run) (hs : Inv s) {result : Except RetryError β}
    (hresult : run.ending = .finished result) :
    ∃ start at_, Inv at_ ∧ (handler start c at_).answer = RetryError.answer result ∧
      run.state = (handler start c at_).state ∧
      run.lastAnswer? = some (RetryError.answer result) := by
  induction h with
  | counterFull => cases hresult
  | cutInCall => cases hresult
  | cutInPause => cases hresult
  | answered hanswer =>
    cases hresult
    exact ⟨_, _, hs, hanswer, rfl, rfl⟩
  | refused hanswer =>
    cases hresult
    exact ⟨_, _, hs, hanswer, rfl, rfl⟩
  | exhausted hanswer =>
    cases hresult
    exact ⟨_, _, hs, hanswer, rfl, rfl⟩
  | again hanswer hkind _ _ ih =>
    obtain ⟨start, at_, hat, hlast, hstate, hrun⟩ := ih (hkeep _ _ _ hs hanswer hkind) hresult
    refine ⟨start, at_, hat, hlast, hstate, ?_⟩
    -- The attempts that follow are not none, since they have a last answer.
    rw [Run.lastAnswer?_after _ _ fun hnil => by simp [Run.lastAnswer?, hnil] at hrun]
    exact hrun

/-- What every attempt preserves holds at the end, however the run ends. -/
theorem invariant (Inv : σ → Prop)
    (hkeep : ∀ (now : Instant) (s : σ), Inv s → Inv (handler now c s).state)
    (h : Attempts p c handler deadline made now s run) (hs : Inv s) : Inv run.state := by
  induction h with
  | counterFull => exact hs
  | again _ _ _ _ ih => exact ih (hkeep _ _ hs)
  | cutInCall | answered | refused | exhausted | cutInPause => exact hkeep _ _ hs

/-- Where every attempt writes the same entry into a log, the log shows how many there were. -/
theorem log_eq {γ : Type} (Inv : σ → Prop) (log : σ → List γ) (entry : γ)
    (hkeep : ∀ (now : Instant) (s : σ), Inv s →
      Inv (handler now c s).state ∧ log (handler now c s).state = log s ++ [entry])
    (h : Attempts p c handler deadline made now s run) (hs : Inv s) :
    log run.state = log s ++ List.replicate run.exchanges.length entry := by
  induction h with
  | counterFull => exact (List.append_nil _).symm
  | again _ _ _ _ ih =>
    obtain ⟨hinv, hlog⟩ := hkeep _ _ hs
    rw [Run.exchanges_after, List.singleton_append, List.length_cons, List.replicate_succ]
    refine (ih hinv).trans ?_
    rw [hlog, List.append_assoc]
    rfl
  | cutInCall | answered | refused | exhausted | cutInPause => exact (hkeep _ _ hs).2

/-- The result of a repeated call is the answer to its last attempt. -/
theorem lastAnswer?_of_finished (h : Attempts p c handler deadline made now s run)
    {result : Except RetryError β} (hresult : run.ending = .finished result) :
    run.lastAnswer? = some (RetryError.answer result) := by
  obtain ⟨-, -, -, -, -, hlast⟩ :=
    h.last_attempt (fun _ => True) (fun _ _ _ _ _ _ => trivial) trivial hresult
  exact hlast

/-- A series that ends for good ends with a failure that is not transient. -/
theorem isTransient_of_permanent (h : Attempts p c handler deadline made now s run)
    {e : StoreError} (hresult : run.ending = .finished (.error (.permanent e))) :
    e.isTransient = false := by
  induction h with
  | refused _ hkind =>
    cases hresult
    exact hkind
  | again _ _ _ _ ih => exact ih hresult
  | counterFull | cutInCall | answered | exhausted | cutInPause => cases hresult

/-- A series that is exhausted ends with a transient failure. -/
theorem isTransient_of_exhausted (h : Attempts p c handler deadline made now s run) {n : Nat}
    {e : StoreError} (hresult : run.ending = .finished (.error (.exhausted n e))) :
    e.isTransient = true := by
  induction h with
  | exhausted _ hkind =>
    cases hresult
    exact hkind
  | again _ _ _ _ ih => exact ih hresult
  | counterFull | cutInCall | answered | refused | cutInPause => cases hresult

/-- There is one attempt more than the policy allows repetitions, at most. -/
theorem length_le (h : Attempts p c handler deadline made now s run)
    (hmade : made ≤ p.maxRetries.toNat) : run.exchanges.length ≤ p.maxRetries.toNat - made + 1 := by
  induction h with
  | counterFull => exact Nat.zero_le _
  | again _ _ hleft _ ih =>
    have hrest := ih hleft
    rw [Run.exchanges_after, List.length_append, List.length_singleton]
    omega
  | cutInCall | answered | refused | exhausted | cutInPause => exact Nat.le_add_left 1 _

/-- A call is given up after the last attempt that the policy allows, and all the attempts at it
failed transiently. -/
theorem transient_of_exhausted (h : Attempts p c handler deadline made now s run)
    (hmade : made ≤ p.maxRetries.toNat) {n : Nat} {e : StoreError}
    (hresult : run.ending = .finished (.error (.exhausted n e))) :
    n = p.maxRetries.toNat + 1 ∧ run.exchanges.length = p.maxRetries.toNat - made + 1 ∧
      ∀ attempt ∈ run.exchanges,
        ∃ failure, attempt.answer = .error failure ∧ failure.isTransient = true := by
  induction h with
  | exhausted hanswer hkind hspent =>
    cases hresult
    refine ⟨by omega, by simp only [List.length_singleton]; omega, ?_⟩
    intro attempt hmem
    rw [List.mem_singleton.1 hmem]
    exact ⟨_, rfl, hkind⟩
  | again hanswer hkind hleft _ ih =>
    obtain ⟨hcount, hlength, hall⟩ := ih hleft hresult
    refine ⟨hcount, ?_, ?_⟩
    · rw [Run.exchanges_after, List.length_append, List.length_singleton]
      omega
    · intro attempt hmem
      rcases List.mem_cons.1 hmem with rfl | hmem
      · exact ⟨_, rfl, hkind⟩
      · exact hall attempt hmem
  | counterFull | cutInCall | answered | refused | cutInPause => cases hresult

/-- An answer that no retry can mend is the last one: it is the result, unless it comes only after
the deadline. -/
theorem refused_or_late (h : Attempts p c handler deadline made now s run) :
    ∀ attempt ∈ run.exchanges, ∀ e, attempt.answer = .error e → e.isTransient = false →
      run.exchanges.getLast? = some attempt ∧
        (run.ending = .finished (.error (.permanent e)) ∨
          run.ending = .deadline ∧ ∃ limit at_, deadline = some limit ∧
            attempt.answer = (handler attempt.start attempt.request at_).answer ∧
            limit < attempt.start + (handler attempt.start attempt.request at_).delay.ticks) := by
  induction h with
  | counterFull => exact fun attempt hmem => absurd hmem List.not_mem_nil
  | cutInCall hlimit hlate =>
    intro attempt hmem e _ _
    rw [List.mem_singleton.1 hmem]
    exact ⟨rfl, .inr ⟨rfl, _, _, hlimit, rfl, hlate⟩⟩
  | answered =>
    intro attempt hmem e he
    rw [List.mem_singleton.1 hmem] at he
    cases he
  | refused =>
    intro attempt hmem e he _
    rw [List.mem_singleton.1 hmem] at he ⊢
    cases he
    exact ⟨rfl, .inl rfl⟩
  | exhausted _ htransient | cutInPause _ htransient =>
    intro attempt hmem e he hkind
    rw [List.mem_singleton.1 hmem] at he
    cases he
    rw [htransient] at hkind
    cases hkind
  | again _ htransient _ _ ih =>
    intro attempt hmem e he hkind
    rcases List.mem_cons.1 hmem with rfl | hmem
    · cases he
      rw [htransient] at hkind
      cases hkind
    · obtain ⟨hlast, hending⟩ := ih attempt hmem e he hkind
      refine ⟨?_, hending⟩
      rw [Run.exchanges_after, List.getLast?_append, hlast]
      rfl

/-- An attempt that succeeds is the last one: it is the result, unless it comes only after the
deadline. -/
theorem answered_or_late (h : Attempts p c handler deadline made now s run)
    {before after : List (Exchange ι (Except StoreError β))}
    {attempt : Exchange ι (Except StoreError β)}
    (hsplit : run.exchanges = before ++ attempt :: after) {a : β} (ha : attempt.answer = .ok a) :
    after = [] ∧ (run.ending = .finished (.ok a) ∨ run.ending = .deadline) := by
  induction h generalizing before with
  | counterFull => exact absurd hsplit (by simp)
  | cutInCall =>
    obtain ⟨rfl, hafter⟩ := eq_of_singleton hsplit
    exact ⟨hafter, .inr rfl⟩
  | answered =>
    obtain ⟨rfl, hafter⟩ := eq_of_singleton hsplit
    cases ha
    exact ⟨hafter, .inl rfl⟩
  | refused | exhausted | cutInPause =>
    obtain ⟨rfl, -⟩ := eq_of_singleton hsplit
    cases ha
  | again _ _ _ _ ih =>
    rw [Run.exchanges_after, List.singleton_append] at hsplit
    rcases List.cons_eq_append_iff.1 hsplit with ⟨-, heq⟩ | ⟨middle, -, hrest⟩
    · cases heq
      cases ha
    · exact ih hrest

/-- Without a deadline, and with room in the counter for every attempt that the policy allows, a
repeated call comes to a result. -/
theorem finished_of_room (h : Attempts p c handler deadline made now s run)
    (hdeadline : deadline = none) (hmade : made ≤ p.maxRetries.toNat)
    (hroom : p.maxRetries.toNat < counterLimit) : ∃ result, run.ending = .finished result := by
  induction h with
  | counterFull hfull => omega
  | cutInCall hlimit => simp [hdeadline] at hlimit
  | cutInPause _ _ _ hlimit => simp [hdeadline] at hlimit
  | answered | refused | exhausted => exact ⟨_, rfl⟩
  | again _ _ hleft _ ih => exact ih hleft

end Attempts

end

end BucketLifecycle
