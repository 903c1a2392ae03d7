import BucketLifecycle.Proofs.Retry.Attempts
import BucketLifecycle.Proofs.Run.Journal
import BucketLifecycle.Store.Script

/-!
# The law of retries

A call is made until an answer settles it, but not more often than the policy allows, and the waits
stand between the attempts and nowhere else.  The two halves are proved apart: `journal_attempt`
places the waits, for any store, by the attempts that the run made, and `Attempts.retried` counts
the attempts at a call whose answers are known, by induction on them.
-/

set_option autoImplicit false

namespace BucketLifecycle

variable {σ ι β : Type}

/-- Whether an answer settles a call: it succeeded, or failed in a way that no retry can mend. -/
def settlesCall : Except StoreError β → Bool
  | .ok _ => true
  | .error e => !e.isTransient

/-- A wait as a step, unless it is empty. -/
def sleepStep (d : Duration) : List (Step ι (Except StoreError β)) :=
  if d.nanoseconds = 0 then [] else [.slept d]

/-- Attempts at a call with these answers, after `made` earlier ones; before each but the first
stands the wait that has the number of the attempts before it. -/
def RetryPolicy.attemptSteps (p : RetryPolicy) (c : ι) (made : Nat) :
    List (Except StoreError β) → List (Step ι (Except StoreError β))
  | [] => []
  | first :: later => .called c first ::
    (later.zipIdx (made + 1)).flatMap fun (answer, number) =>
      sleepStep (p.delay number) ++ [.called c answer]

/-- The number of a wait is that of the attempts before it. -/
theorem RetryPolicy.attemptSteps_cons (p : RetryPolicy) (c : ι) (made : Nat)
    (answer : Except StoreError β) {later : List (Except StoreError β)} (h : later ≠ []) :
    p.attemptSteps c made (answer :: later) =
      .called c answer ::
        (sleepStep (p.delay (made + 1)) ++ p.attemptSteps c (made + 1) later) := by
  cases later with
  | nil => exact absurd rfl h
  | cons next later => simp [attemptSteps, List.zipIdx_cons]

/-- A pause is a wait in the journal, and an empty one is not there. -/
theorem journal_pause {α : Type} (handler : Handler σ ι (Except StoreError β)) (d : Duration)
    (next : Program ι (Except StoreError β) α) (now : Instant) (s : σ) :
    (next.pause d).journal handler now s =
      sleepStep d ++ next.journal handler (now + d.ticks) s := by
  unfold Program.pause sleepStep
  by_cases h : d.nanoseconds = 0
  · rw [if_pos h, if_pos h, Duration.ticks_of_nanoseconds_eq_zero h]
    rfl
  · rw [if_neg h, if_neg h]
    rfl

section

variable {p : RetryPolicy} {c : ι} {handler : Handler σ ι (Except StoreError β)}
  {room made : Nat} {now : Instant} {s : σ} {result : Except RetryError β}

/-- A call does not come to a result without an attempt. -/
theorem exchanges_ne_nil_of_finished
    (h : ((p.attempt c room made).run handler none now s).ending = .finished result) :
    ((p.attempt c room made).run handler none now s).exchanges ≠ [] := by
  cases room with
  | zero => cases h
  | succ room =>
    unfold RetryPolicy.attempt
    rw [Program.run_call, Run.exchanges_after]
    exact List.cons_ne_nil _ _

/-- Attempts that come to a result have the waits of the policy between them, and no others. -/
theorem journal_attempt
    (h : ((p.attempt c room made).run handler none now s).ending = .finished result) :
    (p.attempt c room made).journal handler now s = p.attemptSteps c made
      (((p.attempt c room made).run handler none now s).exchanges.map Exchange.answer) := by
  induction room generalizing made now s with
  | zero => cases h
  | succ room ih =>
    rw [RetryPolicy.attempt, Program.run_call] at h
    rw [RetryPolicy.attempt, Program.journal_call, Program.run_call, Run.exchanges_after]
    cases hanswer : (handler now c s).answer with
    | ok a => rfl
    | error e =>
      rw [hanswer] at h
      dsimp only [Program.untilDeadline] at h ⊢
      by_cases hkind : e.isTransient = true
      · rw [if_pos hkind] at h ⊢
        by_cases hspent : p.maxRetries.toNat < made + 1
        · rw [if_pos hspent]
          rfl
        · rw [if_neg hspent] at h ⊢
          rw [Program.run_pause] at h ⊢
          -- Behind the pause the attempts go on, and there is at least one more.
          have hrest := ih h
          have hmore := exchanges_ne_nil_of_finished h
          rw [journal_pause, hrest]
          symm
          apply p.attemptSteps_cons
          intro hnil
          exact hmore (List.map_eq_nil_iff.1 hnil)
      · rw [if_neg hkind]
        rfl

end

/-- A transient failure puts the answer that settles a call one place further back. -/
theorem findIdx_cons_of_isTransient {e : StoreError} (hkind : e.isTransient = true)
    (later : List (Except StoreError β)) :
    (.error e :: later).findIdx settlesCall = later.findIdx settlesCall + 1 := by
  simp [List.findIdx_cons, settlesCall, hkind]

/-- A store that gives these answers to a call, each after the one before it failed transiently. -/
def AnswersWith (handler : Handler σ ι (Except StoreError β)) (c : ι) :
    List (Except StoreError β) → σ → Prop
  | [], _ => True
  | a :: later, s => ∀ now, (handler now c s).answer = a ∧
      (settlesCall a = false → AnswersWith handler c later (handler now c s).state)

/-- What the answers make of a call that is repeated up to `n` times, after `made` attempts. -/
structure Retried (n made : Nat) (answers : List (Except StoreError β))
    (run : Run σ ι (Except StoreError β) (Except RetryError β)) : Prop where
  /-- the attempts end with the first answer that settles the call, or with the last allowed one -/
  answered : run.exchanges.map Exchange.answer =
    answers.take (min (answers.findIdx settlesCall) (n - made) + 1)
  settled : answers.findIdx settlesCall ≤ n - made →
    ∃ a, answers[answers.findIdx settlesCall]? = some a ∧
      run.ending = .finished (a.mapError .permanent)
  exhausted : n - made < answers.findIdx settlesCall →
    ∃ e, answers[n - made]? = some (.error e) ∧
      run.ending = .finished (.error (.exhausted (n + 1) e))

/-- A call that its first answer settles ends with that answer. -/
theorem retried_of_settled {n made : Nat} {a : Except StoreError β}
    {later : List (Except StoreError β)} (h : settlesCall a = true) (c : ι) (now finish : Instant)
    (s : σ) :
    Retried n made (a :: later) ⟨.finished (a.mapError .permanent), [⟨c, now, a⟩], finish, s⟩ := by
  have hfirst : (a :: later).findIdx settlesCall = 0 := by simp [List.findIdx_cons, h]
  refine ⟨?_, ?_, ?_⟩
  · rw [hfirst]
    simp
  · intro _
    rw [hfirst]
    exact ⟨a, rfl, rfl⟩
  · intro hlate
    rw [hfirst] at hlate
    omega

/-- Attempts are ended by the answers that they are given, if some answer settles the call and the
counter of attempts has room up to it. -/
theorem Attempts.retried {p : RetryPolicy} {c : ι} {handler : Handler σ ι (Except StoreError β)}
    {made : Nat} {now : Instant} {s : σ}
    {run : Run σ ι (Except StoreError β) (Except RetryError β)}
    (h : Attempts p c handler none made now s run) {answers : List (Except StoreError β)}
    (hanswers : AnswersWith handler c answers s)
    (hsettles : answers.findIdx settlesCall < answers.length)
    (hmade : made ≤ p.maxRetries.toNat)
    (hroom : made + min (answers.findIdx settlesCall) (p.maxRetries.toNat - made) < counterLimit) :
    Retried p.maxRetries.toNat made answers run := by
  induction h generalizing answers with
  | counterFull hfull => omega
  | cutInCall hlimit => cases hlimit
  | cutInPause _ _ _ hlimit => cases hlimit
  | @answered made now s a hanswer =>
    cases answers with
    | nil => cases hsettles
    | cons first later =>
      rw [← (hanswers now).1, hanswer]
      exact retried_of_settled rfl c now _ _
  | @refused made now s e hanswer hkind =>
    cases answers with
    | nil => cases hsettles
    | cons first later =>
      rw [← (hanswers now).1, hanswer]
      exact retried_of_settled (by simp [settlesCall, hkind]) c now _ _
  | @exhausted made now s e hanswer hkind hspent =>
    cases answers with
    | nil => cases hsettles
    | cons first later =>
      have hlast : made = p.maxRetries.toNat := by omega
      have hfirst := findIdx_cons_of_isTransient hkind later
      rw [← (hanswers now).1, hanswer, hlast]
      refine ⟨?_, ?_, ?_⟩
      · simp
      · intro hsettled
        rw [hfirst] at hsettled
        omega
      · intro _
        exact ⟨e, by simp, rfl⟩
  | @again made now s e rest hanswer hkind hleft hrest ih =>
    cases answers with
    | nil => cases hsettles
    | cons first later =>
      obtain ⟨hsame, hnext⟩ := hanswers now
      rw [hanswer] at hsame
      subst hsame
      have hfirst := findIdx_cons_of_isTransient hkind later
      have hleftover : p.maxRetries.toNat - made = (p.maxRetries.toNat - (made + 1)) + 1 := by omega
      rw [hfirst, List.length_cons] at hsettles
      rw [hfirst, hleftover, Nat.add_min_add_right] at hroom
      have hih := ih (hnext (by simp [settlesCall, hkind])) (by omega) hleft (by omega)
      refine ⟨?_, ?_, ?_⟩
      · rw [hfirst, hleftover, Run.exchanges_after, List.singleton_append, List.map_cons,
          hih.answered, Nat.add_min_add_right, List.take_succ_cons]
      · intro hsettled
        rw [hfirst] at hsettled ⊢
        rw [List.getElem?_cons_succ]
        exact hih.settled (by omega)
      · intro hexhausted
        rw [hfirst] at hexhausted
        rw [hleftover, List.getElem?_cons_succ]
        exact hih.exhausted (by omega)

/-- A counter without room for an answer that settles the call overflows, under a policy that does
not give up before. -/
theorem ending_attempt_of_full {p : RetryPolicy} {c : ι}
    {handler : Handler σ ι (Except StoreError β)} {room made : Nat}
    (hretries : made + room ≤ p.maxRetries.toNat) {answers : List (Except StoreError β)} {s : σ}
    (hanswers : AnswersWith handler c answers s) (hfull : room ≤ answers.findIdx settlesCall)
    (now : Instant) : ((p.attempt c room made).run handler none now s).ending = .overflow := by
  induction room generalizing made now s answers with
  | zero => rfl
  | succ room ih =>
    cases answers with
    | nil => cases hfull
    | cons a later =>
      obtain ⟨hanswer, hnext⟩ := hanswers now
      cases hsettles : settlesCall a with
      | true =>
        rw [List.findIdx_cons, hsettles] at hfull
        cases hfull
      | false =>
        cases a with
        | ok value => cases hsettles
        | error e =>
          have hkind : e.isTransient = true := by simpa [settlesCall] using hsettles
          rw [findIdx_cons_of_isTransient hkind] at hfull
          have hleft : made + 1 + room ≤ p.maxRetries.toNat := by omega
          have hrest := ih hleft (hnext hsettles) (Nat.le_of_succ_le_succ hfull)
            (now + (handler now c s).delay.ticks + (p.delay (made + 1)).ticks)
          unfold RetryPolicy.attempt
          rw [Program.run_call, hanswer]
          dsimp only [Program.untilDeadline]
          rw [if_pos hkind, if_neg (by omega), Program.run_pause]
          exact hrest

/-- The answers of a script up to the first one after its end, which is a success. -/
def scriptAnswers (default : β) (script : List (Scripted β)) : List (Except StoreError β) :=
  script.map Scripted.answer ++ [.ok default]

/-- A scripted store gives its answers in order. -/
theorem answersWith_script (default : β) (c : ι) (script : List (Scripted β)) :
    AnswersWith (scriptHandler default) c (scriptAnswers default script) script := by
  induction script with
  | nil => exact fun _ => ⟨rfl, nofun⟩
  | cons entry rest ih => exact fun _ => ⟨rfl, fun _ => ih⟩

/-- Some answer settles the call, the one after the end of the script at the latest. -/
theorem findIdx_scriptAnswers_lt (default : β) (script : List (Scripted β)) :
    (scriptAnswers default script).findIdx settlesCall < (scriptAnswers default script).length := by
  rw [List.findIdx_lt_length]
  exact ⟨.ok default, by simp [scriptAnswers], rfl⟩

/-- The law of retries.  The first answer that settles the call, if it is among those that the
policy has room for, is the last one and the result; otherwise the attempts are used up and the
result is their last failure.  The waits of the policy stand between the attempts and nowhere
else. -/
theorem execute_retryLaw (p : RetryPolicy) (c : ι) (default : β) (script : List (Scripted β))
    (hscript : script.length < counterLimit) (now : Instant) :
    let answers := scriptAnswers default script
    let j := answers.findIdx settlesCall + 1
    let n := p.maxRetries.toNat
    let run := (p.execute c).run (scriptHandler default) none now script
    j ≤ answers.length ∧ run.exchanges.length = min j (n + 1) ∧
      (p.execute c).journal (scriptHandler default) now script =
        p.attemptSteps c 0 (answers.take (min j (n + 1))) ∧
      (j ≤ n + 1 → ∃ a, answers[j - 1]? = some a ∧
        run.ending = .finished (a.mapError .permanent)) ∧
      (n + 1 < j → ∃ e, answers[n]? = some (.error e) ∧
        run.ending = .finished (.error (.exhausted (n + 1) e))) := by
  intro answers j n run
  have hfirst : j ≤ answers.length := findIdx_scriptAnswers_lt default script
  have hlength : answers.length = script.length + 1 := by
    simp [answers, scriptAnswers]
  have hretried : Retried n 0 answers run :=
    (attempts_execute now script).retried (answersWith_script default c script) hfirst
      (Nat.zero_le n) (by omega)
  have hcalls : run.exchanges.map Exchange.answer = answers.take (min j (n + 1)) := by
    rw [hretried.answered, Nat.add_min_add_right]
    rfl
  have hresult : ∃ result, run.ending = .finished result := by
    rcases Nat.lt_or_ge n (answers.findIdx settlesCall) with hlate | hearly
    · obtain ⟨e, -, he⟩ := hretried.exhausted hlate
      exact ⟨_, he⟩
    · obtain ⟨a, -, ha⟩ := hretried.settled hearly
      exact ⟨_, ha⟩
  refine ⟨hfirst, ?_, ?_, ?_, ?_⟩
  · calc run.exchanges.length = (answers.take (min j (n + 1))).length := by
          rw [← hcalls, List.length_map]
      _ = min j (n + 1) := by
          rw [List.length_take]
          omega
  · obtain ⟨result, hresult⟩ := hresult
    rw [← hcalls]
    exact journal_attempt hresult
  · intro hj
    exact hretried.settled (by omega)
  · intro hj
    exact hretried.exhausted (by omega)

/-- Three failures in a row use up two repetitions, with a wait before each; the success behind them
is never asked for. -/
theorem retryLaw_of_three_failures :
    let p : RetryPolicy := ⟨2, .ofMillis 100, .ofMillis 150⟩
    let script : List (Scripted Nat) := [⟨.error (.transport "reset"), .zero⟩,
      ⟨.error (.server 503 "busy"), .ofMillis 7⟩, ⟨.error (.transport "closed"), .zero⟩,
      ⟨.ok 1, .zero⟩]
    script.length < counterLimit ∧
      (p.execute "get").journal (scriptHandler 0) 0 script =
        [.called "get" (.error (.transport "reset")), .slept (.ofMillis 100),
          .called "get" (.error (.server 503 "busy")), .slept (.ofMillis 150),
          .called "get" (.error (.transport "closed"))] ∧
      ((p.execute "get").run (scriptHandler 0) none 0 script).ending =
        .finished (.error (.exhausted 3 (.transport "closed"))) := by
  intro p script
  have hscript : script.length < counterLimit := by decide
  obtain ⟨-, -, hjournal, -, hexhausted⟩ := execute_retryLaw p "get" 0 script hscript 0
  have hretries : p.maxRetries.toNat = 2 := by decide
  have hsettling : (scriptAnswers 0 script).findIdx settlesCall = 3 := by decide
  have hsecond : p.delay 1 = .ofMillis 100 := by decide
  have hthird : p.delay 2 = .ofMillis 150 := by decide
  rw [hretries] at hexhausted
  obtain ⟨e, hlast, hending⟩ := hexhausted (by decide)
  refine ⟨hscript, ?_, ?_⟩
  · rw [hjournal, hsettling, hretries]
    simp [scriptAnswers, script, RetryPolicy.attemptSteps, List.zipIdx_cons, hsecond, hthird,
      sleepStep, Duration.ofMillis]
  · cases hlast
    exact hending

end BucketLifecycle
