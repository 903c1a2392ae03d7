import BucketLifecycle.Proofs.Client.Requests
import BucketLifecycle.Proofs.Http.Transcript
import BucketLifecycle.Proofs.Reconcile.CallProtocol

/-!
# What the calls of a client write into the transcript

A call for which a request can be made writes one line: that request, with what became of it; the
answer to the call is what the client reads from there (`Writes`).  A call for which none can be
made writes nothing and fails.  So the transcript of a run is the list of its attempts without the
ones that were never sent (`Logged`, `Client.logs_run`).  Nothing is said of redirects: no answer
may lead elsewhere.
-/

set_option autoImplicit false

namespace BucketLifecycle

open Http

namespace Client

/-- What a client makes of that to which a request came. -/
def judged (outcome : Except Http.Failure Received) : Except StoreError Received :=
  match outcome with
  | .error f => .error (.ofFailure f)
  | .ok received =>
    if received.response.isSuccess then .ok received
    else .error (.ofStatus received.response.status
      (if received.complete then received.response.text else ""))

/-- The snapshot that a client reads from that to which a request came. -/
def heard (outcome : Except Http.Failure Received) : Except StoreError Snapshot :=
  (judged outcome).bind (decodeBody Snapshot.decode)

/-- Only status 404 says that there is no bucket. -/
theorem status_of_ofStatus {status : Nat} {body m : String}
    (h : StoreError.ofStatus status body = .notFound m) : status = 404 := by
  unfold StoreError.ofStatus at h
  dsimp only at h
  split at h
  · next heq => exact heq
  split at h
  · cases h
  split at h
  · cases h
  split at h
  · cases h
  · cases h

/-- That there is no bucket is judged only from an answer with status 404. -/
theorem judged_outcome_eq_notFound {d : Http.Delivery} {shown : Url} {m : String}
    (h : judged (d.outcome shown) = .error (.notFound m)) :
    ∃ a, d.arrived? = some a ∧ a.response.status = 404 := by
  unfold Http.Delivery.outcome at h
  cases harrived : d.arrived? with
  | none =>
    rw [harrived] at h
    cases h
  | some a =>
    rw [harrived] at h
    dsimp only [judged] at h
    split at h
    · cases h
    · exact ⟨a, rfl, status_of_ofStatus (Except.error.inj h)⟩

/-- A snapshot is heard from a complete answer that is a success and reads as it, and from no
other. -/
theorem heard_eq_ok_iff {outcome : Except Http.Failure Received} {s : Snapshot} :
    heard outcome = .ok s ↔ ∃ response, outcome = .ok ⟨response, true⟩ ∧
      response.isSuccess = true ∧ Snapshot.ofText response.text = .ok s := by
  constructor
  · intro h
    obtain ⟨received, hjudged, hdecoded⟩ := exists_of_bind_eq_ok h
    unfold decodeBody at hdecoded
    split at hdecoded
    · next hcomplete =>
      cases outcome with
      | error f => cases hjudged
      | ok arrived =>
        dsimp only [judged] at hjudged
        split at hjudged
        · next hsuccess =>
          cases hjudged
          obtain ⟨response, complete⟩ := received
          obtain rfl : complete = true := hcomplete
          exact ⟨response, rfl, hsuccess, eq_ok_of_mapError hdecoded⟩
        · cases hjudged
    · cases hdecoded
  · rintro ⟨response, rfl, hsuccess, hread⟩
    have hrun : Json.Decoder.run Snapshot.decode response.text = .ok s := hread
    have hjudged : judged (.ok ⟨response, true⟩) = .ok ⟨response, true⟩ := if_pos hsuccess
    unfold heard
    rw [hjudged]
    show decodeBody Snapshot.decode ⟨response, true⟩ = .ok s
    rw [decodeBody, if_pos rfl, hrun]
    rfl

/-- A snapshot is heard only from a complete answer that is a success and reads as it. -/
theorem heard_eq_ok {d : Http.Delivery} {shown : Url} {s : Snapshot}
    (h : heard (d.outcome shown) = .ok s) :
    ∃ response, d = .answered response ∧ response.isSuccess = true ∧
      Snapshot.ofText response.text = .ok s := by
  obtain ⟨response, houtcome, hsuccess, hread⟩ := heard_eq_ok_iff.1 h
  refine ⟨response, ?_, hsuccess, hread⟩
  unfold Http.Delivery.outcome at houtcome
  cases d <;> cases houtcome
  rfl

/-- That there is no bucket is heard only from an answer with the status that says so. -/
theorem heard_eq_notFound {d : Http.Delivery} {shown : Url} {m : String}
    (h : heard (d.outcome shown) = .error (.notFound m)) :
    ∃ a, d.arrived? = some a ∧ a.response.status = 404 := by
  unfold heard at h
  cases houtcome : judged (d.outcome shown) with
  | error e =>
    rw [houtcome] at h
    cases h
    exact judged_outcome_eq_notFound houtcome
  | ok received =>
    rw [houtcome] at h
    have hdecoded : decodeBody Snapshot.decode received = .error (.notFound m) := h
    unfold decodeBody at hdecoded
    split at hdecoded
    · cases hrun : Json.Decoder.run Snapshot.decode received.response.text with
      | error e =>
        rw [hrun] at hdecoded
        cases hdecoded
      | ok t =>
        rw [hrun] at hdecoded
        cases hdecoded
    · cases hdecoded

variable {c : Client}

section

variable {method : Method} {path : List Char} {query : List (String × String)}
  {payload : Option Payload}

/-- An exchange for which there is a request comes to what is judged of sending it. -/
theorem exchange_of_request {shown : Url} {r : Request}
    (h : c.request method path query payload = .ok (shown, r)) (n : Network) :
    (c.exchange method path query payload n).answer =
        judged (n.send c.config.timeout shown r).result ∧
      (c.exchange method path query payload n).state =
        (n.send c.config.timeout shown r).network := by
  unfold exchange
  rw [h]
  dsimp only
  cases (n.send c.config.timeout shown r).result with
  | error f => exact ⟨rfl, rfl⟩
  | ok received =>
    dsimp only [judged]
    split <;> exact ⟨rfl, rfl⟩

/-- An exchange for which there is no request fails and sends nothing. -/
theorem exchange_of_error {f : Http.Failure}
    (h : c.request method path query payload = .error f) (n : Network) :
    c.exchange method path query payload n = ⟨.error (.ofFailure f), Duration.zero, n⟩ := by
  unfold exchange
  rw [h]

end

/-- The snapshot of an exchange is what is heard from its outcome. -/
theorem andThen_decode {r : CallReply Received} {outcome : Except Http.Failure Received}
    (h : r.answer = judged outcome) :
    (andThen r (decodeBody Snapshot.decode)).answer = heard outcome ∧
      (andThen r (decodeBody Snapshot.decode)).state = r.state := by
  rw [heard, ← h]
  exact ⟨rfl, rfl⟩

/-- A call for which a request can be made hears what that comes to. -/
theorem handler_of_prepared {call : BucketCall} {shown : Url} {r : Request}
    (h : c.prepared? call = some (shown, r)) (now : Instant) (n : Network) :
    (c.handler now call n).answer = heard (n.send c.config.timeout shown r).result ∧
      (c.handler now call n).state = (n.send c.config.timeout shown r).network := by
  cases call with
  | get name =>
    rw [prepared?] at h
    obtain ⟨hanswer, hstate⟩ := exchange_of_request (toOption_eq_some h) n
    obtain ⟨hheard, hafter⟩ := andThen_decode hanswer
    exact ⟨hheard, hafter.trans hstate⟩
  | insert desired =>
    rw [prepared?] at h
    obtain ⟨project, hproject, hrequest⟩ := Option.bind_eq_some_iff.1 h
    obtain ⟨hanswer, hstate⟩ := exchange_of_request (toOption_eq_some hrequest) n
    obtain ⟨hheard, hafter⟩ := andThen_decode hanswer
    rw [handler, insert, hproject]
    exact ⟨hheard, hafter.trans hstate⟩
  | update desired =>
    rw [prepared?] at h
    obtain ⟨hanswer, hstate⟩ := exchange_of_request (toOption_eq_some h) n
    obtain ⟨hheard, hafter⟩ := andThen_decode hanswer
    exact ⟨hheard, hafter.trans hstate⟩

/-- No failure of an exchange says that there is no bucket. -/
theorem isNotFound_ofFailure (f : Http.Failure) : (StoreError.ofFailure f).isNotFound = false := by
  cases f <;> rfl

/-- A call for which no request can be made fails, and nothing is sent. -/
theorem handler_of_unprepared {call : BucketCall} (h : c.prepared? call = none) (now : Instant)
    (n : Network) :
    (∃ e, (c.handler now call n).answer = .error e ∧ e.isNotFound = false) ∧
      (c.handler now call n).state = n := by
  have hfails {r : CallReply Received} {f : Http.Failure}
      (hr : r = ⟨.error (.ofFailure f), Duration.zero, n⟩) :
      (∃ e, (andThen r (decodeBody Snapshot.decode)).answer = .error e ∧ e.isNotFound = false) ∧
        (andThen r (decodeBody Snapshot.decode)).state = n := by
    subst hr
    exact ⟨⟨.ofFailure f, rfl, isNotFound_ofFailure f⟩, rfl⟩
  cases call with
  | get name =>
    rw [prepared?] at h
    obtain ⟨f, hf⟩ := toOption_eq_none h
    exact hfails (exchange_of_error hf n)
  | insert desired =>
    rw [prepared?] at h
    rw [handler, insert]
    cases hproject : c.config.project with
    | none => exact ⟨⟨_, rfl, rfl⟩, rfl⟩
    | some project =>
      rw [hproject, Option.bind_some] at h
      obtain ⟨f, hf⟩ := toOption_eq_none h
      exact hfails (exchange_of_error hf n)
  | update desired =>
    rw [prepared?] at h
    obtain ⟨f, hf⟩ := toOption_eq_none h
    exact hfails (exchange_of_error hf n)

/-- A line that an attempt has written. -/
def Writes (c : Client) (attempt : Attempt) (line : Line) : Prop :=
  ∃ shown, c.prepared? attempt.request = some (shown, line.1) ∧
    attempt.answer = heard (line.2.outcome shown)

/-- The attempts of a run and the lines that they have written. -/
inductive Logged (c : Client) : List Attempt → List Line → Prop
  | nil : Logged c [] []
  | sent {attempt : Attempt} {line : Line} {attempts : List Attempt} {lines : List Line}
      (hwrites : c.Writes attempt line) (hrest : Logged c attempts lines) :
    Logged c (attempt :: attempts) (line :: lines)
  | unsent {attempt : Attempt} {e : StoreError} {attempts : List Attempt} {lines : List Line}
      (hnone : c.prepared? attempt.request = none) (hanswer : attempt.answer = .error e)
      (hkind : e.isNotFound = false) (hrest : Logged c attempts lines) :
    Logged c (attempt :: attempts) lines

/-- What happens to a network that plays a script while attempts are made: they are logged. -/
def Logs (c : Client) (script : List Http.Delivery) (n : Network) (attempts : List Attempt)
    (after : Network) : Prop :=
  n.Plays script → ∃ lines, after.transcript script = n.transcript script ++ lines ∧
    c.Logged attempts lines

/-- An attempt is logged in front of those behind it. -/
theorem logs_cons {script : List Http.Delivery} (hscript : ∀ d ∈ script, d.redirects = false)
    {now : Instant} {call : BucketCall} {n after : Network} {later : List Attempt}
    (hrest : c.Logs script (c.handler now call n).state later after) :
    c.Logs script n (⟨call, now, (c.handler now call n).answer⟩ :: later) after := by
  intro hplays
  cases hcall : c.prepared? call with
  | none =>
    obtain ⟨⟨e, hanswer, hkind⟩, hstate⟩ := handler_of_unprepared hcall now n
    rw [hstate] at hrest
    obtain ⟨lines, htranscript, hlogged⟩ := hrest hplays
    exact ⟨lines, htranscript, .unsent hcall hanswer hkind hlogged⟩
  | some prepared =>
    obtain ⟨shown, r⟩ := prepared
    obtain ⟨hanswer, hstate⟩ := handler_of_prepared hcall now n
    obtain ⟨d, hsent, hline, hresult⟩ := hplays.send hscript c.config.timeout shown r
    rw [hstate] at hrest
    obtain ⟨lines, htranscript, hlogged⟩ := hrest hsent
    refine ⟨(r, d) :: lines, ?_, .sent ⟨shown, hcall, ?_⟩ hlogged⟩
    · rw [htranscript, hline, List.append_assoc]
      rfl
    · rw [hanswer, hresult]

/-- A run writes its attempts into the transcript, as far as they are sent. -/
theorem logs_run {α : Type} {script : List Http.Delivery}
    (hscript : ∀ d ∈ script, d.redirects = false) (deadline : Option Instant)
    (p : Program BucketCall (Except StoreError Snapshot) α) (now : Instant) (n : Network) :
    c.Logs script n (p.run c.handler deadline now n).exchanges
      (p.run c.handler deadline now n).state := by
  refine Program.run_traces (c.Logs script) (fun n _ => ?_) (fun now call n later after hrest => ?_)
    deadline p now n
  · exact ⟨[], (List.append_nil _).symm, .nil⟩
  · exact logs_cons hscript hrest

namespace Logged

variable {attempts earlier later : List Attempt} {lines : List Line}

/-- The lines of attempts in two parts are those of the parts. -/
theorem exists_append (h : c.Logged (earlier ++ later) lines) :
    ∃ before after, lines = before ++ after ∧ c.Logged earlier before ∧ c.Logged later after := by
  induction earlier generalizing lines with
  | nil => exact ⟨[], lines, rfl, .nil, h⟩
  | cons attempt rest ih =>
    cases h with
    | sent hwrites hrest =>
      obtain ⟨before, after, rfl, hearlier, hlater⟩ := ih hrest
      exact ⟨_ :: before, after, rfl, .sent hwrites hearlier, hlater⟩
    | unsent hnone hanswer hkind hrest =>
      obtain ⟨before, after, rfl, hearlier, hlater⟩ := ih hrest
      exact ⟨before, after, rfl, .unsent hnone hanswer hkind hearlier, hlater⟩

/-- Each line has been written by an attempt, and the lines in front of it by those before. -/
theorem exists_attempt (h : c.Logged attempts lines) {before after : List Line} {line : Line}
    (hlines : lines = before ++ line :: after) :
    ∃ earlier attempt later, attempts = earlier ++ attempt :: later ∧ c.Writes attempt line ∧
      c.Logged earlier before := by
  -- An attempt that was not sent goes to those before, and the lines before stay as they are.
  induction h generalizing before with
  | nil => exact absurd hlines (by simp)
  | @sent attempt first attempts lines hwrites hrest ih =>
    rcases List.cons_eq_append_iff.1 hlines with ⟨rfl, heq⟩ | ⟨middle, rfl, hmiddle⟩
    · cases heq
      exact ⟨[], attempt, attempts, rfl, hwrites, .nil⟩
    · obtain ⟨earlier, found, later, rfl, hfound, hearlier⟩ := ih hmiddle
      exact ⟨attempt :: earlier, found, later, rfl, hfound, .sent hwrites hearlier⟩
  | @unsent attempt e attempts lines hnone hanswer hkind hrest ih =>
    obtain ⟨earlier, found, later, rfl, hfound, hearlier⟩ := ih hlines
    exact ⟨attempt :: earlier, found, later, rfl, hfound, .unsent hnone hanswer hkind hearlier⟩

/-- An attempt that found a bucket, or that there is none, has written a line. -/
theorem exists_line {attempt : Attempt} (h : c.Logged (attempt :: attempts) lines)
    (hheard : ∀ e, attempt.answer = .error e → e.isNotFound = true) :
    ∃ line rest, lines = line :: rest ∧ c.Writes attempt line ∧ c.Logged attempts rest := by
  cases h with
  | sent hwrites hrest => exact ⟨_, _, rfl, hwrites, hrest⟩
  | unsent hnone hanswer hkind hrest =>
    rw [hheard _ hanswer] at hkind
    cases hkind

/-- Attempts at one call write lines with its request only. -/
theorem request_eq (h : c.Logged attempts lines) {call : BucketCall} {shown : Url} {r : Request}
    (hcall : c.prepared? call = some (shown, r)) (hsame : ∀ a ∈ attempts, a.request = call) :
    ∀ line ∈ lines, line.1 = r := by
  induction h with
  | nil => exact nofun
  | @sent attempt line attempts lines hwrites hrest ih =>
    obtain ⟨hfirst, hothers⟩ := List.forall_mem_cons.1 hsame
    obtain ⟨seen, hprepared, -⟩ := hwrites
    rw [hfirst, hcall] at hprepared
    cases hprepared
    exact List.forall_mem_cons.2 ⟨rfl, ih hothers⟩
  | unsent hnone hanswer hkind hrest ih => exact ih (List.forall_mem_cons.1 hsame).2

end Logged

end Client

end BucketLifecycle
