import BucketLifecycle.Proofs.Client.Disconnection

/-!
# Changes that are reported as made

A client looks at the last answer of an exchange only.  Where redirects lead from its request to
that answer, some of them repeat the request and some turn it into one that only reads: status 303
does so to every request, and 301 and 302 do so to a POST.

`Chain` is the way from a request to the answer that an exchange ends with, and what a call adds to
the transcript is such a chain.  `reported_changes` says what a success of a call stands for.  The
change was accepted exactly where no answer on the way has turned the request; otherwise all that
was accepted is a GET without a body.
-/

set_option autoImplicit false

namespace BucketLifecycle

namespace Http

/-- The request of a line is answered with a success. -/
def Line.accepted (l : Line) : Bool :=
  l.2.arrived?.any fun a => a.response.isSuccess

/-- A redirect with this status leads to a request that only reads. -/
def turnsToGet (method : Method) (status : Nat) : Bool :=
  status == 303 || ((status == 301 || status == 302) && method == .post)

/-- The answer to a request turns it into one that only reads. -/
def Line.turned (l : Line) : Bool :=
  l.2.arrived?.any fun a => turnsToGet l.1.method a.response.status

/-- The lines of an exchange that begins with a request and ends with an answer. -/
inductive Chain : Request → List Line → Received → Prop where
  | ends {r : Request} {d : Delivery} {a : Received} (harrived : d.arrived? = some a)
      (hstays : location? r a.response = none) : Chain r [(r, d)] a
  | leads {r : Request} {d : Delivery} {a answer : Received} {location : Url} {lines : List Line}
      (harrived : d.arrived? = some a) (hlocation : location? r a.response = some location)
      (hrest : Chain (redirected r a.response.status location) lines answer) :
      Chain r ((r, d) :: lines) answer

/-- Where a redirect turns a request into a GET, that carries nothing. -/
theorem redirected_of_turnsToGet {r : Request} {status : Nat}
    (h : turnsToGet r.method status = true) (location : Url) :
    (redirected r status location).method = .get ∧ (redirected r status location).body = none := by
  have hstatus : status = 303 ∨ ((status = 301 ∨ status = 302) ∧ r.method = .post) := by
    simpa [turnsToGet] using h
  unfold redirected
  rw [if_pos hstatus]
  exact ⟨rfl, rfl⟩

/-- Any other redirect repeats the request. -/
theorem redirected_of_not_turnsToGet {r : Request} {status : Nat}
    (h : turnsToGet r.method status = false) (location : Url) :
    (redirected r status location).method = r.method ∧
      (redirected r status location).body = r.body := by
  have hstatus : ¬(status = 303 ∨ ((status = 301 ∨ status = 302) ∧ r.method = .post)) := by
    simpa [turnsToGet] using h
  unfold redirected
  rw [if_neg hstatus]
  exact ⟨rfl, rfl⟩

/-- An answer that leads somewhere has the status of a redirect. -/
theorem isRedirect_of_location? {r : Request} {response : Response} {location : Url}
    (h : location? r response = some location) : isRedirect response.status = true := by
  cases hredirect : isRedirect response.status with
  | true => rfl
  | false =>
    rw [Network.location?_eq_none r hredirect] at h
    cases h

namespace Chain

variable {r : Request} {lines : List Line} {answer : Received}

/-- The last request of a chain is answered with the answer of the exchange. -/
theorem exists_accepted (h : Chain r lines answer) (hsuccess : answer.response.isSuccess = true) :
    ∃ l ∈ lines, l.accepted = true := by
  induction h with
  | @ends r d a harrived =>
    refine ⟨(r, d), List.mem_singleton_self _, ?_⟩
    simp [Line.accepted, harrived, hsuccess]
  | leads _ _ _ ih =>
    obtain ⟨l, hmem, haccepted⟩ := ih hsuccess
    exact ⟨l, List.mem_cons_of_mem _ hmem, haccepted⟩

/-- A request whose answer leads elsewhere is not accepted by it. -/
theorem not_accepted_of_location {d : Delivery} {a : Received} {location : Url}
    (harrived : d.arrived? = some a) (hlocation : location? r a.response = some location) :
    Line.accepted (r, d) = false := by
  have hredirect := isRedirect_of_location? hlocation
  cases haccepted : a.response.isSuccess with
  | true =>
    rw [isRedirect_of_isSuccess haccepted] at hredirect
    cases hredirect
  | false => simp [Line.accepted, harrived, haccepted]

/-- Where no answer turns a request, all of its chain repeat it. -/
theorem repeats (h : Chain r lines answer) (hkept : ∀ l ∈ lines, l.turned = false) :
    ∀ l ∈ lines, l.1.method = r.method ∧ l.1.body = r.body := by
  induction h with
  | ends => simp
  | @leads r d a _ location _ harrived _ _ ih =>
    obtain ⟨hfirst, hrest⟩ := List.forall_mem_cons.1 hkept
    have hstatus : turnsToGet r.method a.response.status = false := by
      simpa [Line.turned, harrived] using hfirst
    obtain ⟨hmethod, hbody⟩ := redirected_of_not_turnsToGet hstatus location
    rw [hmethod, hbody] at ih
    exact List.forall_mem_cons.2 ⟨⟨rfl, rfl⟩, ih hrest⟩

/-- A request that only reads leads to such requests only. -/
theorem reads (h : Chain r lines answer) (hmethod : r.method = .get) (hbody : r.body = none) :
    ∀ l ∈ lines, l.1.method = .get ∧ l.1.body = none := by
  induction h with
  | ends => simp [hmethod, hbody]
  | @leads r d a _ location _ _ _ _ ih =>
    have hnext : (redirected r a.response.status location).method = .get ∧
        (redirected r a.response.status location).body = none := by
      cases hturns : turnsToGet r.method a.response.status with
      | true => exact redirected_of_turnsToGet hturns location
      | false =>
        obtain ⟨hsame, hcontent⟩ := redirected_of_not_turnsToGet hturns location
        exact ⟨hsame.trans hmethod, hcontent.trans hbody⟩
    exact List.forall_mem_cons.2 ⟨⟨hmethod, hbody⟩, ih hnext.1 hnext.2⟩

/-- Where an answer turns a request, what is accepted in the end only reads. -/
theorem reads_of_turned (h : Chain r lines answer) (hturned : ∃ l ∈ lines, l.turned = true) :
    ∀ l ∈ lines, l.accepted = true → l.1.method = .get ∧ l.1.body = none := by
  induction h with
  | @ends r d a harrived _ =>
    -- A success is no redirect, so the one line of this chain is not both.
    intro l hl haccepted
    obtain ⟨turning, hmem, hturns⟩ := hturned
    rw [List.mem_singleton.1 hl] at haccepted ⊢
    rw [List.mem_singleton.1 hmem] at hturns
    simp only [Line.accepted, Line.turned, harrived, Option.any_some] at haccepted hturns
    have hstatus := isRedirect_of_isSuccess haccepted
    simp [turnsToGet, isRedirect] at hturns hstatus
    omega
  | @leads r d a _ location lines harrived hlocation hrest ih =>
    have hpassed := not_accepted_of_location harrived hlocation
    intro l hl haccepted
    cases hl with
    | head =>
      rw [hpassed] at haccepted
      cases haccepted
    | tail _ hl =>
      obtain ⟨turning, hmem, hturns⟩ := hturned
      cases hmem with
      | head =>
        have hstatus : turnsToGet r.method a.response.status = true := by
          simpa [Line.turned, harrived] using hturns
        obtain ⟨hmethod, hbody⟩ := redirected_of_turnsToGet hstatus location
        exact hrest.reads hmethod hbody l hl
      | tail _ hmem => exact ih ⟨turning, hmem, hturns⟩ l hl haccepted

end Chain

/-- What an exchange that ends with an answer adds to the transcript is a chain from its request to
that answer. -/
theorem Network.Plays.exists_chain {script : List Delivery} {n : Network} (hplays : n.Plays script)
    (timeout : Duration) (left : Nat) (shown : Url) {r : Request} {answer : Received}
    (h : (sendFrom timeout left shown r n).result = .ok answer) :
    ∃ lines, Chain r lines answer ∧
      (sendFrom timeout left shown r n).network.transcript script =
        n.transcript script ++ lines := by
  induction left using Nat.strongRecOn generalizing shown r n with
  | ind left ih =>
  obtain ⟨hafter, htranscript⟩ := hplays.deliver r
  unfold sendFrom at h ⊢
  revert hafter htranscript h
  obtain ⟨d, after⟩ := n.deliver r
  intro hafter htranscript h
  cases d with
  | dropped | silent => cases h
  | answered response | cutShort response =>
    dsimp only at h ⊢
    cases hlocation : location? r response with
    | none =>
      rw [hlocation] at h
      cases h
      exact ⟨[_], .ends rfl hlocation, htranscript⟩
    | some location =>
      rw [hlocation] at h
      cases left with
      | zero => cases h
      | succ left =>
        dsimp only at h ⊢
        split at h
        · next hsendable =>
          obtain ⟨lines, hchain, hlines⟩ := ih left (Nat.lt_succ_self left) hafter location h
          rw [if_pos hsendable, hlines, htranscript, List.append_assoc]
          refine ⟨_, ?_, rfl⟩
          exact .leads (a := ⟨response, _⟩) rfl hlocation hchain
        · cases h

end Http

open Http

/-- What the transcript shows of a request that is reported as a success. -/
structure Reported (method : Method) (body : Option Bytes) (lines : List Line) : Prop where
  /-- redirects lead from the request itself to a success -/
  chain : ∃ r answer, Chain r lines answer ∧ r.method = method ∧ r.body = body ∧
    answer.response.isSuccess = true
  /-- it was accepted itself exactly where no answer has turned it -/
  accepted_iff : (∃ l ∈ lines, l.accepted = true ∧ l.1.method = method ∧ l.1.body = body) ↔
    ∀ l ∈ lines, l.turned = false
  /-- where one has, nothing was accepted but a request that only reads -/
  reads_of_turned : (∃ l ∈ lines, l.turned = true) →
    ∀ l ∈ lines, l.accepted = true → l.1.method = .get ∧ l.1.body = none

/-- A chain of redirects that ends with a success is one that a mutating call reports. -/
theorem reported_of_chain {r : Request} {lines : List Line} {answer : Received}
    (h : Chain r lines answer) (hsuccess : answer.response.isSuccess = true)
    (hchanges : r.method ≠ .get) : Reported r.method r.body lines where
  chain := ⟨r, answer, h, rfl, rfl, hsuccess⟩
  accepted_iff := by
    constructor
    · rintro ⟨l, hl, haccepted, hmethod, -⟩ turning hmem
      cases hturned : turning.turned with
      | false => rfl
      | true =>
        obtain ⟨hget, -⟩ := h.reads_of_turned ⟨turning, hmem, hturned⟩ l hl haccepted
        exact absurd (hmethod.symm.trans hget) hchanges
    · intro hkept
      obtain ⟨l, hl, haccepted⟩ := h.exists_accepted hsuccess
      exact ⟨l, hl, haccepted, h.repeats hkept l hl⟩
  reads_of_turned := h.reads_of_turned

/-- A client makes a request with the method and the content that it is given. -/
theorem Client.method_of_request {c : Client} {method : Method} {path : List Char}
    {query : List (String × String)} {payload : Option Payload} {shown : Url} {r : Request}
    (h : c.request method path query payload = .ok (shown, r)) :
    r.method = method ∧ r.body = payload.map Payload.data := by
  unfold request at h
  obtain ⟨url, -, h⟩ := exists_of_bind_eq_ok h
  dsimp only at h
  split at h
  · cases h
  split at h
  · cases h
  · cases h
    exact ⟨rfl, rfl⟩

/-- What is judged a success is an answer with the status of one. -/
theorem Client.judged_eq_ok {outcome : Except Http.Failure Received} {answer : Received}
    (h : judged outcome = .ok answer) :
    outcome = .ok answer ∧ answer.response.isSuccess = true := by
  cases outcome with
  | error f => cases h
  | ok received =>
    dsimp only [judged] at h
    split at h
    · next hsuccess =>
      cases h
      exact ⟨rfl, hsuccess⟩
    · cases h

section

variable {c : Client} {script : List Http.Delivery} {n : Network}

/-- A success of an exchange is the end of a chain that begins with its own request. -/
theorem Client.reported_of_exchange (hplays : n.Plays script) {method : Method} {path : List Char}
    {query : List (String × String)} {payload : Option Payload} {answer : Received}
    (hchanges : method ≠ .get)
    (h : (c.exchange method path query payload n).answer = .ok answer) :
    ∃ lines, (c.exchange method path query payload n).state.transcript script =
        n.transcript script ++ lines ∧
      Reported method (payload.map Payload.data) lines := by
  cases hrequest : c.request method path query payload with
  | error f =>
    rw [exchange_of_error hrequest] at h
    cases h
  | ok prepared =>
    obtain ⟨shown, r⟩ := prepared
    obtain ⟨hmethod, hbody⟩ := method_of_request hrequest
    obtain ⟨hjudged, hstate⟩ := exchange_of_request hrequest n
    rw [hjudged] at h
    obtain ⟨hresult, hsuccess⟩ := judged_eq_ok h
    obtain ⟨lines, hchain, hlines⟩ := hplays.exists_chain _ _ _ hresult
    rw [← hmethod] at hchanges
    have hreported := reported_of_chain hchain hsuccess hchanges
    rw [hmethod, hbody] at hreported
    rw [hstate]
    exact ⟨lines, hlines, hreported⟩

/-- What is made of an answer does not touch the network. -/
theorem Client.andThen_state {α β : Type} (r : CallReply α) (f : α → Except StoreError β) :
    (andThen r f).state = r.state :=
  rfl

/-- A call that goes on with an exchange reports what that does. -/
theorem Client.reported_of_andThen (hplays : n.Plays script) {method : Method} {path : List Char}
    {query : List (String × String)} {payload : Option Payload} {α : Type}
    {f : Received → Except StoreError α} {x : α} (hchanges : method ≠ .get)
    (h : (andThen (c.exchange method path query payload n) f).answer = .ok x) :
    ∃ lines,
      (andThen (c.exchange method path query payload n) f).state.transcript script =
        n.transcript script ++ lines ∧
      Reported method (payload.map Payload.data) lines := by
  obtain ⟨answer, hanswer, -⟩ := exists_of_bind_eq_ok h
  rw [andThen_state]
  exact reported_of_exchange hplays hchanges hanswer

end

/-- What a success of each call that changes the store stands for. -/
theorem reported_changes (c : Client) {script : List Http.Delivery} {n : Network}
    (hplays : n.Plays script) :
    (∀ desired s, (c.insert desired n).answer = .ok s → ∃ lines,
      (c.insert desired n).state.transcript script = n.transcript script ++ lines ∧
        Reported .post (some (Client.snapshotPayload desired).data) lines) ∧
    (∀ desired s, (c.update desired n).answer = .ok s → ∃ lines,
      (c.update desired n).state.transcript script = n.transcript script ++ lines ∧
        Reported .put (some (Client.snapshotPayload desired).data) lines) ∧
    (∀ bucket, (c.delete bucket n).answer = .ok () → ∃ lines,
      (c.delete bucket n).state.transcript script = n.transcript script ++ lines ∧
        Reported .delete none lines) ∧
    ∀ u payload info, (c.upload u payload n).answer = .ok info → ∃ lines,
      (c.upload u payload n).state.transcript script = n.transcript script ++ lines ∧
        Reported .post (some payload.data) lines := by
  refine ⟨fun desired s h => ?_, fun desired s h => ?_, fun bucket h => ?_,
    fun u payload info h => ?_⟩
  · unfold Client.insert at h ⊢
    cases hproject : c.config.project with
    | none =>
      rw [hproject] at h
      cases h
    | some project =>
      rw [hproject] at h
      exact Client.reported_of_andThen hplays (by decide) h
  · unfold Client.update at h ⊢
    exact Client.reported_of_andThen hplays (by decide) h
  · unfold Client.delete at h ⊢
    exact Client.reported_of_andThen hplays (by decide) h
  · unfold Client.upload at h ⊢
    split at h
    · cases h
    · next hobject =>
      rw [if_neg hobject]
      exact Client.reported_of_andThen hplays (by decide) h

/-- A client that may create buckets on a local server. -/
def projectClient : Client :=
  ⟨{ (localClient none).config with project := some "build" }⟩

/-- A new bucket, and an answer that carries it. -/
def newBucket : Snapshot := .named "ci-artifacts"

def newBucketAnswer : Response := ⟨200, [], Text.utf8Bytes newBucket.toText⟩

/-- A server that has moved for a while is sent the request again, and accepts it. -/
theorem accepted_of_moved_server :
    let script := [.answered ⟨307, [("location", "/elsewhere")], []⟩, .answered newBucketAnswer]
    let reply := projectClient.insert newBucket (.scripted script)
    reply.answer = .ok newBucket ∧ ∃ l ∈ reply.state.transcript script,
      l.accepted = true ∧ l.1.method = .post ∧
        l.1.body = some (Client.snapshotPayload newBucket).data := by
  intro script reply
  have hanswer : reply.answer = .ok newBucket := by decide +kernel
  obtain ⟨hinsert, -⟩ := reported_changes projectClient (Network.plays_scripted script)
  obtain ⟨lines, hlines, hreported⟩ := hinsert newBucket newBucket hanswer
  have hkept : ∀ l ∈ reply.state.transcript script, l.turned = false := by decide +kernel
  rw [hlines] at hkept ⊢
  exact ⟨hanswer, hreported.accepted_iff.2 hkept⟩

/-- A bucket counts as created, with a client and with a reconciliation, although all that was ever
accepted is to read a page that the answer to its creation named. -/
theorem created_by_reading :
    let elsewhere : Response := ⟨302, [("location", "/elsewhere")], []⟩
    let script := [.answered elsewhere, .answered newBucketAnswer]
    let reply := projectClient.insert newBucket (.scripted script)
    let absent := .answered ⟨404, [], []⟩ :: script
    let run := Reconciler.standard.run projectClient.handler "ci-artifacts"
      (Expiring.decorate ⟨30⟩) (Expiring.check ⟨30⟩) 0 (.scripted absent)
    reply.answer = .ok newBucket ∧
      (∀ l ∈ reply.state.transcript script, l.accepted = true →
        ¬(l.1.method = .post ∧ l.1.body = some (Client.snapshotPayload newBucket).data)) ∧
      (Reconciler.standard.result? "ci-artifacts" run.ending).bind Except.toOption =
        some ⟨"ci-artifacts", .doesNotExist, newBucket, 1, 0⟩ ∧
      ∀ l ∈ run.state.transcript absent, l.accepted = true →
        l.1.method = .get ∧ l.1.body = none := by
  decide +kernel

end BucketLifecycle
