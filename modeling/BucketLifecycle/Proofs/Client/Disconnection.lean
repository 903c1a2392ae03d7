import BucketLifecycle.Proofs.Client.HttpRetries

/-!
# Connections that fail

A connection can fail before an answer has arrived, or while the body of an answer is still on its
way.  The two come to different ends.  Without an answer, the operation fails transiently, and a
retry policy makes it again as long as it allows for another attempt.  A success whose body breaks
off counts as one that cannot be decoded, which no policy tries again.

Either may happen behind redirects. `Breaks` follows them to the request whose connection fails, and
`connection_failures` says what each operation of a client makes of it.
-/

set_option autoImplicit false

namespace BucketLifecycle

open Http

/-- Where a connection fails. -/
inductive Break where
  /-- before there is an answer: it is closed, or silent until the time for the request is over -/
  | unanswered
  /-- in the body of a success -/
  | inBody
  deriving DecidableEq

/-- The connection fails for a request, or for one that it leads to by at most `left` redirects. -/
inductive Breaks : Nat → Request → Network → Break → Prop where
  | dropped {left : Nat} {r : Request} {n : Network} (h : (n.deliver r).1 = .dropped) :
    Breaks left r n .unanswered
  | silent {left : Nat} {r : Request} {n : Network} (h : (n.deliver r).1 = .silent) :
    Breaks left r n .unanswered
  | cutShort {left : Nat} {r : Request} {n : Network} {response : Response}
      (h : (n.deliver r).1 = .cutShort response) (hsuccess : response.isSuccess = true) :
    Breaks left r n .inBody
  | behind {left : Nat} {r : Request} {n : Network} {kind : Break} {a : Received} {location : Url}
      (h : (n.deliver r).1.arrived? = some a) (hlocation : location? r a.response = some location)
      (hsendable : location.isSendable = true)
      (hrest : Breaks left (redirected r a.response.status location) (n.deliver r).2 kind) :
    Breaks (left + 1) r n kind

/-- What is left of a request whose connection fails. -/
def Break.Leaves : Break → Except Http.Failure Received → Prop
  | .unanswered, result => ∃ url, result = .error (.sending url)
  | .inBody, result => ∃ response, result = .ok ⟨response, false⟩ ∧ response.isSuccess = true

/-- A success does not redirect. -/
theorem isRedirect_of_isSuccess {a : Response} (h : a.isSuccess = true) :
    isRedirect a.status = false := by
  simp only [Response.isSuccess, Bool.and_eq_true, decide_eq_true_eq] at h
  simp only [isRedirect, List.contains_eq_mem, List.mem_cons, List.not_mem_nil, or_false,
    decide_eq_false_iff_not]
  omega

/-- Redirects are followed to the request whose connection fails, and what is left of that one is
left of them all. -/
theorem leaves_of_breaks {left : Nat} {r : Request} {n : Network} {kind : Break}
    (h : Breaks left r n kind) (timeout : Duration) (shown : Url) :
    kind.Leaves (Network.sendFrom timeout left shown r n).result := by
  -- The induction is along the redirects; only the URL that a failure shows changes on the way.
  induction h generalizing shown with
  | @dropped left r n h | @silent left r n h =>
    unfold Network.sendFrom
    revert h
    obtain ⟨d, after⟩ := n.deliver r
    rintro rfl
    exact ⟨shown, rfl⟩
  | @cutShort left r n response h hsuccess =>
    have hstays := Network.location?_eq_none r (isRedirect_of_isSuccess hsuccess)
    unfold Network.sendFrom
    revert h
    obtain ⟨d, after⟩ := n.deliver r
    rintro rfl
    dsimp only
    rw [hstays]
    exact ⟨response, rfl, hsuccess⟩
  | @behind left r n kind a location h hlocation hsendable hrest ih =>
    have hnext := ih location
    unfold Network.sendFrom
    revert h hnext
    obtain ⟨d, after⟩ := n.deliver r
    intro h hnext
    cases d with
    | dropped | silent => cases h
    | answered response | cutShort response =>
      cases h
      dsimp only at hlocation hnext ⊢
      rw [hlocation]
      dsimp only
      rw [if_pos hsendable]
      exact hnext

/-- The failure of a success whose body breaks off. -/
def brokenOff : StoreError :=
  .decode "error decoding response body"

/-- What an operation comes to whose connection fails. -/
def Break.Fails {α : Type} : Break → Except StoreError α → Prop
  | .unanswered, answer => ∃ m, answer = .error (.transport m)
  | .inBody, answer => answer = .error brokenOff

/-- The request of an operation can be made, and the connection for it fails. -/
def Client.Breaks {α : Type} (c : Client) (o : Inquiry α) (n : Network) (kind : Break) : Prop :=
  ∃ shown r, c.prepare o = .ok (shown, r) ∧ BucketLifecycle.Breaks maxRedirects r n kind

/-- An operation whose exchange breaks fails in the way of the break. -/
theorem Client.fails_of_breaks {α : Type} {c : Client} {o : Inquiry α} {n : Network} {kind : Break}
    (h : c.Breaks o n kind) : kind.Fails (c.perform o n).answer := by
  obtain ⟨shown, r, hprepare, hbreaks⟩ := h
  have hleaves := leaves_of_breaks hbreaks c.config.timeout shown
  rw [(perform_of_request hprepare n).1, Network.send]
  cases kind with
  | unanswered =>
    obtain ⟨url, hresult⟩ := hleaves
    rw [hresult]
    exact ⟨_, rfl⟩
  | inBody =>
    obtain ⟨response, hresult, hsuccess⟩ := hleaves
    rw [hresult]
    show (Client.judged (.ok ⟨response, false⟩)).bind o.read = .error brokenOff
    unfold Client.judged
    dsimp only
    rw [if_pos hsuccess]
    rfl

/-- How a call ends whose connection fails, and what a retry policy makes of it. -/
structure Disconnects {α : Type} (call : Network → CallReply α) (n : Network) (kind : Break) :
    Prop where
  fails : kind.Fails (call n).answer
  /-- an answer that did not come is asked for again, as long as the policy allows for it -/
  repeated : kind = .unanswered → ∀ {ι : Type} (p : RetryPolicy)
    (handler : Handler Network ι (Except StoreError α)) (x : ι), (∀ now, handler now x = call) →
    ∀ room made now, made + 1 ≤ p.maxRetries.toNat → ∃ later,
      (p.attempt x (room + 1) made).run handler none now n =
        ((p.attempt x room (made + 1)).run handler none later (call n).state).after
          [⟨x, now, (call n).answer⟩]
  /-- a success that broke off is not -/
  final : kind = .inBody → ∀ {ι : Type} (p : RetryPolicy)
    (handler : Handler Network ι (Except StoreError α)) (x : ι), (∀ now, handler now x = call) →
    ∀ room made now, ∃ later, (p.attempt x (room + 1) made).run handler none now n =
      ⟨.finished (.error (.permanent brokenOff)), [⟨x, now, .error brokenOff⟩], later,
        (call n).state⟩

/-- A transient failure is followed by a pause and another attempt where the policy has one left. -/
theorem run_attempt_of_transient {σ ι β : Type} {p : RetryPolicy}
    {handler : Handler σ ι (Except StoreError β)} {x : ι} {made : Nat} {now : Instant} {s : σ}
    {e : StoreError} (hanswer : (handler now x s).answer = .error e)
    (hkind : e.isTransient = true) (hleft : made + 1 ≤ p.maxRetries.toNat) (room : Nat) :
    (p.attempt x (room + 1) made).run handler none now s =
      ((p.attempt x room (made + 1)).run handler none
        (now + (handler now x s).delay.ticks + (p.delay (made + 1)).ticks)
        (handler now x s).state).after [⟨x, now, .error e⟩] := by
  rw [RetryPolicy.attempt, Program.run_call]
  dsimp only [Program.untilDeadline]
  rw [hanswer]
  dsimp only
  rw [if_pos hkind, if_neg (by omega), Program.run_pause]
  rfl

/-- Any other failure is the end of the attempts. -/
theorem run_attempt_of_permanent {σ ι β : Type} {p : RetryPolicy}
    {handler : Handler σ ι (Except StoreError β)} {x : ι} {now : Instant} {s : σ}
    {e : StoreError} (hanswer : (handler now x s).answer = .error e)
    (hkind : e.isTransient = false) (room made : Nat) :
    (p.attempt x (room + 1) made).run handler none now s =
      ⟨.finished (.error (.permanent e)), [⟨x, now, .error e⟩],
        now + (handler now x s).delay.ticks, (handler now x s).state⟩ := by
  rw [RetryPolicy.attempt, Program.run_call]
  dsimp only [Program.untilDeadline]
  rw [hanswer]
  dsimp only
  rw [if_neg (by simp [hkind])]
  rfl

/-- A call that fails in the way of a break is one that disconnects. -/
theorem disconnects_of_fails {α : Type} {call : Network → CallReply α} {n : Network} {kind : Break}
    (h : kind.Fails (call n).answer) : Disconnects call n kind := by
  refine ⟨h, ?_, ?_⟩
  · rintro rfl ι p handler x hcall room made now hleft
    obtain ⟨m, hanswer⟩ := h
    rw [← hcall now] at hanswer ⊢
    have hrun := run_attempt_of_transient hanswer rfl hleft room
    rw [← hanswer] at hrun
    exact ⟨_, hrun⟩
  · rintro rfl ι p handler x hcall room made now
    have hanswer : (call n).answer = .error brokenOff := h
    rw [← hcall now] at hanswer ⊢
    exact ⟨_, run_attempt_of_permanent hanswer rfl room made⟩

/-- What each operation of a client comes to when the connection for its request fails: without an
answer it fails transiently and is made again under a retry policy that allows for it, and a success
whose body breaks off fails for good. -/
theorem connection_failures (c : Client) {n : Network} {kind : Break} :
    (∀ bucket, c.Breaks (.get bucket) n kind → Disconnects (c.get bucket) n kind) ∧
    (∀ project desired, c.config.project = some project →
      c.Breaks (.insert project desired) n kind → Disconnects (c.insert desired) n kind) ∧
    (∀ desired, c.Breaks (.update desired) n kind → Disconnects (c.update desired) n kind) ∧
    (∀ u payload, u.NamesObject → c.Breaks (.upload u payload) n kind →
      Disconnects (c.upload u payload) n kind) ∧
    ∀ u, c.Breaks (.download u) n kind → Disconnects (c.download u) n kind := by
  refine ⟨fun bucket h => ?_, fun project desired hproject h => ?_, fun desired h => ?_,
    fun u payload hobject h => ?_, fun u h => ?_⟩
  · rw [c.get_eq]
    exact disconnects_of_fails (Client.fails_of_breaks h)
  · rw [Client.insert_eq hproject]
    exact disconnects_of_fails (Client.fails_of_breaks h)
  · rw [c.update_eq]
    exact disconnects_of_fails (Client.fails_of_breaks h)
  · rw [Client.upload_eq hobject]
    exact disconnects_of_fails (Client.fails_of_breaks h)
  · rw [c.download_eq]
    exact disconnects_of_fails (Client.fails_of_breaks h)

/-- The answer to a download breaks off behind a redirect, and a policy that would try again does
not. -/
theorem disconnects_of_broken_download :
    let elsewhere : Response := ⟨307, [("location", "/elsewhere")], []⟩
    let n := Network.scripted [.answered elsewhere, .cutShort ⟨200, [], [0x61]⟩]
    let c := localClient none
    c.Breaks (.download artifact) n .inBody ∧ (c.download artifact n).answer = .error brokenOff ∧
      ∃ later, ((RetryPolicy.immediate 3).execute artifact).run
          (fun _ u n => c.download u n) none 0 n =
        ⟨.finished (.error (.permanent brokenOff)), [⟨artifact, 0, .error brokenOff⟩], later,
          (c.download artifact n).state⟩ := by
  intro elsewhere n c
  have hleads : ((c.prepare (.download artifact)).toOption.bind fun prepared =>
      (location? prepared.2 elsewhere).filter Url.isSendable).isSome = true := by
    decide +kernel
  have hbreaks : c.Breaks (.download artifact) n .inBody := by
    obtain ⟨location, hlocation⟩ := Option.isSome_iff_exists.1 hleads
    obtain ⟨⟨shown, r⟩, hprepare, hfilter⟩ := Option.bind_eq_some_iff.1 hlocation
    rw [Option.filter_eq_some_iff] at hfilter
    have hrest : Breaks 9 (redirected r 307 location) (n.deliver r).2 .inBody :=
      .cutShort rfl rfl
    exact ⟨shown, r, toOption_eq_some hprepare,
      .behind (a := ⟨elsewhere, true⟩) rfl hfilter.1 hfilter.2 hrest⟩
  obtain ⟨room, hroom⟩ : ∃ room, counterLimit = room + 1 := ⟨_, rfl⟩
  obtain ⟨-, -, -, -, hdownload⟩ := @connection_failures c n .inBody
  have hdisconnects := hdownload artifact hbreaks
  refine ⟨hbreaks, hdisconnects.fails, ?_⟩
  unfold RetryPolicy.execute
  rw [hroom]
  exact hdisconnects.final rfl (.immediate 3) _ artifact (fun _ => rfl) room 0 0

/-- An object whose content breaks off is not asked for again, although the policy allows for a
retry and the whole content is there to be had. -/
theorem not_retried_of_broken_body :
    let script := [.cutShort ⟨200, [], Text.utf8Bytes "abc"⟩,
      .answered ⟨200, [], Text.utf8Bytes "fine"⟩]
    let transferred := downloadTo (localClient none) (.immediate 1) artifact none [0x6F]
      (.scripted script) .empty
    transferred.result = some (.error (.remote "ci-artifacts" .download brokenOff)) ∧
      brokenOff.isTransient = false ∧ transferred.network.received.length = 1 ∧
      transferred.files = .empty := by
  decide +kernel

end BucketLifecycle
