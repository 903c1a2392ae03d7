import BucketLifecycle.Command.Execute
import BucketLifecycle.Proofs.Client.Exchanges
import BucketLifecycle.Proofs.Policy.Converging
import BucketLifecycle.Proofs.Reconcile.Precedence

/-!
# From the command to the wire

What making the objects of a bucket expire does, seen on the requests that arrive at the server and
on the answers to them.  A command that succeeds has its success from the last line of the
transcript (`Settled`); and a request that changes the bucket comes after a reading that asks for
it, with nothing but earlier attempts at the same request in between (`Follows.prompts` and
`Reconciler.exists_reading`, carried over by `Client.Logged`).

The settings, the bucket, the deadline and the script are arbitrary, but for the endpoint, which is
a plain one, and for redirects, of which there are none.
-/

set_option autoImplicit false

namespace BucketLifecycle

open Http

/-- A request was answered with a success. -/
def IsAccepted (line : Line) : Prop :=
  ∃ response, line.2 = .answered response ∧ response.isSuccess = true

/-- A reading of a bucket was answered with a success, and its body reads as a snapshot. -/
structure ReadsAs (c : ClientConfig) (bucket : String) (found : Snapshot) (line : Line) : Prop where
  reading : IsReading c bucket line.1
  found : ∃ response, line.2 = .answered response ∧ response.isSuccess = true ∧
    Snapshot.ofText response.text = .ok found

/-- A reading of a bucket was answered with the status that says that there is none. -/
structure ReadsNothing (c : ClientConfig) (bucket : String) (line : Line) : Prop where
  reading : IsReading c bucket line.1
  absent : ∃ a, line.2.arrived? = some a ∧ a.response.status = 404

/-- A snapshot of a bucket with a single rule, which deletes objects at an age and asks for nothing
else. -/
structure Expires (bucket : String) (days : UInt32) (s : Snapshot) : Prop where
  name_eq : s.name = bucket
  rules_eq : s.lifecycle.rules = [⟨⟨"Delete", none⟩, ⟨some days, none, none, none, []⟩⟩]

/-- What the last line of a command that succeeds can be. -/
inductive Settled (c : ClientConfig) (bucket : String) (days : UInt32) (line : Line) : Prop
  | kept {found : Snapshot} (hread : ReadsAs c bucket found line)
      (haccepts : (Expiring.mk days).accepts found = true)
  | created {desired : Snapshot} (hrequest : IsCreation c desired line.1)
      (hdesired : Expires bucket days desired) (haccepted : IsAccepted line)
  | replaced {desired : Snapshot} (hrequest : IsReplacement c bucket desired line.1)
      (hdesired : Expires bucket days desired) (haccepted : IsAccepted line)

/-- The lines before a request are some lines, a certain one, and earlier attempts at the same
request. -/
def ComesAfter (before : List Line) (line : Line) (P : Line → Prop) : Prop :=
  ∃ earlier first retries, before = earlier ++ first :: retries ∧ P first ∧
    ∀ retry ∈ retries, retry.1 = line.1

/-- A bucket that is decorated for a policy expires as the policy says, in the form in which it is
sent. -/
theorem Expiring.expires_decorate (p : Expiring) {bucket : String} {s : Snapshot}
    (h : (p.decorate s).Acceptable bucket) : Expires bucket p.days (p.decorate s).settled :=
  ⟨h.name_eq, rfl⟩

/-- The transcript of a reconciliation holds its attempts, as far as they are sent. -/
theorem Client.logged_reconciliation (c : Client) {script : List Http.Delivery}
    (hscript : ∀ d ∈ script, d.redirects = false) (r : Reconciler) (bucket : String)
    (decorate : Decorator) (check : Checker) (now : Instant) :
    c.Logged (r.run c.handler bucket decorate check now (.scripted script)).exchanges
      ((r.run c.handler bucket decorate check now (.scripted script)).state.transcript script) := by
  obtain ⟨lines, htranscript, hlogged⟩ := Client.logs_run (c := c) hscript (r.limitFrom now)
    (r.program bucket decorate check) now (.scripted script) (Network.plays_scripted script)
  have hempty : (Network.scripted script).transcript script = [] := rfl
  rw [hempty, List.nil_append] at htranscript
  unfold Reconciler.run
  rw [htranscript]
  exact hlogged

section

variable {config : ClientConfig} {c : Client} (hclient : Client.ofConfig config = .ok c)
  (hplain : config.HasPlainEndpoint) {bucket : String}
  (hname : checkName bucket.toList = .ok ()) {script : List Http.Delivery}
  (hscript : ∀ d ∈ script, d.redirects = false) {r : Reconciler} {p : Expiring}
  {run : Run Network BucketCall (Except StoreError Snapshot) (Except LifecycleError Outcome)}
  (hrun : run = r.run c.handler bucket p.decorate p.check 0 (.scripted script))

include hclient hplain hname hscript hrun

/-- A reconciliation that succeeds does so by the last line of its transcript. -/
theorem exists_settled {o : Outcome} (h : run.ending = .finished (.ok o)) :
    ∃ last, (run.state.transcript script).getLast? = some last ∧
      Settled config bucket p.days last := by
  have hlogged := c.logged_reconciliation hscript r bucket p.decorate p.check 0
  subst hrun
  obtain ⟨last, stored, hlast, hanswer, hcases⟩ := r.exists_last _ _ _ _ _ _ h
  obtain ⟨init, hinit⟩ := List.getLast?_eq_some_iff.1 hlast
  rw [hinit] at hlogged
  obtain ⟨before, after, htranscript, -, hafter⟩ := hlogged.exists_append
  obtain ⟨line, rest, rfl, hwrites, hrest⟩ := hafter.exists_line (by simp [hanswer])
  -- No attempt comes behind the last one, and so no line.
  cases hrest
  refine ⟨line, by rw [htranscript, List.getLast?_concat], ?_⟩
  obtain ⟨shown, hprepared, hheard⟩ := hwrites
  obtain ⟨response, hresponse, hsuccess, hread⟩ := Client.heard_eq_ok (hheard.symm.trans hanswer)
  rcases hcases with ⟨hget, kept, hcheck⟩ | ⟨s, hinsert | hupdate, hacceptable⟩
  · rw [hget] at hprepared
    have hreading := isReading_of_prepared hclient hplain hname hprepared
    exact .kept ⟨hreading, response, hresponse, hsuccess, hread⟩ (p.accepts_of_compliant hcheck)
  · rw [hinsert] at hprepared
    have hcreation := isCreation_of_prepared hclient hplain hprepared
    exact .created hcreation (p.expires_decorate hacceptable) ⟨response, hresponse, hsuccess⟩
  · rw [hupdate] at hprepared
    have hreplacement :=
      isReplacement_of_prepared hclient hplain hname hacceptable.name_eq hprepared
    exact .replaced hreplacement (p.expires_decorate hacceptable) ⟨response, hresponse, hsuccess⟩

/-- A line that changes the bucket comes after the reading that prompts it. -/
theorem exists_changing {before after : List Line} {line : Line}
    (h : run.state.transcript script = before ++ line :: after)
    (hmethod : line.1.method ≠ .get) :
    ∃ desired, Expires bucket p.days desired ∧
      ((IsCreation config desired line.1 ∧ ComesAfter before line (ReadsNothing config bucket)) ∨
        (IsReplacement config bucket desired line.1 ∧ ComesAfter before line fun get =>
          ∃ found, ReadsAs config bucket found get ∧ p.accepts found = false)) := by
  have hlogged := c.logged_reconciliation hscript r bucket p.decorate p.check 0
  subst hrun
  obtain ⟨earlier, attempt, later, hattempts, ⟨shown, hprepared, -⟩, hbefore⟩ :=
    hlogged.exists_attempt h
  have hmem : attempt ∈
      (r.run c.handler bucket p.decorate p.check 0 (.scripted script)).exchanges := by
    rw [hattempts]
    exact List.mem_append_cons_self
  rcases r.attempt_cases _ _ _ _ _ _ hmem with hget | hsends
  · rw [hget] at hprepared
    exact absurd (isReading_of_prepared hclient hplain hname hprepared).method hmethod
  obtain ⟨front, reading, retries, rfl, hretries, hreading, hprompts⟩ :=
    r.exists_reading _ _ _ _ _ _ hattempts hsends.ne_get
  -- The reading has been sent, since it was answered; the repetitions have written what `line` is.
  obtain ⟨lines, back, rfl, -, hback⟩ := hbefore.exists_append
  obtain ⟨get, rest, rfl, ⟨seen, hasked, hheard⟩, hrest⟩ := hback.exists_line hprompts.isNotFound
  rw [hreading] at hasked
  have hget := isReading_of_prepared hclient hplain hname hasked
  have hsame := hrest.request_eq hprepared hretries
  obtain ⟨s, hinsert | hupdate, hacceptable⟩ := hsends
  · rw [hinsert] at hprepared hprompts
    obtain ⟨m, hanswer⟩ := hprompts
    have habsent := Client.heard_eq_notFound (hheard.symm.trans hanswer)
    refine ⟨_, p.expires_decorate hacceptable, .inl ⟨?_, lines, get, rest, rfl, ?_, hsame⟩⟩
    · exact isCreation_of_prepared hclient hplain hprepared
    · exact ⟨hget, habsent⟩
  · rw [hupdate] at hprepared hprompts
    obtain ⟨found, drifted, hanswer, hcheck, -⟩ := hprompts
    have hfound := Client.heard_eq_ok (hheard.symm.trans hanswer)
    refine ⟨_, p.expires_decorate hacceptable, .inr ⟨?_, lines, get, rest, rfl, ?_, hsame⟩⟩
    · exact isReplacement_of_prepared hclient hplain hname hacceptable.name_eq hprepared
    · exact ⟨found, ⟨hget, hfound⟩, p.accepts_of_nonCompliant hcheck⟩

end

/-- What making the objects of a bucket expire comes to: the command is rejected before any request,
or it is the reconciliation of the bucket with a client for the settings. -/
inductive Expiry (s : Settings) (uri : String) (days : UInt32) (n : Network)
    (executed : Executed) : Prop
  | rejected (hnetwork : executed.network = n) (hresult : executed.result ≠ some (.ok ()))
  | reconciled {c : Client} {bucket : BucketUri}
      {run : Run Network BucketCall (Except StoreError Snapshot) (Except LifecycleError Outcome)}
      (hclient : Client.ofConfig s.client = .ok c) (hbucket : BucketUri.parse uri = .ok bucket)
      (hrun : run = s.reconciler.run c.handler bucket.name (Expiring.decorate ⟨days⟩)
        (Expiring.check ⟨days⟩) 0 n)
      (hnetwork : executed.network = run.state)
      (hresult : executed.result = some (.ok ()) → ∃ o, run.ending = .finished (.ok o))

/-- A command that succeeds has finished its reconciliation with an outcome. -/
theorem Executed.finished_of_ofResult {r : Reconciler} {bucket : String}
    {ending : Ending (Except LifecycleError Outcome)} {n : Network} {files : FileTree}
    (h : (Executed.ofResult (r.result? bucket ending) n files).result = some (.ok ())) :
    ∃ o, ending = .finished (.ok o) := by
  unfold Executed.ofResult Reconciler.result? at h
  cases ending with
  | finished result =>
    cases result with
    | ok o => exact ⟨o, rfl⟩
    | error e => simp [Except.map, Except.mapError] at h
  | deadline => simp [Except.map, Except.mapError] at h
  | overflow => simp at h

/-- The expiry command does what it says, whatever its settings and the network are. -/
theorem execute_expire (s : Settings) (uri : String) (days : UInt32) (cycles : Option UInt32)
    (secs : Option UInt64) (n : Network) (files : FileTree) :
    Expiry s uri days n ((Command.expire uri days cycles secs).execute s n files) := by
  unfold Command.execute
  cases hclient : Client.ofConfig s.client with
  | error e => exact .rejected rfl (by simp [Executed.rejected])
  | ok c =>
    dsimp only [Command.executeWith]
    unfold Reconciler.runUri Reconciler.uriResult?
    cases hbucket : BucketUri.parse uri with
    | error e =>
      refine .rejected rfl ?_
      simp [Executed.ofResult, Reconciler.result?, Except.map, Except.mapError]
    | ok bucket =>
      refine .reconciled hclient hbucket rfl rfl ?_
      exact Executed.finished_of_ofResult

/-- Making the objects of a bucket expire, seen on the wire.  A command that succeeds has its
success from the last answer that arrived; and the bucket is changed only after a reading of it that
asks for the change. -/
theorem expire_endToEnd (s : Settings) (hplain : s.client.HasPlainEndpoint)
    (script : List Http.Delivery) (hscript : ∀ d ∈ script, d.redirects = false) (uri : String)
    (days : UInt32) (cycles : Option UInt32) (secs : Option UInt64) (files : FileTree) :
    let executed := (Command.expire uri days cycles secs).execute s (.scripted script) files
    let log := executed.network.transcript script
    (executed.result = some (.ok ()) → ∃ bucket last, BucketUri.parse uri = .ok bucket ∧
        log.getLast? = some last ∧ Settled s.client bucket.name days last) ∧
      (∀ before line after, log = before ++ line :: after → line.1.method = .put →
        ∃ bucket desired, BucketUri.parse uri = .ok bucket ∧
          IsReplacement s.client bucket.name desired line.1 ∧ Expires bucket.name days desired ∧
          ComesAfter before line fun get => ∃ found,
            ReadsAs s.client bucket.name found get ∧ (Expiring.mk days).accepts found = false) ∧
      ∀ before line after, log = before ++ line :: after → line.1.method = .post →
        ∃ bucket desired, BucketUri.parse uri = .ok bucket ∧
          IsCreation s.client desired line.1 ∧ Expires bucket.name days desired ∧
          ComesAfter before line (ReadsNothing s.client bucket.name) := by
  intro executed log
  have hexpiry := execute_expire s uri days cycles secs (.scripted script) files
  cases hexpiry with
  | rejected hnetwork hresult =>
    have hlog : log = [] := by
      show executed.network.transcript script = []
      rw [hnetwork]
      rfl
    rw [hlog]
    exact ⟨fun h => absurd h hresult, fun _ _ _ h => absurd h (by simp),
      fun _ _ _ h => absurd h (by simp)⟩
  | @reconciled c bucket run hclient hbucket hrun hnetwork hresult =>
    have hname := checkName_of_parse hbucket
    have hlog : log = run.state.transcript script := congrArg (Network.transcript script) hnetwork
    rw [hlog]
    refine ⟨?_, ?_, ?_⟩
    · intro hsuccess
      obtain ⟨o, ho⟩ := hresult hsuccess
      obtain ⟨last, hlast, hsettled⟩ := exists_settled hclient hplain hname hscript hrun ho
      exact ⟨bucket, last, hbucket, hlast, hsettled⟩
    · intro before line after hsplit hmethod
      obtain ⟨desired, hdesired, ⟨hcreation, -⟩ | ⟨hreplacement, hafter⟩⟩ :=
        exists_changing hclient hplain hname hscript hrun hsplit (by simp [hmethod])
      · exact absurd (hcreation.method.symm.trans hmethod) nofun
      · exact ⟨bucket, desired, hbucket, hreplacement, hdesired, hafter⟩
    · intro before line after hsplit hmethod
      obtain ⟨desired, hdesired, ⟨hcreation, hafter⟩ | ⟨hreplacement, -⟩⟩ :=
        exists_changing hclient hplain hname hscript hrun hsplit (by simp [hmethod])
      · exact ⟨bucket, desired, hbucket, hcreation, hdesired, hafter⟩
      · exact absurd (hreplacement.method.symm.trans hmethod) nofun

/-- A command is known to have succeeded from the kind of its result. -/
theorem Executed.result_eq_ok {executed : Executed}
    (h : executed.result.map Except.isOk = some true) : executed.result = some (.ok ()) := by
  rcases executed with ⟨_ | (e | ⟨⟩), n, files⟩
  · cases h
  · cases h
  · rfl

/-- Settings with an endpoint that has a port, a path and a slash at its end. -/
def localSettings : Settings :=
  { Settings.standard with endpoint := "http://[::1]:4443/base/", project := some "ci" }

/-- A bucket that does not exist, and a creation that succeeds at the second attempt. -/
def absentScript : List Http.Delivery :=
  [.answered ⟨404, [], []⟩, .cutShort ⟨503, [], []⟩,
    .answered ⟨200, [], Text.utf8Bytes "\x7b\"name\":\"ci-artifacts\"\x7d"⟩]

/-- The bucket is created after the answer that there is none, and the command succeeds by the
last answer. -/
theorem expire_of_absent_bucket :
    let executed := (Command.expire "gs://ci-artifacts" 30 none none).execute localSettings
      (.scripted absentScript) .empty
    let log := executed.network.transcript absentScript
    localSettings.client.HasPlainEndpoint ∧ (∀ d ∈ absentScript, d.redirects = false) ∧
      executed.result = some (.ok ()) ∧
      log.map (fun line => line.1.method) = [.get, .post, .post] ∧
      ∃ bucket last, BucketUri.parse "gs://ci-artifacts" = .ok bucket ∧
        log.getLast? = some last ∧ Settled localSettings.client bucket.name 30 last := by
  intro executed log
  have hplain : localSettings.client.HasPlainEndpoint :=
    ⟨"[::1]:4443/base/".toList, by decide, by decide, by decide⟩
  have hscript : ∀ d ∈ absentScript, d.redirects = false := by decide
  have hresult : executed.result = some (.ok ()) := Executed.result_eq_ok (by decide +kernel)
  obtain ⟨hsettled, -, -⟩ :=
    expire_endToEnd localSettings hplain absentScript hscript "gs://ci-artifacts" 30 none none
      .empty
  exact ⟨hplain, hscript, hresult, by decide +kernel, hsettled hresult⟩

end BucketLifecycle
