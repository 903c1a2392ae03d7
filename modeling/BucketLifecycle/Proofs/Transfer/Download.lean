import BucketLifecycle.Proofs.Client.Acceptance
import BucketLifecycle.Proofs.Path.Placement

/-!
# Downloads write all or nothing

Every attempt at a download adds lines to the transcript of the network (`Http.Network.Grows`), and
a success has the last word there: a complete answer that is a success, with the content as its body
(`Client.exists_last_answer`).  Only then are there files to be written.

So a download that ends with a path has put the body of the last answer there, and one that ends
without an answer to write has touched no file (`download_allOrNothing`).
-/

set_option autoImplicit false

namespace BucketLifecycle

open Http

namespace Http

/-- A network that has gone on playing its script. -/
structure Network.Grows (script : List Delivery) (n after : Network) : Prop where
  plays : after.Plays script
  exists_lines : ∃ lines, after.transcript script = n.transcript script ++ lines

variable {script : List Delivery} {n : Network}

/-- A network that plays its script has gone on by nothing. -/
theorem Network.Plays.grows (h : n.Plays script) : n.Grows script n :=
  ⟨h, [], (List.append_nil _).symm⟩

/-- Going on twice is going on. -/
theorem Network.Grows.trans {middle after : Network} (h : n.Grows script middle)
    (h' : middle.Grows script after) : n.Grows script after := by
  obtain ⟨lines, hlines⟩ := h.exists_lines
  obtain ⟨more, hmore⟩ := h'.exists_lines
  exact ⟨h'.plays, lines ++ more, by rw [hmore, hlines, List.append_assoc]⟩

/-- A delivery goes on with the script. -/
theorem Network.Plays.grows_deliver (h : n.Plays script) (r : Request) :
    n.Grows script (n.deliver r).2 :=
  ⟨(h.deliver r).1, _, (h.deliver r).2⟩

/-- Sending a request goes on with the script, whatever it comes to. -/
theorem Network.Plays.grows_sendFrom (h : n.Plays script) (timeout : Duration) (left : Nat)
    (shown : Url) (r : Request) : n.Grows script (sendFrom timeout left shown r n).network := by
  induction left using Nat.strongRecOn generalizing shown r n with
  | ind left ih =>
  have hdelivered := h.grows_deliver r
  unfold sendFrom
  revert hdelivered
  obtain ⟨d, after⟩ := n.deliver r
  intro hdelivered
  cases d with
  | dropped | silent => exact hdelivered
  | answered response | cutShort response =>
    dsimp only
    cases location? r response with
    | none => exact hdelivered
    | some location =>
      cases left with
      | zero => exact hdelivered
      | succ left =>
        dsimp only
        split
        · exact hdelivered.trans (ih left (Nat.lt_succ_self left) hdelivered.plays location _)
        · exact hdelivered

/-- The last line of a chain is the one that brings the answer. -/
theorem Chain.exists_last {r : Request} {lines : List Line} {answer : Received}
    (h : Chain r lines answer) :
    ∃ last d, lines.getLast? = some (last, d) ∧ d.arrived? = some answer := by
  induction h with
  | ends harrived => exact ⟨_, _, rfl, harrived⟩
  | leads _ _ _ ih =>
    obtain ⟨last, d, hlast, harrived⟩ := ih
    refine ⟨last, d, ?_, harrived⟩
    rw [List.getLast?_cons, hlast]
    rfl

/-- What has happened to a network since then ended with an answer that arrived complete. -/
def Network.EndsWith (script : List Delivery) (n after : Network) (response : Response) : Prop :=
  ∃ lines r, after.transcript script = n.transcript script ++ lines ∧
    lines.getLast? = some (r, .answered response)

/-- What happened before does not matter for how it ends. -/
theorem Network.Grows.endsWith {middle after : Network} {response : Response}
    (h : n.Grows script middle) (hends : middle.EndsWith script after response) :
    n.EndsWith script after response := by
  obtain ⟨lines, hlines⟩ := h.exists_lines
  obtain ⟨more, r, hmore, hlast⟩ := hends
  refine ⟨lines ++ more, r, by rw [hmore, hlines, List.append_assoc], ?_⟩
  rw [List.getLast?_append, hlast]
  rfl

/-- A whole answer is an answered delivery. -/
theorem Delivery.eq_answered {d : Delivery} {response : Response}
    (h : d.arrived? = some ⟨response, true⟩) : d = .answered response := by
  cases d <;> cases h
  rfl

end Http

namespace Client

variable {α : Type} {c : Client} {o : Inquiry α} {script : List Http.Delivery} {n : Network}

/-- An operation goes on with the script. -/
theorem grows_perform (hplays : n.Plays script) : n.Grows script (c.perform o n).state := by
  cases hprepare : c.prepare o with
  | error f =>
    rw [perform_of_error hprepare]
    exact hplays.grows
  | ok prepared =>
    obtain ⟨shown, r⟩ := prepared
    rw [(perform_of_request hprepare n).2]
    exact hplays.grows_sendFrom _ _ _ _

/-- What an operation succeeds with is the content of the answer that arrived last, a success. -/
theorem exists_last_answer (hplays : n.Plays script) {x : α} (h : (c.perform o n).answer = .ok x) :
    ∃ response, n.EndsWith script (c.perform o n).state response ∧
      response.isSuccess = true ∧ o.content response = .ok x := by
  cases hprepare : c.prepare o with
  | error f =>
    rw [perform_of_error hprepare] at h
    cases h
  | ok prepared =>
    obtain ⟨shown, r⟩ := prepared
    obtain ⟨hanswer, hstate⟩ := perform_of_request hprepare n
    rw [hanswer] at h
    obtain ⟨received, hjudged, hread⟩ := exists_of_bind_eq_ok h
    obtain ⟨hresult, hsuccess⟩ := judged_eq_ok hjudged
    obtain ⟨lines, hchain, hlines⟩ := hplays.exists_chain _ _ _ hresult
    obtain ⟨last, d, hlast, harrived⟩ := hchain.exists_last
    unfold Inquiry.read at hread
    split at hread
    · next hcomplete =>
      obtain ⟨response, complete⟩ := received
      obtain rfl : complete = true := hcomplete
      rw [Delivery.eq_answered harrived] at hlast
      rw [hstate]
      exact ⟨response, ⟨lines, last, hlines, hlast⟩, hsuccess, eq_ok_of_mapError hread⟩
    · cases hread

end Client

/-- The same holds of an operation that is made under a retry policy. -/
theorem exists_last_answer_of_repeated {α : Type} {c : Client} {o : Inquiry α} {p : RetryPolicy}
    {bucket : String} {operation : Operation} {script : List Http.Delivery} {n : Network}
    (hplays : n.Plays script) {x : α}
    (h : (repeated p bucket operation (c.perform o) n).1 = some (.ok x)) :
    ∃ response, n.EndsWith script (repeated p bucket operation (c.perform o) n).2 response ∧
      response.isSuccess = true ∧ o.content response = .ok x := by
  have hkeep : ∀ (now : Instant) (middle : Network) (e : StoreError), n.Grows script middle →
      (c.perform o middle).answer = .error e → e.isTransient = true →
        n.Grows script (c.perform o middle).state :=
    fun _ _ _ hgrows _ _ => hgrows.trans (Client.grows_perform hgrows.plays)
  have hattempts : Attempts p () (fun _ _ n => c.perform o n) none 0 0 n
      ((p.execute (β := α) ()).run (fun _ _ n => c.perform o n) none 0 n) :=
    attempts_execute 0 n
  unfold repeated at h ⊢
  dsimp only at h ⊢
  generalize (p.execute (β := α) ()).run (fun _ _ n => c.perform o n) none 0 n = run
    at h hattempts ⊢
  cases hending : run.ending with
  | deadline | overflow =>
    rw [hending] at h
    cases h
  | finished result =>
    rw [hending] at h
    cases result with
    | error e => cases h
    | ok value =>
      cases h
      have hlast := hattempts.last_attempt (n.Grows script)
      obtain ⟨-, at_, hgrows, hanswer, hstate, -⟩ := hlast hkeep hplays.grows hending
      obtain ⟨response, hends, hsuccess, hcontent⟩ :=
        Client.exists_last_answer hgrows.plays hanswer
      rw [← hstate] at hends
      exact ⟨response, hgrows.endsWith hends, hsuccess, hcontent⟩

section

variable {files : FileTree} {file : Path} {content : Bytes}

/-- Content that was put into a file is there, and all else but the way to it is as before. -/
theorem placed_of_placeFile {back : Path} (h : (placeFile files file content).1 = .ok back) :
    back = file ∧ files.Placed (placeFile files file content).2 file content := by
  have hplaced {after : FileTree}
      (hwrite : (files.makeParent file).2.write file content = .ok after) :
      files.Placed after file content :=
    FileTree.placed_of_write hwrite
  unfold placeFile at h ⊢
  revert h hplaced
  obtain ⟨result, made⟩ := files.makeParent file
  intro h hplaced
  cases result with
  | error e => cases h
  | ok =>
    dsimp only at h ⊢
    cases hwrite : made.write file content with
    | error e =>
      rw [hwrite] at h
      cases h
    | ok after =>
      rw [hwrite] at h
      cases h
      exact ⟨rfl, hplaced hwrite⟩

/-- Content that was not put into its file has left all but the way to it as before. -/
theorem madeFor_of_placeFile {e : LifecycleError}
    (h : (placeFile files file content).1 = .error e) :
    (∃ reason, e = .io reason) ∧
      files.MadeFor (placeFile files file content).2 file.components.dropLast := by
  have hmade := files.madeFor_makeParent file
  unfold placeFile at h ⊢
  revert h hmade
  obtain ⟨result, made⟩ := files.makeParent file
  intro h hmade
  cases result with
  | error cause =>
    cases h
    exact ⟨⟨_, rfl⟩, hmade⟩
  | ok =>
    dsimp only at h ⊢
    cases hwrite : made.write file content with
    | error cause =>
      rw [hwrite] at h
      cases h
      exact ⟨⟨_, rfl⟩, hmade⟩
    | ok after =>
      rw [hwrite] at h
      cases h

variable {c : Client} {p : RetryPolicy} {source : ObjectUri} {strip : Option String} {dir : Path}
  {n : Network}

/-- A download that ends without a path has left all files, unless it is a file operation that
failed. -/
theorem files_downloadTo {result : Option (Except LifecycleError Path)}
    (h : (downloadTo c p source strip dir n files).result = result)
    (hresult : result = none ∨ ∃ e, result = some (.error e) ∧ ∀ reason, e ≠ .io reason) :
    (downloadTo c p source strip dir n files).files = files := by
  unfold downloadTo at h ⊢
  split at h
  · rfl
  dsimp only at h ⊢
  generalize repeated p source.bucket.name .download (c.download source) n = call at h ⊢
  obtain ⟨answer, after⟩ := call
  cases answer with
  | none => rfl
  | some answer =>
    cases answer with
    | error e => rfl
    | ok content =>
      rcases hresult with rfl | ⟨e, rfl, hother⟩
      · cases h
      · obtain ⟨⟨reason, hio⟩, -⟩ := madeFor_of_placeFile (Option.some.inj h)
        exact absurd hio (hother reason)

/-- A download that ends with the failure of a file operation has made directories at most, on the
way to its file. -/
theorem madeFor_of_downloadTo {reason : String}
    (h : (downloadTo c p source strip dir n files).result = some (.error (.io reason))) :
    ∃ file, localPathFor source strip dir = .ok file ∧
      files.MadeFor (downloadTo c p source strip dir n files).files file.components.dropLast := by
  unfold downloadTo at h ⊢
  cases hpath : localPathFor source strip dir with
  | error e =>
    rw [hpath] at h
    -- An object that has no place is no failure of a file operation.
    unfold localPathFor at hpath
    split at hpath
    · cases hpath
    · cases hpath
      cases h
  | ok file =>
    rw [hpath] at h
    refine ⟨file, rfl, ?_⟩
    dsimp only at h ⊢
    generalize repeated p source.bucket.name .download (c.download source) n = call at h ⊢
    obtain ⟨answer, after⟩ := call
    cases answer with
    | none => cases h
    | some answer =>
      cases answer with
      | error e => exact .refl files _
      | ok content => exact (madeFor_of_placeFile (Option.some.inj h)).2

/-- A download that ends with a path has read the content of the file there from the last answer, a
success, and has changed no other file. -/
theorem placed_of_downloadTo {script : List Http.Delivery} (hplays : n.Plays script)
    (h : (downloadTo c p source strip dir n files).result = some (.ok file)) :
    localPathFor source strip dir = .ok file ∧
      ∃ response, n.EndsWith script (downloadTo c p source strip dir n files).network response ∧
        response.isSuccess = true ∧
        files.Placed (downloadTo c p source strip dir n files).files file response.body := by
  have hlast {content : Bytes}
      (hread : (repeated p source.bucket.name .download (c.perform (.download source)) n).1 =
        some (.ok content)) :=
    exists_last_answer_of_repeated hplays hread
  unfold downloadTo at h ⊢
  rw [Client.download_eq] at h ⊢
  cases hpath : localPathFor source strip dir with
  | error e =>
    rw [hpath] at h
    cases h
  | ok place =>
    rw [hpath] at h
    dsimp only at h ⊢
    generalize repeated p source.bucket.name .download (c.perform (.download source)) n = call
      at h hlast ⊢
    obtain ⟨answer, after⟩ := call
    cases answer with
    | none => cases h
    | some answer =>
      cases answer with
      | error e => cases h
      | ok content =>
        obtain ⟨response, hends, hsuccess, hbody⟩ := hlast rfl
        have hcontent : content = response.body := (Except.ok.inj hbody).symm
        obtain ⟨rfl, hplaced⟩ := placed_of_placeFile (Option.some.inj h)
        rw [hcontent] at hplaced ⊢
        exact ⟨rfl, response, hends, hsuccess, hplaced⟩

end

/-- Downloads write all or nothing.  One that ends with a path has put the body of the last answer,
a success, into the file there, and has changed nothing else but the directories on the way to the
file where they were missing.  One that fails because the object has no place in the directory,
because the failure of a request is final, or because the retries are used up, has left all files
and directories, and so has one whose attempts are more than can be counted.  What a file operation
that fails leaves is directories on the way to the file at most. -/
theorem download_allOrNothing (c : Client) (p : RetryPolicy) (source : ObjectUri)
    (strip : Option String) (dir : Path) {script : List Http.Delivery} {n : Network}
    (hplays : n.Plays script) (files : FileTree) :
    let transferred := downloadTo c p source strip dir n files
    (∀ file, transferred.result = some (.ok file) →
      localPathFor source strip dir = .ok file ∧
        ∃ response, n.EndsWith script transferred.network response ∧
          response.isSuccess = true ∧ files.Placed transferred.files file response.body) ∧
    (∀ e, localPathFor source strip dir = .error e →
      transferred.result = some (.error e) ∧ transferred.files = files) ∧
    (∀ bucket operation e, transferred.result = some (.error (.remote bucket operation e)) →
      transferred.files = files) ∧
    (∀ bucket operation attempts e,
      transferred.result = some (.error (.retriesExhausted bucket operation attempts e)) →
        transferred.files = files) ∧
    (transferred.result = none → transferred.files = files) ∧
    (∀ reason, transferred.result = some (.error (.io reason)) →
      ∃ file, localPathFor source strip dir = .ok file ∧
        files.MadeFor transferred.files file.components.dropLast) := by
  refine ⟨fun file h => placed_of_downloadTo hplays h, fun e h => ?_,
    fun bucket operation e h => ?_,
    fun bucket operation attempts e h => ?_, fun h => files_downloadTo h (.inl rfl),
    fun reason h => madeFor_of_downloadTo h⟩
  · unfold downloadTo
    rw [h]
    exact ⟨rfl, rfl⟩
  · exact files_downloadTo h (.inr ⟨_, rfl, fun _ => nofun⟩)
  · exact files_downloadTo h (.inr ⟨_, rfl, fun _ => nofun⟩)

/-- Behind a busy answer and a redirect the content is written into a file that is named from the
root, past a directory that is missing and out of it again; and the file beside it, which stands in
the working directory, stays. -/
theorem placed_behind_busy_server :
    let content : Response := ⟨200, [], [0x78]⟩
    let script := [.answered ⟨503, [], [0x62]⟩, .answered ⟨307, [("location", "/elsewhere")], []⟩,
      .answered content]
    let beside : Place := [[0x6F], [0x62]]
    let files : FileTree := ⟨[([[0x6F]], .directory), (beside, .file [0x79])], [[0x6F]]⟩
    let n := Network.scripted script
    let dir := Text.utf8Bytes "/n/../o"
    let file := Text.utf8Bytes "/n/../o/a.txt"
    let transferred := downloadTo (localClient none) (.immediate 1) artifact none dir n files
    n.Plays script ∧ transferred.result = some (.ok file) ∧
      transferred.files.read file = .ok content.body ∧
      transferred.files.read (Text.utf8Bytes "a.txt") = .ok content.body ∧
      (∃ response, n.EndsWith script transferred.network response ∧
        response.body = content.body) ∧
      transferred.files.entry? beside = some (.file [0x79]) := by
  intro content script beside files n dir file transferred
  have hplays : n.Plays script := Network.plays_scripted script
  obtain ⟨hplaced, -⟩ := download_allOrNothing (localClient none) (.immediate 1) artifact none dir
    hplays files
  have hresult : transferred.result = some (.ok file) := by decide +kernel
  obtain ⟨-, response, hends, -, hfile⟩ := hplaced file hresult
  have hread : transferred.files.read file = .ok content.body := by decide +kernel
  have hhome : transferred.files.read (Text.utf8Bytes "a.txt") = .ok content.body := by
    decide +kernel
  have hbody : response.body = content.body := Except.ok.inj (hfile.read_eq.symm.trans hread)
  refine ⟨hplays, hresult, hread, hhome, ⟨response, hends, hbody⟩, ?_⟩
  have helsewhere : transferred.files.locate file ≠ .ok beside := by decide +kernel
  rcases hfile.others beside helsewhere with hsame | hnew
  · exact hsame
  · cases hnew.missing

end BucketLifecycle
