import BucketLifecycle.Proofs.Client.Outcomes
import BucketLifecycle.Proofs.Transfer.NamingRoundTrip
import BucketLifecycle.Transfer.Basic

/-!
# Retries over HTTP

Every remote operation that is made under a retry policy is one request, sent again as it is until a
status settles it or the policy is used up.  `settlingNumber` is the number of the answer that does
so, `Decides` is what that answer makes of the operation, and `RetriedOver` puts them together with
the requests that have arrived.

`operations_retryLaw` says this of the operations themselves.  Where no request can be made nothing
is sent, whatever the server would answer; and a download has still to put its content into a file
once the last answer is there.
-/

set_option autoImplicit false

namespace BucketLifecycle

open Http

/-- The number of the first answer whose status asks for no other attempt. -/
def settlingNumber (script : List Response) : Nat :=
  (answersOf script).findIdx (fun a => !isRetried a.status) + 1

/-- What the answer that settles an operation makes of it. -/
inductive Decides {α : Type} (content : Response → Except String α) (a : Response) :
    Except RetryError α → Prop
  | content {value : α} (hsuccess : a.isSuccess = true) (hcontent : content a = .ok value) :
    Decides content a (.ok value)
  | undecodable {m : String} (hsuccess : a.isSuccess = true) (hcontent : content a = .error m) :
    Decides content a (.error (.permanent (.decode m)))
  | refused (hfailure : a.isSuccess = false) (hfinal : isRetried a.status = false)
      (hmeans : Means a.status (.ofStatus a.status a.text)) :
    Decides content a (.error (.permanent (.ofStatus a.status a.text)))

/-- An operation that has sent its request again as often as the answers of a script and a number of
retries make it, and has come to the result that they lead to. -/
structure RetriedOver {α : Type} (content : Response → Except String α) (r : Request)
    (retries : Nat) (script : List Response) (before after : List Request)
    (result : Except RetryError α) : Prop where
  sent : after = before ++ List.replicate (min (settlingNumber script) (retries + 1)) r
  settled : settlingNumber script ≤ retries + 1 → ∃ a,
    (answersOf script)[settlingNumber script - 1]? = some a ∧ Decides content a result
  exhausted : retries + 1 < settlingNumber script → ∃ a m,
    (answersOf script)[retries]? = some a ∧ m = statusMessage a.status a.text ∧ m ≠ "" ∧
      result = .error (.exhausted (retries + 1) (.server a.status m))

/-- A status that asks for another attempt is a failure of the server. -/
theorem ofStatus_of_isRetried {status : Nat} (h : isRetried status = true) (body : String) :
    StoreError.ofStatus status body = .server status (statusMessage status body) := by
  rw [isRetried_eq_true_iff] at h
  unfold StoreError.ofStatus
  dsimp only
  rw [if_neg (by omega), if_neg (by omega), if_neg (by omega), if_pos h]

namespace Inquiry

variable {α : Type} (o : Inquiry α)

/-- An answer that asks for no other attempt decides what an operation comes to. -/
theorem decides_answer {a : Response} (hfinal : isRetried a.status = false) :
    Decides o.content a ((o.answer a).mapError .permanent) := by
  unfold Inquiry.answer
  split
  · next hsuccess =>
    cases hcontent : o.content a with
    | error m => exact .undecodable hsuccess hcontent
    | ok value => exact .content hsuccess hcontent
  · next hfailure => exact .refused (by simpa using hfailure) hfinal (means_ofStatus _ _)

/-- An answer that asks for another attempt is a failure of the server with its message. -/
theorem answer_of_isRetried {a : Response} (h : isRetried a.status = true) :
    o.answer a = .error (.server a.status (statusMessage a.status a.text)) := by
  unfold Inquiry.answer
  rw [if_neg, ofStatus_of_isRetried h]
  intro hsuccess
  rw [isRetried_of_isSuccess hsuccess] at h
  cases h

/-- The first answer that settles a call is the one with the settling number. -/
theorem findIdx_answers (script : List Response) :
    ((answersOf script).map o.answer).findIdx settlesCall + 1 = settlingNumber script := by
  unfold settlingNumber
  rw [List.findIdx_map]
  refine congrArg (fun test => (answersOf script).findIdx test + 1) (funext fun a => ?_)
  exact o.settlesCall_answer a

end Inquiry

/-- Some answer settles every operation, at the latest the one that stands for all later ones. -/
theorem settlingNumber_le (script : List Response) :
    settlingNumber script ≤ (answersOf script).length := by
  refine List.findIdx_lt_length.2 ⟨unscripted, ?_, rfl⟩
  exact List.mem_append_right _ List.mem_cons_self

/-- Where every answer of a script asks for another attempt, none of them settles the operation. -/
theorem length_lt_settlingNumber {script : List Response}
    (h : ∀ a ∈ script, isRetried a.status = true) : script.length < settlingNumber script := by
  refine Nat.lt_succ_of_le ?_
  induction script with
  | nil => exact Nat.zero_le _
  | cons a rest ih =>
    obtain ⟨ha, hrest⟩ := List.forall_mem_cons.1 h
    unfold answersOf
    rw [List.cons_append, List.findIdx_cons, ha]
    exact Nat.succ_le_succ (ih hrest)

/-- A request that cannot be made fails with a message. -/
theorem message_builder_ne_empty (url : Option Url) : (Http.Failure.builder url).message ≠ "" := by
  cases url with
  | none =>
    show "builder error" ≠ ""
    simp
  | some url =>
    show "builder error for url (" ++ url.toText ++ ")" ≠ ""
    simp

/-- The answer that settles an operation asks for no other attempt, and those before it do. -/
theorem isRetried_settling {script : List Response} {a : Response}
    (h : (answersOf script)[settlingNumber script - 1]? = some a) : isRetried a.status = false := by
  obtain ⟨hlt, rfl⟩ := List.getElem?_eq_some_iff.1 h
  have hsettles : (!isRetried (answersOf script)[settlingNumber script - 1].status) = true :=
    List.findIdx_getElem (w := hlt)
  simpa using hsettles

/-- The answers in front of the settling one ask for another attempt. -/
theorem isRetried_earlier {script : List Response} {a : Response} {i : Nat}
    (h : (answersOf script)[i]? = some a) (hi : i + 1 < settlingNumber script) :
    isRetried a.status = true := by
  obtain ⟨hlt, rfl⟩ := List.getElem?_eq_some_iff.1 h
  have hearlier := List.not_of_lt_findIdx (Nat.lt_of_succ_lt_succ hi)
  simpa using hearlier

section

variable {α ι : Type} {c : Client} {o : Inquiry α} {p : RetryPolicy} {x : ι}
  {handler : Handler Network ι (Except StoreError α)} (hcall : ∀ now, handler now x = c.perform o)
  {script : List Response} {n : Network}

include hcall

/-- Every attempt sends the request of the operation once. -/
theorem received_of_attempts {shown : Url} {r : Request} (hprepare : c.prepare o = .ok (shown, r))
    (hgives : n.Gives script) {made : Nat} {now : Instant}
    {run : Run Network ι (Except StoreError α) (Except RetryError α)}
    (h : Attempts p x handler none made now n run) :
    run.state.received = n.received ++ List.replicate run.exchanges.length r := by
  refine h.log_eq (fun n => ∃ rest, n.Gives rest) Network.received r ?_ ⟨script, hgives⟩
  rintro now n ⟨rest, hrest⟩
  rw [hcall now]
  obtain ⟨-, hreceived, hgives⟩ := perform_of_gives hprepare hrest
  exact ⟨⟨_, hgives⟩, hreceived⟩

/-- An operation for which there is a request is retried as the answers and the policy say. -/
theorem retriedOver_of_prepare {shown : Url} {r : Request} (hprepare : c.prepare o = .ok (shown, r))
    (hgives : n.Gives script)
    (hroom : min (settlingNumber script) (p.maxRetries.toNat + 1) ≤ counterLimit) (now : Instant) :
    ∃ result, ((p.execute x).run handler none now n).ending = .finished result ∧
      RetriedOver o.content r p.maxRetries.toNat script n.received
        ((p.execute x).run handler none now n).state.received result := by
  have hattempts : Attempts p x handler none 0 now n ((p.execute x).run handler none now n) :=
    attempts_execute now n
  have hlength := settlingNumber_le script
  have hindex := o.findIdx_answers script
  have hretried := hattempts.retried (answersWith_of_gives hprepare hcall hgives)
    (by rw [List.length_map]; omega) (Nat.zero_le _) (by omega)
  have hsent := received_of_attempts hcall hprepare hgives hattempts
  generalize (p.execute x).run handler none now n = run at hretried hsent ⊢
  have hcount : run.exchanges.length =
      min (settlingNumber script) (p.maxRetries.toNat + 1) := by
    have hanswered := congrArg List.length hretried.answered
    rw [List.length_map, List.length_take, List.length_map] at hanswered
    omega
  rw [hcount] at hsent
  rcases Nat.lt_or_ge (p.maxRetries.toNat + 1) (settlingNumber script) with hlate | hearly
  · obtain ⟨e, he, hending⟩ := hretried.exhausted (by omega)
    refine ⟨_, hending, hsent, fun h => absurd h (by omega), fun _ => ?_⟩
    rw [Nat.sub_zero, List.getElem?_map] at he
    obtain ⟨a, ha, hanswer⟩ := Option.map_eq_some_iff.1 he
    rw [o.answer_of_isRetried (isRetried_earlier ha hlate)] at hanswer
    cases hanswer
    exact ⟨a, _, ha, rfl, statusMessage_ne_empty _ _, rfl⟩
  · obtain ⟨answer, ha, hending⟩ := hretried.settled (by omega)
    refine ⟨_, hending, hsent, fun _ => ?_, fun h => absurd h (by omega)⟩
    have hposition : ((answersOf script).map o.answer).findIdx settlesCall =
        settlingNumber script - 1 := by
      omega
    rw [hposition, List.getElem?_map] at ha
    obtain ⟨a, hresponse, rfl⟩ := Option.map_eq_some_iff.1 ha
    exact ⟨a, hresponse, o.decides_answer (isRetried_settling hresponse)⟩

/-- A counter without room for the attempts to be made overflows. -/
theorem overflow_of_prepare {shown : Url} {r : Request} (hprepare : c.prepare o = .ok (shown, r))
    (hgives : n.Gives script)
    (hfull : counterLimit < min (settlingNumber script) (p.maxRetries.toNat + 1)) (now : Instant) :
    ((p.execute x).run handler none now n).ending = .overflow := by
  have hindex := o.findIdx_answers script
  exact ending_attempt_of_full (by omega) (answersWith_of_gives hprepare hcall hgives) (by omega)
    now

/-- What becomes of an operation that is made under a retry policy.  Where its request can be made,
the answers and the number of retries decide; where it cannot, nothing is sent, and the operation
fails for good. -/
structure Client.Follows (c : Client) (o : Inquiry α) (retries : Nat) (script : List Response)
    (before after : Network) (result : Except RetryError α) : Prop where
  sent : ∀ shown r, c.prepare o = .ok (shown, r) →
    RetriedOver o.content r retries script before.received after.received result
  unsent : ∀ f, c.prepare o = .error f → after = before ∧
    ∃ m, m ≠ "" ∧ result = .error (.permanent (.invalidRequest m))

variable (handler) in
/-- An operation under a retry policy follows its answers, whether or not there is a request for it.
-/
theorem follows_execute (hgives : n.Gives script)
    (hroom : min (settlingNumber script) (p.maxRetries.toNat + 1) ≤ counterLimit) (now : Instant) :
    ∃ result, ((p.execute x).run handler none now n).ending = .finished result ∧
      c.Follows o p.maxRetries.toNat script n ((p.execute x).run handler none now n).state
        result := by
  cases hprepare : c.prepare o with
  | ok prepared =>
    obtain ⟨shown, r⟩ := prepared
    obtain ⟨result, hending, hretried⟩ := retriedOver_of_prepare hcall hprepare hgives hroom now
    refine ⟨result, hending, fun shown' r' h => ?_, fun f h => ?_⟩
    · rw [hprepare] at h
      cases h
      exact hretried
    · rw [hprepare] at h
      cases h
  | error f =>
    obtain ⟨url, rfl⟩ := Client.exists_builder_of_prepare hprepare
    have hfails := Client.perform_of_error hprepare n
    have hdelay : (handler now x n).delay.ticks = 0 := by
      rw [hcall now, hfails]
      exact Duration.ticks_of_nanoseconds_eq_zero rfl
    have hkind : ∀ e, (handler now x n).answer = .error e → e.isTransient = false := by
      rw [hcall now, hfails]
      rintro e ⟨⟩
      rfl
    rw [run_execute_of_prompt hdelay hkind, hcall now, hfails]
    refine ⟨_, rfl, fun shown r h => ?_, fun f h => ?_⟩
    · rw [hprepare] at h
      cases h
    · rw [hprepare] at h
      cases h
      exact ⟨rfl, _, message_builder_ne_empty url, rfl⟩

end

/-- The result of a transfer's call, as the caller of the transfer sees it. -/
theorem follows_repeated {α : Type} {c : Client} {o : Inquiry α} {p : RetryPolicy}
    {script : List Response} {n : Network} (hgives : n.Gives script)
    (hroom : min (settlingNumber script) (p.maxRetries.toNat + 1) ≤ counterLimit) (bucket : String)
    (operation : Operation) :
    ∃ result, (repeated p bucket operation (c.perform o) n).1 =
        some (result.mapError (RetryError.toLifecycle bucket operation)) ∧
      c.Follows o p.maxRetries.toNat script n (repeated p bucket operation (c.perform o) n).2
        result := by
  obtain ⟨result, hending, hfollows⟩ :=
    follows_execute (fun _ () n => c.perform o n) (fun _ => rfl) hgives hroom 0
  have hrepeated : repeated p bucket operation (c.perform o) n =
      (some (result.mapError (RetryError.toLifecycle bucket operation)),
        ((p.execute ()).run (fun _ _ n => c.perform o n) none 0 n).state) := by
    unfold repeated
    dsimp only
    rw [hending]
    cases result <;> rfl
  rw [hrepeated]
  refine ⟨result, rfl, ?_⟩
  dsimp only
  exact hfollows

/-- Names put together do not end in a slash. -/
theorem exists_getLast?_joinSegments {names : List (List Char)} (hne : names ≠ [])
    (h : ∀ name ∈ names, name ≠ [] ∧ '/' ∉ name) :
    ∃ c, (Text.joinSegments '/' names).getLast? = some c ∧ c ≠ '/' := by
  induction names with
  | nil => exact absurd rfl hne
  | cons name rest ih =>
    obtain ⟨⟨hname, hslash⟩, hrest⟩ := List.forall_mem_cons.1 h
    cases rest with
    | nil =>
      obtain ⟨c, hc⟩ := Option.isSome_iff_exists.1 (List.getLast?_isSome.2 hname)
      refine ⟨c, hc, ?_⟩
      rintro rfl
      exact hslash (List.mem_of_getLast? hc)
    | cons next rest =>
      obtain ⟨c, hc, hend⟩ := ih (List.cons_ne_nil _ _) hrest
      refine ⟨c, ?_, hend⟩
      rw [Text.joinSegments, List.getLast?_append, List.getLast?_cons, hc]
      rfl

/-- What a file is uploaded as is an object. -/
theorem namesObject_of_objectNameFor {file : Path} {strip : Option Path} {dest u : ObjectUri}
    (h : objectNameFor file strip dest = .ok u) : u.NamesObject := by
  obtain ⟨-, names, -, -, hne, hfileNames, rfl⟩ := exists_names_of_objectNameFor h
  have hplain := plain_of_isFileName hfileNames
  obtain ⟨c, hc, hend⟩ := exists_getLast?_joinSegments hne hplain
  have hlast : (dest.join (String.ofList (Text.joinSegments '/' names))).path.toList.getLast? =
      some c := by
    rw [ObjectUri.join, String.toList_ofList, String.toList_ofList,
      joinPath_eq _ (head?_joinSegments_ne hplain), List.getLast?_append, hc]
    rfl
  refine ⟨fun hempty => ?_, fun hslash => ?_⟩
  · rw [hempty] at hlast
    cases hlast
  · rw [hlast] at hslash
    exact hend (Option.some.inj hslash)

/-- What an upload goes to is an object. -/
theorem namesObject_of_uploadSource {files : FileTree} {file : Path} {strip : Option Path}
    {dest target : ObjectUri} {content : Bytes}
    (h : uploadSource files file strip dest = .ok (target, content)) : target.NamesObject := by
  obtain ⟨u, hname, h⟩ := exists_of_bind_eq_ok h
  obtain ⟨bytes, -, h⟩ := exists_of_bind_eq_ok h
  cases h
  exact namesObject_of_objectNameFor hname

/-- A call of a reconciliation that is the operation of an inquiry. -/
def Client.Performs (c : Client) (call : BucketCall) (o : Inquiry Snapshot) : Prop :=
  ∀ now, c.handler now call = c.perform o

/-- Reading a bucket is the operation of its inquiry. -/
theorem Client.performs_get (c : Client) (bucket : String) :
    c.Performs (.get bucket) (.get bucket) := by
  intro now
  rw [← c.get_eq bucket]
  rfl

/-- Creating a bucket in a project is the operation of its inquiry. -/
theorem Client.performs_insert {c : Client} {project : String}
    (h : c.config.project = some project) (desired : Snapshot) :
    c.Performs (.insert desired) (.insert project desired) := by
  intro now
  rw [← Client.insert_eq h desired]
  rfl

/-- Replacing a bucket is the operation of its inquiry. -/
theorem Client.performs_update (c : Client) (desired : Snapshot) :
    c.Performs (.update desired) (.update desired) := by
  intro now
  rw [← c.update_eq desired]
  rfl

section

variable {c : Client} {p : RetryPolicy} {script : List Response} {n : Network}
  (hgives : n.Gives script)
  (hroom : min (settlingNumber script) (p.maxRetries.toNat + 1) ≤ counterLimit)

include hgives hroom

/-- An upload follows the answers to it and leaves the files alone. -/
theorem follows_uploadFile {file : Path} {strip : Option Path} {dest target : ObjectUri}
    {contentType : Option String} {files : FileTree} {content : Bytes}
    (hsource : uploadSource files file strip dest = .ok (target, content)) :
    ∃ result,
      (uploadFile c p file strip dest contentType n files).result =
        some (result.mapError (RetryError.toLifecycle target.bucket.name .upload)) ∧
      (uploadFile c p file strip dest contentType n files).files = files ∧
      c.Follows (.upload target ⟨contentType.getD (contentTypeOf file), content⟩)
        p.maxRetries.toNat script n (uploadFile c p file strip dest contentType n files).network
        result := by
  obtain ⟨result, hresult, hfollows⟩ := follows_repeated (c := c)
    (o := .upload target ⟨contentType.getD (contentTypeOf file), content⟩) hgives hroom
    target.bucket.name .upload
  unfold uploadFile
  rw [hsource]
  dsimp only
  rw [Client.upload_eq (namesObject_of_uploadSource hsource)]
  exact ⟨result, hresult, rfl, hfollows⟩

/-- A download follows the answers to it, and puts its content into its place behind them. -/
theorem follows_downloadTo {source : ObjectUri} {strip : Option String} {dir file : Path}
    {files : FileTree} (hfile : localPathFor source strip dir = .ok file) :
    ∃ result,
      ((downloadTo c p source strip dir n files).result,
          (downloadTo c p source strip dir n files).files) =
        (match result with
          | .ok content =>
            (some (placeFile files file content).1, (placeFile files file content).2)
          | .error e => (some (.error (e.toLifecycle source.bucket.name .download)), files)) ∧
      c.Follows (.download source) p.maxRetries.toNat script n
        (downloadTo c p source strip dir n files).network result := by
  obtain ⟨result, hresult, hfollows⟩ := follows_repeated (c := c) (o := .download source) hgives
    hroom source.bucket.name .download
  unfold downloadTo
  rw [hfile, Client.download_eq]
  dsimp only
  generalize repeated p source.bucket.name .download (c.perform (.download source)) n = call at *
  obtain ⟨answer, after⟩ := call
  dsimp only at hresult hfollows
  subst hresult
  cases result with
  | ok content => exact ⟨_, rfl, hfollows⟩
  | error e => exact ⟨_, rfl, hfollows⟩

end

/-- The law of retries over HTTP, for a network that gives whole answers none of which leads
elsewhere, and a counter of attempts that has room for the attempts to be made.  It holds of each
call of a reconciliation, of an upload whose file can be named and read, and of a download that has
a place to go; the content of a download is then put into that place. -/
theorem operations_retryLaw (c : Client) (p : RetryPolicy) {script : List Response} {n : Network}
    (hgives : n.Gives script)
    (hroom : min (settlingNumber script) (p.maxRetries.toNat + 1) ≤ counterLimit) :
    (∀ bucket now, ∃ result,
      ((p.execute (.get bucket)).run c.handler none now n).ending = .finished result ∧
        c.Follows (.get bucket) p.maxRetries.toNat script n
          ((p.execute (.get bucket)).run c.handler none now n).state result) ∧
    (∀ project desired now, c.config.project = some project → ∃ result,
      ((p.execute (.insert desired)).run c.handler none now n).ending = .finished result ∧
        c.Follows (.insert project desired) p.maxRetries.toNat script n
          ((p.execute (.insert desired)).run c.handler none now n).state result) ∧
    (∀ desired now, ∃ result,
      ((p.execute (.update desired)).run c.handler none now n).ending = .finished result ∧
        c.Follows (.update desired) p.maxRetries.toNat script n
          ((p.execute (.update desired)).run c.handler none now n).state result) ∧
    (∀ file strip dest contentType files target content,
      uploadSource files file strip dest = .ok (target, content) →
        let transferred := uploadFile c p file strip dest contentType n files
        ∃ result,
          transferred.result =
            some (result.mapError (RetryError.toLifecycle target.bucket.name .upload)) ∧
          transferred.files = files ∧
          c.Follows (.upload target ⟨contentType.getD (contentTypeOf file), content⟩)
            p.maxRetries.toNat script n transferred.network result) ∧
    ∀ source strip dir files file, localPathFor source strip dir = .ok file →
      let transferred := downloadTo c p source strip dir n files
      ∃ result,
        (transferred.result, transferred.files) =
          (match result with
            | .ok content =>
              (some (placeFile files file content).1, (placeFile files file content).2)
            | .error e =>
              (some (.error (e.toLifecycle source.bucket.name .download)), files)) ∧
        c.Follows (.download source) p.maxRetries.toNat script n transferred.network result := by
  refine ⟨fun bucket now => ?_, fun project desired now hproject => ?_, fun desired now => ?_,
    fun file strip dest contentType files target content hsource => ?_,
    fun source strip dir files file hfile => ?_⟩
  · exact follows_execute _ (c.performs_get bucket) hgives hroom now
  · exact follows_execute _ (Client.performs_insert hproject desired) hgives hroom now
  · exact follows_execute _ (c.performs_update desired) hgives hroom now
  · exact follows_uploadFile hgives hroom hsource
  · exact follows_downloadTo hgives hroom hfile

/-- A client of a local server. -/
def localClient (accessToken : Option String) : Client :=
  ⟨{ ClientConfig.ofEndpoint "http://[::1]:4443" with accessToken }⟩

def artifact : ObjectUri :=
  ⟨⟨"gs", "ci-artifacts"⟩, "a.txt"⟩

/-- A busy server is asked again, and its second answer is written into the file. -/
theorem retryLaw_of_busy_server :
    let script : List Response := [⟨503, [], []⟩, ⟨200, [], [0x78]⟩]
    let transferred := downloadTo (localClient none) (.immediate 1) artifact none [0x6F]
      (.scripted (script.map .answered)) .empty
    transferred.network.received.length = 2 ∧
      transferred.files = (placeFile .empty (Text.utf8Bytes "o/a.txt") [0x78]).2 := by
  intro script transferred
  have hgives : (Network.scripted (script.map .answered)).Gives script :=
    ⟨rfl, rfl, by decide⟩
  have hroom : min (settlingNumber script) ((RetryPolicy.immediate 1).maxRetries.toNat + 1) ≤
      counterLimit := by
    decide
  have hprepared : ((localClient none).prepare (.download artifact)).toOption.isSome = true := by
    decide +kernel
  obtain ⟨⟨shown, r⟩, hprepare⟩ := Option.isSome_iff_exists.1 hprepared
  obtain ⟨-, -, -, -, hdownload⟩ :=
    operations_retryLaw (localClient none) (.immediate 1) hgives hroom
  obtain ⟨result, hresult, hfollows⟩ :=
    hdownload artifact none [0x6F] .empty (Text.utf8Bytes "o/a.txt") rfl
  obtain ⟨hsent, hsettled, -⟩ := hfollows.sent shown r (toOption_eq_some hprepare)
  have hsecond : (answersOf script)[settlingNumber script - 1]? = some ⟨200, [], [0x78]⟩ := by
    decide
  obtain ⟨a, ha, hdecides⟩ := hsettled (by decide)
  rw [hsecond] at ha
  cases ha
  refine ⟨?_, ?_⟩
  · rw [hsent]
    rfl
  · cases hdecides with
    | content _ hcontent =>
      cases hcontent
      exact congrArg Prod.snd hresult
    | undecodable _ hcontent => cases hcontent
    | refused hfailure => cases hfailure

/-- A token that is no header value lets no request be sent, though one success is at hand; a
success does not put its content where a file is in the way; and no counter has room for as many
attempts as the largest number of retries allows, though the answer behind them would settle the
call. -/
theorem not_retryLaw_of_broken_token :
    let script : List Response := [⟨200, [], [0x78]⟩]
    let n := Network.scripted (script.map .answered)
    let blocked : FileTree := ⟨[([[0x6F]], .file [])], []⟩
    let busy : List Response := List.replicate counterLimit ⟨503, [], []⟩
    let tireless := RetryPolicy.immediate 0xFFFFFFFF
    n.Gives script ∧
      Client.ofConfig (localClient (some "a\nb")).config = .ok (localClient (some "a\nb")) ∧
      (downloadTo (localClient (some "a\nb")) (.immediate 0) artifact none [0x6F] n
        .empty).network.received.length ≠ min (settlingNumber script) (0 + 1) ∧
      (downloadTo (localClient none) (.immediate 0) artifact none [0x6F] n blocked).result.map
        Except.toBool ≠ some true ∧
      settlingNumber busy ≤ tireless.maxRetries.toNat + 1 ∧
      ((tireless.execute (.get "ci-artifacts")).run (localClient none).handler none 0
        (.scripted (busy.map .answered))).ending = .overflow := by
  intro script n blocked busy tireless
  have hbusy : ∀ a ∈ busy, a = ⟨503, [], []⟩ := fun a ha => List.eq_of_mem_replicate ha
  have hlength : busy.length = counterLimit := List.length_replicate
  have hlast := settlingNumber_le busy
  rw [answersOf, List.length_append, hlength] at hlast
  have hfirst : busy.length < settlingNumber busy :=
    length_lt_settlingNumber fun a ha => by rw [hbusy a ha]; rfl
  rw [hlength] at hfirst
  have hretries : tireless.maxRetries.toNat = counterLimit := by decide
  refine ⟨⟨rfl, rfl, by decide⟩, toOption_eq_some (by decide +kernel), ?_, ?_, ?_, ?_⟩
  · decide +kernel
  · decide +kernel
  · rw [hretries]
    exact hlast
  · have hprepared : ((localClient none).prepare (.get "ci-artifacts")).toOption.isSome = true := by
      decide +kernel
    obtain ⟨⟨shown, r⟩, hprepare⟩ := Option.isSome_iff_exists.1 hprepared
    have hread : busy.map Response.asRead = busy :=
      List.map_replicate.trans (congrArg (List.replicate counterLimit) rfl)
    have hgives := @Network.gives_scripted busy (fun a ha => by rw [hbusy a ha]; rfl)
      fun a ha => by rw [hbusy a ha]; rfl
    rw [hread] at hgives
    refine overflow_of_prepare ((localClient none).performs_get _) (toOption_eq_some hprepare)
      hgives ?_ 0
    rw [hretries]
    exact Nat.lt_min.2 ⟨hfirst, Nat.lt_succ_self _⟩

end BucketLifecycle
