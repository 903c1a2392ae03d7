import BucketLifecycle.Proofs.Bucket.Metadata
import BucketLifecycle.Proofs.Client.HttpRetries
import BucketLifecycle.Proofs.Client.ObjectRequests
import BucketLifecycle.Proofs.Policy.Converging
import BucketLifecycle.Proofs.Reconcile.Succession
import BucketLifecycle.Proofs.Run.Deadline

/-!
# Corrections over HTTP

An update replaces all metadata of a bucket, so whatever its body does not repeat is gone.  Where a
reading is answered by an object that does not match the policy, the update that follows repeats all
of its members that a snapshot knows of, except for the lifecycle, and adds no others
(`correction_keepsMetadata`).  What a snapshot does not know of is not repeated.

Nothing is assumed of the network: answers may lead elsewhere, break off, or fail to come, and the
answer of a reading is the one at the end of its redirects.
-/

set_option autoImplicit false

namespace BucketLifecycle

open Http

namespace Client

/-- A call is answered over a network by a whole success. -/
def Receives (c : Client) (n : Network) (call : BucketCall) (response : Response) : Prop :=
  ∃ shown r, c.prepared? call = some (shown, r) ∧
    (n.send c.config.timeout shown r).result = .ok ⟨response, true⟩ ∧ response.isSuccess = true

/-- An attempt of a run that reads a bucket and is answered by a snapshot of it which a policy turns
down.  `n` is the network before the run, and `earlier` are the attempts before this one. -/
structure Finds (c : Client) (n : Network) (bucket : String) (p : Expiring)
    (earlier : List Attempt) (reading : Attempt) (response : Response) : Prop where
  request : reading.request = .get bucket
  received : c.Receives (Program.stateAfter c.handler n earlier) (.get bucket) response
  found : ∃ found, Snapshot.ofText response.text = .ok found ∧ found.name = bucket ∧
    p.accepts found = false

/-- An attempt at an update whose request carries a text that keeps the metadata of another one. -/
def Replaces (c : Client) (put : Attempt) (text : String) : Prop :=
  ∃ desired shown r body written, put.request = .update desired ∧
    c.prepared? put.request = some (shown, r) ∧ r.method = .put ∧ r.body = some body ∧
    Text.utf8Text? body = some written ∧ KeepsMetadata text written

variable {c : Client}

/-- A call comes to a snapshot where the answer to it is a whole success that reads as the
snapshot. -/
theorem answer_handler_eq_ok_iff {call : BucketCall} {now : Instant} {n : Network} {s : Snapshot} :
    (c.handler now call n).answer = .ok s ↔
      ∃ response, c.Receives n call response ∧ Snapshot.ofText response.text = .ok s := by
  cases hcall : c.prepared? call with
  | none =>
    obtain ⟨⟨e, hanswer, -⟩, -⟩ := handler_of_unprepared hcall now n
    constructor
    · intro h
      rw [hanswer] at h
      cases h
    · rintro ⟨response, ⟨shown, r, hprepared, -⟩, -⟩
      rw [hcall] at hprepared
      cases hprepared
  | some prepared =>
    obtain ⟨shown, r⟩ := prepared
    rw [(handler_of_prepared hcall now n).1, heard_eq_ok_iff]
    constructor
    · rintro ⟨response, hresult, hsuccess, hread⟩
      exact ⟨response, ⟨shown, r, hcall, hresult, hsuccess⟩, hread⟩
    · rintro ⟨response, ⟨shown', r', hprepared, hresult, hsuccess⟩, hread⟩
      rw [hcall] at hprepared
      cases hprepared
      exact ⟨response, hresult, hsuccess, hread⟩

/-- A payload that is a snapshot keeps no request from being made: its headers are always valid. -/
theorem exists_request_put {path : List Char} {shown : Url} {r : Request}
    (h : c.request .get path [] none = .ok (shown, r)) (s : Snapshot) :
    ∃ put, c.request .put path [] (some (snapshotPayload s)) = .ok (shown, put) ∧
      put.method = .put ∧ put.body = some (snapshotPayload s).data := by
  unfold request at h
  obtain ⟨url, hurl, h⟩ := exists_of_bind_eq_ok h
  have hheaders : ((c.headers url (some (snapshotPayload s))).any fun h => !isHeaderValue h.2) =
      (c.headers url none).any fun h => !isHeaderValue h.2 := by
    have htype : isHeaderValue (snapshotPayload s).contentType = true :=
      (by decide : isHeaderValue "application/json" = true)
    have hlength := isHeaderValue_writeNat (snapshotPayload s).data.length
    simp [headers, payloadHeaders, htype, hlength]
  unfold request
  rw [hurl]
  simp only [bind, Except.bind, hheaders] at h ⊢
  split at h
  · cases h
  split at h
  · cases h
  next hvalid hsendable =>
  cases h
  rw [if_neg hvalid, if_neg hsendable]
  exact ⟨_, rfl, rfl, rfl⟩

/-- Where a bucket is found, it can be replaced by a snapshot of the same name, and the request for
that keeps the metadata that was found. -/
theorem replaces_of_receives {n : Network} {bucket : String} {response : Response}
    (hreceived : c.Receives n (.get bucket) response) {found : Snapshot}
    (hread : Snapshot.ofText response.text = .ok found) (hname : found.name = bucket)
    (p : Expiring) {put : Attempt} (hrequest : put.request = .update (p.decorate found)) :
    c.Replaces put response.text := by
  obtain ⟨shown, r, hprepared, -, -⟩ := hreceived
  subst hname
  rw [prepared?] at hprepared
  obtain ⟨sent, hsent, hmethod, hbody⟩ :=
    exists_request_put (toOption_eq_some hprepared) (p.decorate found)
  have hupdate : c.prepared? put.request = some (shown, sent) := by
    rw [hrequest, prepared?]
    show (c.request .put (bucketPath found.name) [] _).toOption = _
    rw [hsent]
    rfl
  have hwritten : Text.utf8Text? (snapshotPayload (p.decorate found)).data =
      some (p.decorate found).toText := by
    rw [snapshotPayload, Text.utf8Text?_utf8Bytes]
  exact ⟨_, shown, sent, _, _, hrequest, hupdate, hmethod, hbody, hwritten,
    Snapshot.keepsMetadata hread _⟩

end Client

/-- A bucket that a policy does not accept is found to have drifted. -/
theorem Expiring.check_of_not_accepts {p : Expiring} {s : Snapshot} (h : p.accepts s = false) :
    p.check s = .nonCompliant s := by
  simp [check, Checker.ofTest, h]

section

variable {c : Client} {r : Reconciler} {p : Expiring} {bucket : String} {decorate : Decorator}
  {check : Checker} {now : Instant} {n : Network} {earlier later : List Attempt} {reading : Attempt}

/-- A reading that finds a bucket is answered by its snapshot. -/
theorem Client.Finds.answered {response : Response}
    (h : c.Finds n bucket p earlier reading response)
    (hsplit : (r.run c.handler bucket decorate check now n).exchanges =
      earlier ++ reading :: later) :
    ∃ found, reading.answer = .ok found ∧ Snapshot.ofText response.text = .ok found ∧
      found.name = bucket ∧ p.accepts found = false := by
  obtain ⟨found, hread, hname, hrejected⟩ := h.found
  refine ⟨found, ?_, hread, hname, hrejected⟩
  rw [Program.answer_eq_handler hsplit, h.request]
  exact Client.answer_handler_eq_ok_iff.2 ⟨response, h.received, hread⟩

/-- A reading that finds a bucket which the policy rejects is a whole success on the wire. -/
theorem Client.exists_finds
    (hsplit : (r.run c.handler bucket decorate check now n).exchanges =
      earlier ++ reading :: later)
    (hrequest : reading.request = .get bucket) {found : Snapshot}
    (hfound : reading.answer = .ok found) (hname : found.name = bucket)
    (hrejected : p.accepts found = false) :
    ∃ response, c.Finds n bucket p earlier reading response ∧
      Snapshot.ofText response.text = .ok found := by
  rw [Program.answer_eq_handler hsplit, hrequest] at hfound
  obtain ⟨response, hreceived, hread⟩ := Client.answer_handler_eq_ok_iff.1 hfound
  exact ⟨response, ⟨hrequest, hreceived, found, hread, hname, hrejected⟩, hread⟩

end

/-- A correction keeps the metadata of a bucket.  A reading that is answered by a snapshot which the
policy turns down is followed by an attempt at an update that keeps the metadata of the answer,
unless the deadline has passed; and every attempt at an update comes after such a reading, with
nothing but earlier attempts at the same update in between. -/
theorem correction_keepsMetadata (c : Client) (r : Reconciler) (p : Expiring) (bucket : String)
    (now : Instant) (n : Network) :
    let run := r.run c.handler bucket p.decorate p.check now n
    (∀ earlier reading later response, run.exchanges = earlier ++ reading :: later →
      c.Finds n bucket p earlier reading response →
        (∃ put rest, later = put :: rest ∧ c.Replaces put response.text) ∨
          later = [] ∧ run.ending = .deadline) ∧
    ∀ before put later desired, run.exchanges = before ++ put :: later →
      put.request = .update desired →
        ∃ earlier reading retries response, before = earlier ++ reading :: retries ∧
          (∀ retry ∈ retries, retry.request = put.request) ∧
          c.Finds n bucket p earlier reading response ∧ c.Replaces put response.text := by
  intro run
  have hpolicy := p.converging bucket
  constructor
  · intro earlier reading later response hsplit hfinds
    obtain ⟨found, hfound, hread, hname, hrejected⟩ := hfinds.answered hsplit
    refine (r.exists_update c.handler bucket p.decorate p.check now n hsplit hfinds.request hfound
      (Expiring.check_of_not_accepts hrejected) (hpolicy.desiredState_eq hname)).imp_left ?_
    rintro ⟨put, rest, hlater, hrequest⟩
    exact ⟨put, rest, hlater,
      Client.replaces_of_receives hfinds.received hread hname p hrequest⟩
  · intro before put later desired hsplit hrequest
    have hmem : put ∈ run.exchanges := by
      rw [hsplit]
      exact List.mem_append_cons_self
    have hupdates : put.request ≠ .get bucket := by
      rw [hrequest]
      exact nofun
    have hsends : Sends bucket p.decorate put.request :=
      (r.attempt_cases c.handler bucket p.decorate p.check now n hmem).resolve_left hupdates
    obtain ⟨earlier, reading, retries, rfl, hretries, hget, hprompts⟩ :=
      r.exists_reading c.handler bucket p.decorate p.check now n hsplit hupdates
    rw [hrequest] at hsends hprompts
    -- The policy corrects the snapshot that was read, and keeps its name.
    obtain ⟨found, drifted, hfound, hcheck, rfl⟩ := hprompts
    obtain rfl := hpolicy.eq_of_nonCompliant hcheck
    have hname : drifted.name = bucket := hsends.name_eq
    rw [List.append_assoc, List.cons_append] at hsplit
    obtain ⟨response, hfinds, hread⟩ :=
      Client.exists_finds hsplit hget hfound hname (p.accepts_of_nonCompliant hcheck)
    exact ⟨earlier, reading, retries, response, rfl, hretries, hfinds,
      Client.replaces_of_receives hfinds.received hread hname p hrequest⟩

/-- A bucket with labels of which one is given twice, a generation that is a number, a place that is
not known, and a time with an offset. -/
def driftedBucket : String :=
  "\x7b\"name\":\"ci-artifacts\",\"labels\":\x7b\"team\":\"build\",\"team\":\"\\u006fps\"\x7d," ++
    "\"metageneration\":3,\"location\":null,\"timeCreated\":\"2024-01-31T01:00:00+01:00\"\x7d"

def driftedAnswer : Response := ⟨200, [], Text.utf8Bytes driftedBucket⟩

/-- A bucket without rules is replaced after one reading, and its metadata is kept. -/
theorem keepsMetadata_of_drifted_bucket :
    ∃ reading put rest,
      ((Reconciler.mk .standard 3 none).run (localClient none).handler "ci-artifacts"
        (Expiring.decorate ⟨30⟩) (Expiring.check ⟨30⟩) 0
        (.scripted [.answered driftedAnswer])).exchanges = reading :: put :: rest ∧
      (localClient none).Finds (.scripted [.answered driftedAnswer]) "ci-artifacts" ⟨30⟩ [] reading
        driftedAnswer ∧
      (localClient none).Replaces put driftedAnswer.text := by
  have hsent : (((localClient none).prepared? (.get "ci-artifacts")).bind fun prepared =>
      (Network.send (localClient none).config.timeout prepared.1 prepared.2
        (.scripted [.answered driftedAnswer])).result.toOption) = some ⟨driftedAnswer, true⟩ := by
    decide +kernel
  have hread : (Snapshot.ofText driftedAnswer.text).toOption.map
      (fun found => (found.name, Expiring.accepts ⟨30⟩ found)) = some ("ci-artifacts", false) := by
    decide +kernel
  obtain ⟨hforward, -⟩ := correction_keepsMetadata (localClient none)
    (Reconciler.mk .standard 3 none) ⟨30⟩ "ci-artifacts" 0 (.scripted [.answered driftedAnswer])
  have hfirst : ((Reconciler.mk .standard 3 none).run (localClient none).handler "ci-artifacts"
      (Expiring.decorate ⟨30⟩) (Expiring.check ⟨30⟩) 0
      (.scripted [.answered driftedAnswer])).exchanges.head?.map Exchange.request =
        some (.get "ci-artifacts") := by
    rfl
  obtain ⟨reading, hhead, hrequest⟩ := Option.map_eq_some_iff.1 hfirst
  obtain ⟨later, hexchanges⟩ := List.head?_eq_some_iff.1 hhead
  obtain ⟨⟨shown, r⟩, hprepared, hresult⟩ := Option.bind_eq_some_iff.1 hsent
  obtain ⟨found, hfound, hrejected⟩ := Option.map_eq_some_iff.1 hread
  obtain ⟨hname, hrejected⟩ := Prod.mk.inj hrejected
  have hfinds : (localClient none).Finds (.scripted [.answered driftedAnswer]) "ci-artifacts" ⟨30⟩
      [] reading driftedAnswer :=
    ⟨hrequest, ⟨shown, r, hprepared, toOption_eq_some hresult, rfl⟩,
      ⟨found, toOption_eq_some hfound, hname, hrejected⟩⟩
  rcases hforward [] reading later driftedAnswer hexchanges hfinds with
    ⟨put, rest, rfl, hreplaces⟩ | ⟨-, hcut⟩
  · exact ⟨reading, put, rest, hexchanges, hfinds, hreplaces⟩
  · exact absurd hcut (Program.ending_ne_deadline _ _ _ _)

/-- A bucket with a member that no snapshot knows of, and with a time beyond the nanosecond. -/
def describedBucket : List (String × Json.Node) :=
  [("kind", .ofString "storage#bucket"), ("name", .ofString "ci-artifacts"),
    ("timeCreated", .ofString "2024-01-31T00:00:00.0000000019Z")]

/-- What of it is repeated when its objects come to expire. -/
def correctedBucket : List (String × Json.Node) :=
  [("name", .ofString "ci-artifacts"), ("lifecycle", (Lifecycle.mk [.deleteAfter 30]).encode),
    ("timeCreated", .ofString "2024-01-31T00:00:00.000000001Z")]

/-- A member that a snapshot does not know of is not repeated, and neither is what a time says
beyond the nanosecond. -/
theorem drops_of_undeclared_member :
    (Reconciler.standard.run (localClient none).handler "ci-artifacts" (Expiring.decorate ⟨30⟩)
        (Expiring.check ⟨30⟩) 0 (.scripted [.answered
          ⟨200, [], Text.utf8Bytes (Json.Node.ofMembers describedBucket).text⟩])).state.received.map
        (fun r => (r.method, r.body)) =
      [(.get, none), (.put, some (Text.utf8Bytes (Json.Node.ofMembers correctedBucket).text))] ∧
    Json.Document.ofString (Json.Node.ofMembers describedBucket).text =
      ⟨.ofMembers describedBucket, false⟩ ∧
    Json.Document.ofString (Json.Node.ofMembers correctedBucket).text =
      ⟨.ofMembers correctedBucket, false⟩ ∧
    ∀ v, ("kind", v) ∉ correctedBucket := by
  have hdescribed : (Json.Node.ofMembers describedBucket).Plain := by
    refine .object fun member hmember => ?_
    simp only [describedBucket, List.mem_cons, List.not_mem_nil, or_false] at hmember
    rcases hmember with rfl | rfl | rfl <;> exact .string _
  have hcorrected : (Json.Node.ofMembers correctedBucket).Plain := by
    refine .object fun member hmember => ?_
    simp only [correctedBucket, List.mem_cons, List.not_mem_nil, or_false] at hmember
    rcases hmember with rfl | rfl | rfl
    · exact .string _
    · exact Lifecycle.faithful.plain _
    · exact .string _
  refine ⟨?_, Json.Document.ofString_text hdescribed, Json.Document.ofString_text hcorrected, ?_⟩
  · decide +kernel
  · intro v hv
    simp [correctedBucket] at hv

end BucketLifecycle
