import BucketLifecycle.Proofs.Client.Exchanges

/-!
# Operations as requests

Each operation of a client is one request and a reading of what a success carries (`Inquiry`).
Where the request can be made, performing the operation sends it, and the operation begins with it
whatever redirects follow (`Client.begins_of_prepare`); where it cannot be made, nothing is sent
(`Client.perform_of_error`).
-/

set_option autoImplicit false

namespace BucketLifecycle

open Http

/-- What an operation asks of the service, and what the answer to it must hold. -/
structure Inquiry (α : Type) where
  method : Method
  path : List Char
  query : List (String × String)
  payload : Option Payload
  content : Response → Except String α

namespace Inquiry

variable {α : Type}

/-- The content of a body in JSON. -/
def jsonContent (d : Json.Decoder α) (response : Response) : Except String α :=
  (d.run response.text).mapError fun e => e.message

def get (bucket : String) : Inquiry Snapshot :=
  ⟨.get, Client.bucketPath bucket, [], none, jsonContent Snapshot.decode⟩

def insert (project : String) (desired : Snapshot) : Inquiry Snapshot :=
  ⟨.post, "/storage/v1/b".toList, [("project", project)], some (Client.snapshotPayload desired),
    jsonContent Snapshot.decode⟩

def update (desired : Snapshot) : Inquiry Snapshot :=
  ⟨.put, Client.bucketPath desired.name, [], some (Client.snapshotPayload desired),
    jsonContent Snapshot.decode⟩

def upload (u : ObjectUri) (payload : Payload) : Inquiry ObjectInfo :=
  ⟨.post, "/upload/storage/v1/b/".toList ++ Percent.encodeSegment u.bucket.name.toList ++
      "/o".toList,
    [("uploadType", "media"), ("name", u.path)], some payload, jsonContent ObjectInfo.decode⟩

def download (u : ObjectUri) : Inquiry Bytes :=
  ⟨.get, Client.bucketPath u.bucket.name ++ "/o/".toList ++ Percent.encodeSegment u.path.toList,
    [("alt", "media")], none, fun response => .ok response.body⟩

/-- What a success comes to.  A body that is cut short has no content. -/
def read (o : Inquiry α) (r : Received) : Except StoreError α :=
  if r.complete then (o.content r.response).mapError .decode else .error (.ofFailure .body)

end Inquiry

/-- An object is named by a path that ends in a name. -/
def ObjectUri.NamesObject (u : ObjectUri) : Prop :=
  u.path ≠ "" ∧ u.path.toList.getLast? ≠ some '/'

/-- A call whose first request is this one, on any network that requests can reach. -/
def BeginsWith {α : Type} (call : Network → CallReply α) (r : Request) : Prop :=
  ∀ n : Network, n.reachable = true →
    ∃ more, (call n).state.received = n.received ++ r :: more

/-- A request to a network that can be reached arrives there. -/
theorem Http.Network.deliver_of_reachable {n : Network} (h : n.reachable = true) (r : Request) :
    (n.deliver r).2.reachable = true ∧ (n.deliver r).2.received = n.received ++ [r] := by
  unfold Network.deliver
  rw [h]
  cases n.script <;> exact ⟨rfl, rfl⟩

/-- Sending a request adds it to those that have arrived, and behind it those that redirects lead
to. -/
theorem Http.Network.exists_received_sendFrom (timeout : Duration) (left : Nat) (shown : Url)
    (r : Request) {n : Network} (h : n.reachable = true) :
    ∃ more, (sendFrom timeout left shown r n).network.received = n.received ++ r :: more := by
  induction left using Nat.strongRecOn generalizing shown r n with
  | ind left ih =>
  have hdelivered := deliver_of_reachable h r
  unfold sendFrom
  revert hdelivered
  obtain ⟨d, after⟩ := n.deliver r
  rintro ⟨hreachable, hreceived⟩
  have hstays : ∃ more, after.received = n.received ++ r :: more := ⟨[], hreceived⟩
  cases d with
  | dropped | silent => exact hstays
  | answered response | cutShort response =>
    dsimp only
    cases location? r response with
    | none => exact hstays
    | some location =>
      cases left with
      | zero => exact hstays
      | succ left =>
        dsimp only
        split
        · obtain ⟨more, hmore⟩ := ih left (Nat.lt_succ_self left) location
            (redirected r response.status location) hreachable
          refine ⟨redirected r response.status location :: more, ?_⟩
          rw [hmore, hreceived, List.append_assoc]
          rfl
        · exact hstays

namespace Client

variable {α : Type} {c : Client}

/-- The request of an operation, and its URL as a failure shows it. -/
def prepare (c : Client) (o : Inquiry α) : Except Http.Failure (Url × Request) :=
  c.request o.method o.path o.query o.payload

/-- Sends the request of an operation and reads the answer. -/
def perform (c : Client) (o : Inquiry α) (n : Network) : CallReply α :=
  andThen (c.exchange o.method o.path o.query o.payload n) o.read

/-- A body is decoded where it is complete, and is a failure of its own elsewhere. -/
theorem decodeBody_eq (d : Json.Decoder α) (r : Received) :
    decodeBody d r =
      if r.complete then (Inquiry.jsonContent d r.response).mapError .decode
      else .error (.ofFailure .body) := by
  unfold decodeBody Inquiry.jsonContent
  cases d.run r.response.text <;> rfl

/-- Reading a bucket is an inquiry. -/
theorem get_eq (c : Client) (bucket : String) : c.get bucket = c.perform (.get bucket) := by
  funext n
  exact congrArg (andThen _) (funext (decodeBody_eq Snapshot.decode))

/-- Creating a bucket in a project is an inquiry. -/
theorem insert_eq {project : String} (h : c.config.project = some project) (desired : Snapshot) :
    c.insert desired = c.perform (.insert project desired) := by
  funext n
  unfold insert
  rw [h]
  exact congrArg (andThen _) (funext (decodeBody_eq Snapshot.decode))

/-- Replacing a bucket is an inquiry. -/
theorem update_eq (c : Client) (desired : Snapshot) :
    c.update desired = c.perform (.update desired) := by
  funext n
  exact congrArg (andThen _) (funext (decodeBody_eq Snapshot.decode))

/-- An upload to what names an object is an inquiry. -/
theorem upload_eq {u : ObjectUri} (h : u.NamesObject) (payload : Payload) :
    c.upload u payload = c.perform (.upload u payload) := by
  have hobject : ¬(u.path.isEmpty || u.path.toList.getLast? == some '/') = true := by
    simpa [ObjectUri.NamesObject] using h
  funext n
  have hread : decodeBody ObjectInfo.decode = (Inquiry.upload u payload).read :=
    funext (decodeBody_eq ObjectInfo.decode)
  unfold upload perform
  rw [if_neg hobject, hread]
  rfl

/-- A download is an inquiry. -/
theorem download_eq (c : Client) (u : ObjectUri) : c.download u = c.perform (.download u) :=
  rfl

variable {o : Inquiry α}

/-- What can be wrong with a request is that it cannot be made. -/
theorem exists_builder_of_prepare {f : Http.Failure} (h : c.prepare o = .error f) :
    ∃ url, f = .builder url := by
  unfold prepare request at h
  cases hurl : c.requestUrl o.path o.query with
  | error g =>
    rw [hurl] at h
    cases h
    unfold requestUrl at hurl
    split at hurl
    · cases hurl
      exact ⟨_, rfl⟩
    split at hurl
    · cases hurl
    · cases hurl
      exact ⟨_, rfl⟩
  | ok url =>
    rw [hurl] at h
    simp only [bind, Except.bind] at h
    split at h
    · cases h
      exact ⟨_, rfl⟩
    split at h
    · cases h
      exact ⟨_, rfl⟩
    · cases h

/-- An inquiry for which there is no request fails and sends nothing. -/
theorem perform_of_error {f : Http.Failure} (h : c.prepare o = .error f) (n : Network) :
    c.perform o n = ⟨.error (.ofFailure f), Duration.zero, n⟩ := by
  unfold perform
  rw [exchange_of_error h]
  rfl

/-- An inquiry for which there is a request reads what is judged of sending it. -/
theorem perform_of_request {shown : Url} {r : Request} (h : c.prepare o = .ok (shown, r))
    (n : Network) :
    (c.perform o n).answer = (judged (n.send c.config.timeout shown r).result).bind o.read ∧
      (c.perform o n).state = (n.send c.config.timeout shown r).network := by
  obtain ⟨hanswer, hstate⟩ := exchange_of_request h n
  unfold perform andThen
  dsimp only
  rw [hanswer]
  exact ⟨rfl, hstate⟩

/-- An inquiry begins with the request that is made for it. -/
theorem begins_of_prepare {shown : Url} {r : Request} (h : c.prepare o = .ok (shown, r)) :
    BeginsWith (c.perform o) r := by
  intro n hreachable
  rw [(perform_of_request h n).2]
  exact Network.exists_received_sendFrom _ _ _ _ hreachable

/-- An operation begins with the request that is made for it. -/
theorem exists_prepare_of_begins {r : Request} (h : BeginsWith (c.perform o) r) :
    ∃ shown, c.prepare o = .ok (shown, r) := by
  obtain ⟨more, hmore⟩ := h (.scripted []) rfl
  cases hprepare : c.prepare o with
  | error f =>
    rw [perform_of_error hprepare] at hmore
    have hnone : ([] : List Request) = r :: more := hmore
    cases hnone
  | ok prepared =>
    obtain ⟨shown, sent⟩ := prepared
    obtain ⟨after, hafter⟩ := begins_of_prepare hprepare (.scripted []) rfl
    rw [hafter] at hmore
    have hsame : sent = r := (List.cons.inj (List.append_cancel_left hmore)).1
    exact ⟨shown, by rw [hsame]⟩

end Client

end BucketLifecycle
