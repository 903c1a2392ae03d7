import BucketLifecycle.Bucket.SnapshotJson
import BucketLifecycle.Client.Status
import BucketLifecycle.Object.Info
import BucketLifecycle.Reconcile
import BucketLifecycle.Settings.Basic

/-!
# The client of the storage service

Each operation is one request below the endpoint.  The endpoint must be a URL and the user agent a
header value for a client to be made; what else is wrong with a request shows when it is made.
-/

set_option autoImplicit false

namespace BucketLifecycle

open Http

/-- The settings of a client. -/
structure ClientConfig where
  endpoint : String
  accessToken : Option String
  /-- the project that owns new buckets -/
  project : Option String
  /-- the longest that one request may take -/
  timeout : Duration
  userAgent : String
  deriving DecidableEq, Repr

/-- Why no client can be made. -/
inductive ClientError where
  | endpoint (value : String) (reason : UrlError)
  | userAgent (value : String)
  deriving DecidableEq, Repr

def ClientError.message : ClientError → String
  | .endpoint value reason =>
    "Configuration error: invalid endpoint " ++ Text.quoted value ++ ": " ++ reason.message
  | .userAgent value => "Configuration error: invalid user agent " ++ Text.quoted value

namespace ClientConfig

def ofEndpoint (endpoint : String) : ClientConfig :=
  ⟨endpoint, none, none, Duration.ofSeconds 30, "bucket-steward/0.1.0"⟩

/-- The endpoint without slashes at its end. -/
def baseUrl (c : ClientConfig) : String :=
  String.ofList ((c.endpoint.toList.reverse.dropWhile (· == '/')).reverse)

end ClientConfig

def Settings.client (s : Settings) : ClientConfig :=
  { ClientConfig.ofEndpoint s.endpoint with
    accessToken := s.accessToken
    project := s.project
    timeout := Duration.ofSeconds s.timeoutSecs }

/-- A client of the storage service. -/
structure Client where
  config : ClientConfig
  deriving DecidableEq, Repr

/-- What a request carries. -/
structure Payload where
  contentType : String
  data : Bytes
  deriving DecidableEq, Repr

/-- The result of a call, how long it takes, and the network afterwards. -/
abbrev CallReply (α : Type) := Reply Network (Except StoreError α)

namespace Client

/-- Makes a client where the settings allow it. -/
def ofConfig (c : ClientConfig) : Except ClientError Client :=
  match Url.parse c.endpoint with
  | .error reason => .error (.endpoint c.endpoint reason)
  | .ok _ => if isHeaderValue c.userAgent then .ok ⟨c⟩ else .error (.userAgent c.userAgent)

def bucketPath (bucket : String) : List Char :=
  "/storage/v1/b/".toList ++ Percent.encodeSegment bucket.toList

def base64Char (n : Nat) : Char :=
  if n < 26 then Char.ofNat (65 + n)
  else if n < 52 then Char.ofNat (71 + n)
  else if n < 62 then Char.ofNat (n - 4)
  else if n = 62 then '+' else '/'

def base64 : Bytes → List Char
  | [] => []
  | [a] => [base64Char (a.toNat / 4), base64Char (a.toNat % 4 * 16), '=', '=']
  | [a, b] =>
    [base64Char (a.toNat / 4), base64Char (a.toNat % 4 * 16 + b.toNat / 16),
      base64Char (b.toNat % 16 * 4), '=']
  | a :: b :: c :: rest =>
    base64Char (a.toNat / 4) :: base64Char (a.toNat % 4 * 16 + b.toNat / 16) ::
      base64Char (b.toNat % 16 * 4 + c.toNat / 64) :: base64Char (c.toNat % 64) :: base64 rest

/-- User and password of a URL, where there is one and the user is text.  A password that is no text
is left out. -/
def credentials? (u : Url) : Option Bytes := do
  let user ← Text.utf8Text? (Percent.decode u.user)
  let password := (Text.utf8Text? (Percent.decode u.password)).getD ""
  if user.isEmpty && password.isEmpty then none
  else some (Text.utf8Bytes user ++ 0x3A :: Text.utf8Bytes password)

/-- The authorization of a URL with user and password. -/
def basicAuthorization (u : Url) : Headers :=
  (credentials? u).toList.map fun credentials =>
    ("authorization", "Basic " ++ String.ofList (base64 credentials))

/-- The authorization by a token. -/
def bearerAuthorization (token : Option String) : Headers :=
  token.toList.map fun token => ("authorization", "Bearer " ++ token)

/-- The headers that describe what a request carries. -/
def payloadHeaders (payload : Option Payload) : Headers :=
  payload.toList.flatMap fun p =>
    [("content-type", p.contentType),
      ("content-length", String.ofList (Text.writeNat p.data.length))]

/-- The headers of a request to a URL.  A token does not replace the authorization that the URL
brings along: the request has both. -/
def headers (c : Client) (url : Url) (payload : Option Payload) : Headers :=
  basicAuthorization url ++ bearerAuthorization c.config.accessToken ++ payloadHeaders payload ++
    [("accept", "*/*"), ("user-agent", c.config.userAgent)]

/-- The URL of a request: below the endpoint, with a query. -/
def requestUrl (c : Client) (path : List Char) (query : List (String × String)) :
    Except Failure Url :=
  match Url.ofChars none (c.config.baseUrl.toList ++ path) with
  | .error _ => .error (.builder none)
  | .ok url => if url.hasHost then .ok (url.withQuery query) else .error (.builder (some url))

/-- The request, with its URL as a failure shows it.  The URL is looked at first, then the headers,
and last whether a request can be made for the URL at all. -/
def request (c : Client) (method : Method) (path : List Char) (query : List (String × String))
    (payload : Option Payload) : Except Failure (Url × Request) := do
  let url ← c.requestUrl path query
  let shown := url.withoutCredentials
  let headers := c.headers url payload
  if headers.any fun h => !isHeaderValue h.2 then .error (.builder none)
  if !shown.isSendable then .error (.builder (some shown))
  return (shown, ⟨method, shown.withoutFragment, headers, payload.map Payload.data⟩)

/-- Sends a request; an answer that is no success is a failure. -/
def exchange (c : Client) (method : Method) (path : List Char) (query : List (String × String))
    (payload : Option Payload) (n : Network) : CallReply Received :=
  match c.request method path query payload with
  | .error f => ⟨.error (.ofFailure f), Duration.zero, n⟩
  | .ok (shown, r) =>
    let e := n.send c.config.timeout shown r
    match e.result with
    | .error f => ⟨.error (.ofFailure f), e.delay, e.network⟩
    | .ok received =>
      if received.response.isSuccess then ⟨.ok received, e.delay, e.network⟩
      else
        let text := if received.complete then received.response.text else ""
        ⟨.error (.ofStatus received.response.status text), e.delay, e.network⟩

/-- Goes on with the answer to a request. -/
def andThen {α β : Type} (r : CallReply α) (f : α → Except StoreError β) : CallReply β :=
  ⟨r.answer.bind f, r.delay, r.state⟩

/-- The value of an answer in JSON.  The error for another value does not say where in the body it
stands. -/
def decodeBody {α : Type} (d : Json.Decoder α) (r : Received) : Except StoreError α :=
  if r.complete then (d.run r.response.text).mapError fun e => .decode e.message
  else .error (.ofFailure .body)

def bodyBytes (r : Received) : Except StoreError Bytes :=
  if r.complete then .ok r.response.body else .error (.ofFailure .body)

/-- A snapshot as what a request carries. -/
def snapshotPayload (s : Snapshot) : Payload :=
  ⟨"application/json", Text.utf8Bytes s.toText⟩

def get (c : Client) (bucket : String) (n : Network) : CallReply Snapshot :=
  andThen (c.exchange .get (bucketPath bucket) [] none n) (decodeBody Snapshot.decode)

/-- Creates a bucket in the configured project. -/
def insert (c : Client) (desired : Snapshot) (n : Network) : CallReply Snapshot :=
  match c.config.project with
  | none => ⟨.error (.invalidRequest "a project is required to create buckets"), Duration.zero, n⟩
  | some project =>
    andThen
      (c.exchange .post "/storage/v1/b".toList [("project", project)]
        (some (snapshotPayload desired)) n)
      (decodeBody Snapshot.decode)

/-- Replaces the metadata of a bucket. -/
def update (c : Client) (desired : Snapshot) (n : Network) : CallReply Snapshot :=
  andThen (c.exchange .put (bucketPath desired.name) [] (some (snapshotPayload desired)) n)
    (decodeBody Snapshot.decode)

def delete (c : Client) (bucket : String) (n : Network) : CallReply Unit :=
  andThen (c.exchange .delete (bucketPath bucket) [] none n) fun _ => .ok ()

/-- Uploads an object in one request.  A prefix is no object. -/
def upload (c : Client) (u : ObjectUri) (payload : Payload) (n : Network) : CallReply ObjectInfo :=
  if u.path.isEmpty || u.path.toList.getLast? == some '/' then
    ⟨.error (.invalidRequest (u.toText ++ " does not name an object")), Duration.zero, n⟩
  else
    let path := "/upload/storage/v1/b/".toList ++ Percent.encodeSegment u.bucket.name.toList ++
      "/o".toList
    andThen (c.exchange .post path [("uploadType", "media"), ("name", u.path)] (some payload) n)
      (decodeBody ObjectInfo.decode)

def download (c : Client) (u : ObjectUri) (n : Network) : CallReply Bytes :=
  let path := bucketPath u.bucket.name ++ "/o/".toList ++ Percent.encodeSegment u.path.toList
  andThen (c.exchange .get path [("alt", "media")] none n) bodyBytes

/-- Answers the calls of a reconciliation over the network. -/
def handler (c : Client) : Handler Network BucketCall (Except StoreError Snapshot) :=
  fun _ call n => match call with
  | .get name => c.get name n
  | .insert desired => c.insert desired n
  | .update desired => c.update desired n

end Client

end BucketLifecycle
