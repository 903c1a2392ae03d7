import BucketLifecycle.Duration
import BucketLifecycle.Http.Message

/-!
# Exchanges

A network delivers one request at a time.  Here it is a script: each request that arrives takes the
next delivery, whatever host it is for, and after the last one every request is answered with
status 418.  Where no host can be reached nothing arrives at all.

A script holds what servers send, and `Delivery.asRead` is what becomes of that at the other end: an
answer that ends with its head is always complete and has no body, and where nothing but the
announcement of an answer is sent before the connection closes there is none.

`Network.send` follows redirects.  A redirect leads on where it names a location; after ten of them
the next one fails.  Status 301 and 302 turn a POST into a GET, 303 turns every method into GET,
and both drop the body with its headers; 307 and 308 repeat the request.  The authorization is not
carried to another server.  The request says which URL has led to it, but one that is made in the
open does not name a page that was secured.
-/

set_option autoImplicit false

namespace BucketLifecycle.Http

/-- What becomes of one request. -/
inductive Delivery where
  | answered (r : Response)
  /-- an answer whose body ends before its announced length -/
  | cutShort (r : Response)
  /-- the connection is closed without an answer -/
  | dropped
  /-- no answer comes -/
  | silent
  deriving DecidableEq, Repr

/-- What is made of a delivery where it arrives. -/
def Delivery.asRead : Delivery → Delivery
  | .answered r => if isFinal r.status then .answered r.asRead else .dropped
  | .cutShort r =>
    if !isFinal r.status then .dropped
    else if isBodiless r.status then .answered r.asRead else .cutShort r
  | .dropped => .dropped
  | .silent => .silent

/-- A network with its script and the requests that have arrived. -/
structure Network where
  reachable : Bool
  script : List Delivery
  received : List Request
  deriving DecidableEq, Repr

/-- A network where every request arrives. -/
def Network.scripted (script : List Delivery) : Network := ⟨true, script, []⟩

/-- A network where no host can be reached. -/
def Network.unreachable (script : List Delivery) : Network := ⟨false, script, []⟩

/-- The answer when the script has run out. -/
def unscripted : Response := ⟨418, [], Text.utf8Bytes "unscripted"⟩

def Network.deliver (n : Network) (r : Request) : Delivery × Network :=
  if !n.reachable then (.dropped, n)
  else
    let received := n.received ++ [r]
    match n.script with
    | [] => (.answered unscripted, { n with received })
    | d :: rest => (d.asRead, { n with script := rest, received })

/-- Why a request gives no answer. -/
inductive Failure where
  /-- the request could not be made -/
  | builder (url : Option Url)
  | sending (url : Url)
  | redirect (url : Url)
  | body
  deriving DecidableEq, Repr

def Failure.message : Failure → String
  | .builder none => "builder error"
  | .builder (some url) => "builder error for url (" ++ url.toText ++ ")"
  | .sending url => "error sending request for url (" ++ url.toText ++ ")"
  | .redirect url => "error following redirect for url (" ++ url.toText ++ ")"
  | .body => "error decoding response body"

/-- An answer whose body may be incomplete. -/
structure Received where
  response : Response
  complete : Bool
  deriving DecidableEq, Repr

/-- What an exchange comes to: an answer or a failure, how long it takes, and the network
afterwards. -/
structure Exchange where
  result : Except Failure Received
  delay : Duration
  network : Network

/-- The headers that describe a body. -/
def bodyHeaders : List String :=
  ["content-type", "content-length", "content-encoding", "transfer-encoding"]

/-- Whether a status leads elsewhere. -/
def isRedirect (status : Nat) : Bool :=
  [301, 302, 303, 307, 308].contains status

/-- The headers of a request with the page that has led to the next URL, if that may be named. -/
def Headers.withReferer (headers : Headers) (page next : Url) : Headers :=
  if next.scheme == "http".toList && page.scheme == "https".toList then headers
  else
    headers.without ["referer"] ++
      [("referer", page.withoutCredentials.withoutFragment.toText)]

/-- The headers that go along where a redirect leads. -/
def Request.carried (r : Request) (location : Url) : Headers :=
  let kept := if r.url.crossesHost location then r.headers.without ["authorization"] else r.headers
  kept.withReferer r.url location

/-- The request that a redirect leads to. -/
def redirected (r : Request) (status : Nat) (location : Url) : Request :=
  let headers := r.carried location
  if status = 303 ∨ ((status = 301 ∨ status = 302) ∧ r.method = .post) then
    { method := .get, url := location.withoutFragment
      headers := headers.without bodyHeaders, body := none }
  else { r with url := location.withoutFragment, headers }

/-- The location that an answer leads to. -/
def location? (r : Request) (response : Response) : Option Url := do
  let text ← header? response.headers "location"
  if isRedirect response.status then (Url.ofChars (some r.url) text.toList).toOption else none

/-- Sends a request and follows redirects, `left` of them at most.  `shown` is the URL as a failure
shows it. -/
def Network.sendFrom (timeout : Duration) :
    (left : Nat) → (shown : Url) → Request → Network → Exchange
  | left, shown, r, n =>
    let (delivery, n) := n.deliver r
    let arrived (response : Response) (complete : Bool) : Exchange :=
      match location? r response with
      | none => ⟨.ok ⟨response, complete⟩, Duration.zero, n⟩
      | some location =>
        match left with
        | 0 => ⟨.error (.redirect shown), Duration.zero, n⟩
        | left + 1 =>
          if location.isSendable then
            Network.sendFrom timeout left location (redirected r response.status location) n
          else ⟨.error (.builder (some location)), Duration.zero, n⟩
    match delivery with
    | .dropped => ⟨.error (.sending shown), Duration.zero, n⟩
    | .silent => ⟨.error (.sending shown), timeout, n⟩
    | .answered response => arrived response true
    | .cutShort response => arrived response false

/-- The most redirects that are followed. -/
def maxRedirects : Nat := 10

/-- Sends a request and follows redirects. -/
def Network.send (timeout : Duration) (shown : Url) (r : Request) (n : Network) : Exchange :=
  Network.sendFrom timeout maxRedirects shown r n

end BucketLifecycle.Http
