import BucketLifecycle.Http.Charset
import BucketLifecycle.Url.Parser

/-!
# Requests and answers

A request is sent to a URL without credentials and fragment, with its headers in the order in which
they were added.  A header value may hold tabs, printable ASCII and anything outside ASCII.

The status decides how an answer is framed.  Those from 100 to 199 only say that an answer is to
come, 101 apart; and after some the answer ends with its head, whatever stands behind that.
-/

set_option autoImplicit false

namespace BucketLifecycle.Http

/-- The method of a request. -/
inductive Method where
  | get
  | post
  | put
  | delete
  deriving DecidableEq, Repr

def Method.name : Method → String
  | .get => "GET"
  | .post => "POST"
  | .put => "PUT"
  | .delete => "DELETE"

/-- Names with values, names in lower case. -/
abbrev Headers := List (String × String)

/-- A request. -/
structure Request where
  method : Method
  url : Url
  headers : Headers
  body : Option Bytes
  deriving DecidableEq, Repr

/-- An answer. -/
structure Response where
  status : Nat
  headers : Headers
  body : Bytes
  deriving DecidableEq, Repr

/-- Whether a status is one of three digits that ends the exchange. -/
def isFinal (status : Nat) : Bool :=
  status == 101 || (200 ≤ status && status ≤ 999)

/-- Whether an answer with a status ends with its head. -/
def isBodiless (status : Nat) : Bool :=
  [101, 204, 304].contains status

/-- The answer as it is read, without what stands behind its end. -/
def Response.asRead (r : Response) : Response :=
  if isBodiless r.status then { r with body := [] } else r

/-- Whether a text may be the value of a header. -/
def isHeaderValue (s : String) : Bool :=
  s.toList.all fun c => c == '\t' || (0x20 ≤ c.toNat && c.toNat != 0x7F)

def header? (headers : Headers) (name : String) : Option String :=
  headers.lookup name

/-- The headers without those of some names. -/
def Headers.without (headers : Headers) (names : List String) : Headers :=
  headers.filter fun h => !names.contains h.1

/-- Whether the answer is a success. -/
def Response.isSuccess (r : Response) : Bool :=
  200 ≤ r.status && r.status < 300

/-- The text of the answer's body. -/
def Response.text (r : Response) : String :=
  decodeBody (header? r.headers "content-type") r.body

end BucketLifecycle.Http
