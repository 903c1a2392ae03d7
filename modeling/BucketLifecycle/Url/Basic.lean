import BucketLifecycle.Url.Host

/-!
# URLs

A URL in its parts, each as it is written: encoded, with a lower-case scheme and host and without
the scheme's own port.  The path of a web URL is a list of segments; that of a URL without
hierarchy is one text.
-/

set_option autoImplicit false

namespace BucketLifecycle

/-- The path of a URL. -/
inductive UrlPath where
  | opaqueText (text : List Char)
  | segments (names : List (List Char))
  deriving DecidableEq, Repr

/-- A URL in its parts. -/
structure Url where
  scheme : List Char
  user : List Char
  password : List Char
  host : Option (List Char)
  port : Option Nat
  path : UrlPath
  query : Option (List Char)
  fragment : Option (List Char)
  deriving DecidableEq, Repr

/-- The port that a scheme uses where none is given; these schemes always have a host. -/
def schemePort? (scheme : List Char) : Option Nat :=
  [("http", 80), ("https", 443), ("ws", 80), ("wss", 443), ("ftp", 21)].lookup
    (String.ofList scheme)

def fileScheme : List Char := "file".toList

/-- Whether a scheme always has a hierarchy. -/
def isSpecialScheme (scheme : List Char) : Bool :=
  (schemePort? scheme).isSome || scheme == fileScheme

namespace Url

/-- The path as it is written. -/
def pathText (u : Url) : List Char :=
  match u.path with
  | .opaqueText text => text
  | .segments names => names.flatMap fun name => '/' :: name

/-- User and password as they are written in front of the host. -/
def credentialsText (u : Url) : List Char :=
  if u.user.isEmpty && u.password.isEmpty then []
  else u.user ++ (if u.password.isEmpty then [] else ':' :: u.password) ++ ['@']

/-- The host with what belongs to it, as it is written. -/
def authorityText (u : Url) : List Char :=
  match u.host with
  | none => if u.scheme == fileScheme then ['/', '/'] else []
  | some host =>
    ['/', '/'] ++ u.credentialsText ++ host ++
      (match u.port with
        | none => []
        | some port => ':' :: Text.writeNat port)

def chars (u : Url) : List Char :=
  u.scheme ++ ':' :: u.authorityText ++ u.pathText ++
    (match u.query with
      | none => []
      | some q => '?' :: q) ++
    (match u.fragment with
      | none => []
      | some f => '#' :: f)

def toText (u : Url) : String :=
  String.ofList u.chars

/-- Whether the URL names a host. -/
def hasHost (u : Url) : Bool :=
  u.host.isSome

/-- Whether the URL is one of the web. -/
def isWeb (u : Url) : Bool :=
  u.scheme == "http".toList || u.scheme == "https".toList

/-- The characters that a URL may have in its host and the head of a request may not. -/
def isOutsideAuthority (c : Char) : Bool :=
  c == '"' || c == '\x60' || c == '\x7b' || c == '\x7d'

/-- The longest URL that a request is made for, in bytes. -/
def maxSendableLength : Nat := 65534

/-- Whether a request can be made for the URL. -/
def isSendable (u : Url) : Bool :=
  u.isWeb && !((u.host.getD []).any isOutsideAuthority) && u.chars.length ≤ maxSendableLength

/-- The port that a connection is made to. -/
def effectivePort (u : Url) : Option Nat :=
  u.port.or (schemePort? u.scheme)

/-- Whether two URLs lead to different servers. -/
def crossesHost (u v : Url) : Bool :=
  u.host != v.host || u.effectivePort != v.effectivePort

/-- The URL without user and password. -/
def withoutCredentials (u : Url) : Url :=
  { u with user := [], password := [] }

/-- The URL without its fragment, which is not sent. -/
def withoutFragment (u : Url) : Url :=
  { u with fragment := none }

/-- The URL with names and values put behind its query. -/
def withQuery (u : Url) (pairs : List (String × String)) : Url :=
  if pairs.isEmpty then u
  else
    let more := Percent.formQuery pairs
    let query := match u.query with
      | none | some [] => more
      | some q => q ++ '&' :: more
    { u with query := some query }

end Url

end BucketLifecycle
