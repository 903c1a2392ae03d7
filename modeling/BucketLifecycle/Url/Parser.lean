import BucketLifecycle.Url.Basic

/-!
# Reading URLs

Blanks and control characters on both sides, and tabs and line breaks anywhere, are passed over.  A
special scheme is followed by a host, whatever the number of slashes; a backslash counts as a slash
there.  Segments `.` and `..` are resolved, also where their periods are encoded.  A text without a
scheme is resolved against a base, if there is one.
-/

set_option autoImplicit false

namespace BucketLifecycle.Url

/-- A character that every part of a URL encodes: controls and all outside ASCII. -/
def isAlwaysEncoded (c : Char) : Bool :=
  c.toNat < 0x20 || 0x7E < c.toNat

/-- Leaves alone the printable ASCII characters outside a list. -/
def plainExcept (encoded : List Char) (c : Char) : Bool :=
  !isAlwaysEncoded c && !encoded.contains c

def encodeFragment (cs : List Char) : List Char :=
  Percent.encodeOutside (plainExcept [' ', '"', '<', '>', '\x60']) cs

/-- Encodes a segment of a path. -/
def encodePathSegment (cs : List Char) : List Char :=
  Percent.encodeOutside (plainExcept [' ', '"', '<', '>', '\x60', '#', '?', '\x7b', '\x7d']) cs

/-- Encodes a query; a special scheme also encodes the single quote. -/
def encodeQuery (special : Bool) (cs : List Char) : List Char :=
  Percent.encodeOutside
    (plainExcept ([' ', '"', '#', '<', '>'] ++ if special then ['\''] else [])) cs

def encodeUserinfo (cs : List Char) : List Char :=
  Percent.encodeOutside (plainExcept [' ', '"', '<', '>', '\x60', '#', '?', '\x7b', '\x7d', '/',
    ':', ';', '=', '@', '[', '\\', ']', '^', '|']) cs

def encodeOpaque (cs : List Char) : List Char :=
  Percent.encodeOutside (plainExcept []) cs

def isSlash (special : Bool) (c : Char) : Bool :=
  c == '/' || (special && c == '\\')

/-- The text without what is passed over. -/
def cleaned (cs : List Char) : List Char :=
  let outer (c : Char) : Bool := c.toNat ≤ 0x20
  let inner := ((cs.dropWhile outer).reverse.dropWhile outer).reverse
  inner.filter fun c => c != '\t' && c != '\n' && c != '\r'

/-- The scheme in lower case, and what follows its colon. -/
def takeScheme? (cs : List Char) : Option (List Char × List Char) :=
  match cs with
  | [] => none
  | c :: _ =>
    if c.isAlpha then
      let scheme := cs.takeWhile fun c => c.isAlphanum || c == '+' || c == '-' || c == '.'
      match cs.drop scheme.length with
      | ':' :: rest => some (scheme.map Char.toLower, rest)
      | _ => none
    else none

/-- What stands in front of a mark and what behind it, if the mark is there. -/
def splitMark (mark : Char) (cs : List Char) : List Char × Option (List Char) :=
  match Text.cutAt mark cs with
  | none => (cs, none)
  | some (front, back) => (front, some back)

/-- A text in its path, query and fragment. -/
structure Tail where
  path : List Char
  query : Option (List Char)
  fragment : Option (List Char)

/-- Cuts off query and fragment and encodes them. -/
def Tail.ofChars (special : Bool) (cs : List Char) : Tail :=
  let (front, fragment) := splitMark '#' cs
  let (path, query) := splitMark '?' front
  ⟨path, query.map (encodeQuery special), fragment.map encodeFragment⟩

/-- A segment that stands for the one it is in; its period may be encoded. -/
def isSingleDot (cs : List Char) : Bool :=
  ["%2e".toList, ".".toList].contains (cs.map Char.toLower)

/-- A segment that stands for the one above; its periods may be encoded. -/
def isDoubleDot (cs : List Char) : Bool :=
  ["..".toList, ".%2e".toList, "%2e.".toList, "%2e%2e".toList].contains (cs.map Char.toLower)

/-- A letter and a colon, which name a drive. -/
def isDrive : List Char → Bool
  | [c, ':'] => c.isAlpha
  | _ => false

/-- The segments above the last; the drive of a file stays. -/
def above (scheme : List Char) (names : List (List Char)) : List (List Char) :=
  match names with
  | [name] => if scheme == fileScheme && isDrive name then names else []
  | names => names.dropLast

/-- Puts pieces of a path behind segments, resolving the relative ones.  A relative piece at the end
leaves an empty segment. -/
def resolvePieces (scheme : List Char) : (names pieces : List (List Char)) → List (List Char)
  | names, [] => names
  | names, piece :: rest =>
    let more := !rest.isEmpty
    if isDoubleDot piece then
      let names := above scheme names
      resolvePieces scheme (if more then names else names ++ [[]]) rest
    else if isSingleDot piece then
      resolvePieces scheme (if more then names else names ++ [[]]) rest
    else resolvePieces scheme (names ++ [encodePathSegment piece]) rest

/-- The pieces of a path between slashes. -/
def pieces (special : Bool) (cs : List Char) : List (List Char) :=
  Text.segments '/' (cs.map fun c => if isSlash special c then '/' else c)

/-- A path that begins at the root; its first slash may be missing. -/
def rootedPath (scheme : List Char) (special : Bool) (cs : List Char) : UrlPath :=
  match cs with
  | [] => .segments (if special then [[]] else [])
  | c :: rest =>
    .segments (resolvePieces scheme [] (pieces special (if isSlash special c then rest else cs)))

/-- A port: digits up to 65535. -/
def port? (cs : List Char) : Except UrlError (Option Nat) :=
  if cs.isEmpty then .ok none
  else if cs.all Char.isDigit && Text.digitsValue cs < 65536 then .ok (some (Text.digitsValue cs))
  else .error .badPort

/-- What stands in front of the last mark and what behind it, if the mark is there. -/
def splitLast (mark : Char) (cs : List Char) : Option (List Char × List Char) :=
  (Text.cutAt mark cs.reverse).map fun (back, front) => (front.reverse, back.reverse)

/-- The text of a host up to the colon in front of its port; a colon between square brackets
belongs to the host. -/
def hostText : (inBrackets : Bool) → List Char → List Char
  | _, [] => []
  | inBrackets, c :: cs =>
    if c = ':' ∧ !inBrackets then []
    else c :: hostText (c == '[' || (inBrackets && c != ']')) cs

/-- Reads what follows the two slashes: user and password, host, port, path, query and fragment. -/
def ofAuthority (scheme : List Char) (cs : List Char) : Except UrlError Url := do
  let special := isSpecialScheme scheme
  let authority := cs.takeWhile fun c => !(isSlash special c || c == '?' || c == '#')
  let tail := Tail.ofChars special (cs.drop authority.length)
  let (userinfo, server) := match splitLast '@' authority with
    | none => (none, authority)
    | some (userinfo, server) => (some userinfo, server)
  let (user, password) := splitMark ':' (userinfo.getD [])
  let host := hostText false server
  if host.isEmpty && (special || userinfo.isSome || host.length < server.length) then
    .error .emptyHost
  let written ← if special then Host.ofWeb host else Host.ofOther host
  let port ← port? (server.drop (host.length + 1))
  return {
    scheme
    user := encodeUserinfo user
    password := encodeUserinfo (password.getD [])
    host := if written.isEmpty then none else some written
    port := if port == schemePort? scheme then none else port
    path := rootedPath scheme special tail.path
    query := tail.query
    fragment := tail.fragment }

/-- Reads what follows the scheme of local files. -/
def ofFile (cs : List Char) : Except UrlError Url := do
  let slashes := (cs.takeWhile (isSlash true)).length
  let (host, rest) :=
    if slashes < 2 then ([], cs)
    else
      let rest := cs.drop 2
      let host := rest.takeWhile fun c => !(isSlash true c || c == '?' || c == '#')
      if isDrive host then ([], rest) else (host, rest.drop host.length)
  let written ← if host.isEmpty then pure [] else Host.ofWeb host
  let tail := Tail.ofChars true rest
  return {
    scheme := fileScheme
    user := []
    password := []
    host := if written.isEmpty || written == "localhost".toList then none else some written
    port := none
    path := rootedPath fileScheme true tail.path
    query := tail.query
    fragment := tail.fragment }

/-- Reads what follows any other scheme. -/
def ofOther (scheme : List Char) (cs : List Char) : Except UrlError Url :=
  match Text.dropStart? ['/', '/'] cs with
  | some rest => ofAuthority scheme rest
  | none =>
    let tail := Tail.ofChars false cs
    let path :=
      if tail.path.head? = some '/' then rootedPath scheme false tail.path
      else .opaqueText (encodeOpaque tail.path)
    .ok {
      scheme
      user := []
      password := []
      host := none
      port := none
      path
      query := tail.query
      fragment := tail.fragment }

/-- Resolves a text without a scheme. -/
def ofRelative (base : Url) (cs : List Char) : Except UrlError Url :=
  let special := isSpecialScheme base.scheme
  let tail := Tail.ofChars special cs
  match base.path with
  | .opaqueText _ =>
    if cs.head? = some '#' then .ok { base with fragment := tail.fragment } else .error .relative
  | .segments names =>
    if 2 ≤ (cs.takeWhile (isSlash special)).length then
      ofAuthority base.scheme (cs.dropWhile (isSlash special))
    else if tail.path.isEmpty then
      .ok { base with query := tail.query.or base.query, fragment := tail.fragment }
    else if (tail.path.head?.map (isSlash special)).getD false then
      .ok { base with
        path := rootedPath base.scheme special tail.path
        query := tail.query
        fragment := tail.fragment }
    else
      .ok { base with
        path := .segments
          (resolvePieces base.scheme (above base.scheme names) (pieces special tail.path))
        query := tail.query
        fragment := tail.fragment }

/-- Reads the characters of a URL, against a base where one is given. -/
def ofChars (base : Option Url) (cs : List Char) : Except UrlError Url :=
  let cs := cleaned cs
  match takeScheme? cs, base with
  | none, none => .error .relative
  | none, some base => ofRelative base cs
  | some (scheme, rest), base =>
    if scheme == fileScheme then ofFile rest
    else if isSpecialScheme scheme then
      let slashes := rest.takeWhile (isSlash true)
      match base.filter fun b => b.scheme == scheme && slashes.length < 2 with
      | some base => ofRelative base rest
      | none => ofAuthority scheme (rest.dropWhile (isSlash true))
    else ofOther scheme rest

def parse (s : String) : Except UrlError Url :=
  ofChars none s.toList

end BucketLifecycle.Url
