import BucketLifecycle.Client.Basic
import BucketLifecycle.Proofs.Bucket.SnapshotRoundTrip
import BucketLifecycle.Proofs.Bucket.UriGrammar
import BucketLifecycle.Proofs.Url.Below

/-!
# What the requests of a client mean

An endpoint of the plain web has a server, maybe a path, and nothing behind it.  A request goes
below it (`Below`): to its server, and to segments behind those of its path, however many slashes
the endpoint ends in.  `IsReading`, `IsCreation` and `IsReplacement` say what the requests of a
reconciliation ask for, by their method, their URL and what their body reads as.
-/

set_option autoImplicit false

namespace BucketLifecycle

open Http Url

/-- The endpoint is that of a plain web server, without query and fragment. -/
def ClientConfig.HasPlainEndpoint (c : ClientConfig) : Prop :=
  ∃ rest, c.endpoint.toList = "http://".toList ++ rest ∧ '?' ∉ rest ∧ '#' ∉ rest

/-- A URL of the endpoint's server, with segments behind those of the endpoint's path and with a
query. -/
def ClientConfig.Below (c : ClientConfig) (names : List (List Char)) (query : Option (List Char))
    (url : Url) : Prop :=
  ∃ root base, Url.parse (c.baseUrl ++ "/") = .ok root ∧ root.path = .segments (base ++ [[]]) ∧
    url = { root with
      user := [], password := [], path := .segments (base ++ names), query, fragment := none }

def bucketsPath : List (List Char) :=
  ["storage".toList, "v1".toList, "b".toList]

/-- A request that reads a bucket. -/
structure IsReading (c : ClientConfig) (bucket : String) (r : Request) : Prop where
  method : r.method = .get
  below : c.Below (bucketsPath ++ [bucket.toList]) none r.url

/-- A request whose body is the text of a snapshot. -/
def Carries (r : Request) (s : Snapshot) : Prop :=
  ∃ body text, r.body = some body ∧ Text.utf8Text? body = some text ∧ Snapshot.ofText text = .ok s

/-- A request that creates a bucket in the configured project. -/
structure IsCreation (c : ClientConfig) (desired : Snapshot) (r : Request) : Prop where
  method : r.method = .post
  below : ∃ project value, c.project = some project ∧
    c.Below bucketsPath (some ("project=".toList ++ value)) r.url ∧
    Percent.formDecode value = Text.utf8Bytes project
  carries : Carries r desired

/-- A request that replaces the metadata of a bucket. -/
structure IsReplacement (c : ClientConfig) (bucket : String) (desired : Snapshot) (r : Request) :
    Prop where
  method : r.method = .put
  below : c.Below (bucketsPath ++ [bucket.toList]) none r.url
  carries : Carries r desired

/-- The payload of a snapshot carries what the snapshot is settled to. -/
theorem carries_snapshotPayload {r : Request} {s : Snapshot}
    (h : r.body = some (Client.snapshotPayload s).data) : Carries r s.settled := by
  refine ⟨_, s.toText, h, ?_, s.ofText_toText⟩
  rw [Client.snapshotPayload, Text.utf8Text?_utf8Bytes]

/-- What is left of the endpoint without its last slashes, behind the scheme. -/
theorem ClientConfig.HasPlainEndpoint.exists_baseUrl {c : ClientConfig} (h : c.HasPlainEndpoint) :
    ∃ cs slashes, c.endpoint.toList = httpScheme ++ ':' :: (cs ++ slashes) ∧
      (∀ x ∈ slashes, x = '/') ∧ c.baseUrl.toList = httpScheme ++ ':' :: cs ∧
      '?' ∉ cs ∧ '#' ∉ cs := by
  obtain ⟨rest, hendpoint, hquery, hfragment⟩ := h
  have hscheme : c.endpoint.toList = httpScheme ++ ':' :: ('/' :: '/' :: rest) := hendpoint
  generalize hbehind : '/' :: '/' :: rest = behind at hscheme
  have hsplit : (behind.reverse.dropWhile (· == '/')).reverse ++
      (behind.reverse.takeWhile (· == '/')).reverse = behind := by
    rw [← List.reverse_append, List.takeWhile_append_dropWhile, List.reverse_reverse]
  have hsub {x : Char} (hx : x ∈ (behind.reverse.dropWhile (· == '/')).reverse) : x ∈ behind := by
    rw [← hsplit]
    exact List.mem_append_left _ hx
  refine ⟨(behind.reverse.dropWhile (· == '/')).reverse,
    (behind.reverse.takeWhile (· == '/')).reverse, ?_, ?_, ?_, ?_, ?_⟩
  · rw [hscheme, hsplit]
  · intro x hx
    have hslash := List.mem_takeWhile_imp (List.mem_reverse.1 hx)
    simpa using hslash
  · unfold ClientConfig.baseUrl
    rw [String.toList_ofList, hscheme]
    exact reverse_dropWhile_append rfl httpScheme behind
  · intro hx
    have hmem := hsub hx
    rw [← hbehind] at hmem
    simp [hquery] at hmem
  · intro hx
    have hmem := hsub hx
    rw [← hbehind] at hmem
    simp [hfragment] at hmem

/-- A client that could be made has the settings it was made from, and its endpoint is a URL. -/
theorem Client.ofConfig_eq_ok {config : ClientConfig} {c : Client}
    (h : Client.ofConfig config = .ok c) :
    c.config = config ∧ ∃ url, Url.parse config.endpoint = .ok url := by
  unfold Client.ofConfig at h
  cases hparse : Url.parse config.endpoint with
  | error reason =>
    rw [hparse] at h
    cases h
  | ok url =>
    rw [hparse] at h
    dsimp only at h
    split at h
    · cases h
      exact ⟨rfl, url, rfl⟩
    · cases h

/-- The URL of a request is decided by the endpoint with one slash at its end: the segments come
behind those that it has. -/
theorem exists_requestUrl_eq {config : ClientConfig} {c : Client}
    (hclient : Client.ofConfig config = .ok c) (hplain : config.HasPlainEndpoint) :
    ∃ base,
      (∀ root, Url.parse (config.baseUrl ++ "/") = .ok root →
        root.path = .segments (base ++ [[]])) ∧
      ∀ names, names ≠ [] → (∀ name ∈ names, IsKept name) → ∀ query,
        c.requestUrl ('/' :: Text.joinSegments '/' names) query =
          match Url.parse (config.baseUrl ++ "/") with
          | .error _ => .error (.builder none)
          | .ok root =>
            let url := { root with path := .segments (base ++ names), query := none }
            if root.hasHost then .ok (url.withQuery query) else .error (.builder (some url)) := by
  obtain ⟨hconfig, endpoint, hendpoint⟩ := Client.ofConfig_eq_ok hclient
  obtain ⟨cs, slashes, hchars, hslashes, hbase, hquery, hfragment⟩ := hplain.exists_baseUrl
  unfold Url.parse at hendpoint
  rw [hchars] at hendpoint
  have hserver := exists_server_char_append hslashes hendpoint
  obtain ⟨base, hroot, hbelow⟩ := exists_below hquery hfragment hserver
  have hparse : Url.parse (config.baseUrl ++ "/") =
      Url.ofChars none (httpScheme ++ ':' :: (cs ++ ['/'])) := by
    rw [Url.parse, String.toList_append, hbase, List.append_assoc]
    rfl
  rw [hparse]
  refine ⟨base, hroot, fun names hne hkept query => ?_⟩
  unfold Client.requestUrl
  rw [hconfig, hbase, List.append_assoc, List.cons_append, hbelow names hne hkept]
  cases Url.ofChars none (httpScheme ++ ':' :: (cs ++ ['/'])) <;> rfl

/-- The URL of a request lies below the endpoint, with the names and the query of the request. -/
theorem below_of_requestUrl {config : ClientConfig} {c : Client}
    (hclient : Client.ofConfig config = .ok c) (hplain : config.HasPlainEndpoint)
    {names : List (List Char)} (hne : names ≠ []) (hkept : ∀ name ∈ names, IsKept name)
    {query : List (String × String)} {url : Url}
    (h : c.requestUrl ('/' :: Text.joinSegments '/' names) query = .ok url) :
    config.Below names (if query.isEmpty then none else some (Percent.formQuery query))
      url.withoutCredentials.withoutFragment := by
  obtain ⟨base, hroot, hurl⟩ := exists_requestUrl_eq hclient hplain
  rw [hurl names hne hkept query] at h
  cases hparse : Url.parse (config.baseUrl ++ "/") with
  | error e =>
    rw [hparse] at h
    cases h
  | ok root =>
    refine ⟨root, base, hparse, hroot root hparse, ?_⟩
    rw [hparse] at h
    dsimp only at h
    split at h
    · cases h
      unfold Url.withQuery
      cases query with
      | nil => rfl
      | cons pair pairs => rfl
    · cases h

/-- A request that can be made is of its method, goes below the endpoint and carries its payload. -/
theorem below_of_request {config : ClientConfig} {c : Client}
    (hclient : Client.ofConfig config = .ok c) (hplain : config.HasPlainEndpoint)
    {names : List (List Char)} (hne : names ≠ []) (hkept : ∀ name ∈ names, IsKept name)
    {method : Method} {query : List (String × String)} {payload : Option Payload} {shown : Url}
    {r : Request}
    (h : c.request method ('/' :: Text.joinSegments '/' names) query payload = .ok (shown, r)) :
    r.method = method ∧ r.body = payload.map Payload.data ∧
      config.Below names (if query.isEmpty then none else some (Percent.formQuery query))
        r.url := by
  unfold Client.request at h
  cases hurl : c.requestUrl ('/' :: Text.joinSegments '/' names) query with
  | error f =>
    rw [hurl] at h
    cases h
  | ok url =>
    have hbelow := below_of_requestUrl hclient hplain hne hkept hurl
    rw [hurl] at h
    simp only [bind, Except.bind] at h
    split at h
    · cases h
    split at h
    · cases h
    cases h
    exact ⟨rfl, rfl, hbelow⟩

/-- What may stand in the name of a bucket is never escaped. -/
theorem isUnreserved_of_isNameChar {c : Char} (h : isNameChar c = true) :
    Percent.isUnreserved c = true := by
  simp only [isNameChar, isLowerAlphanum, Bool.or_eq_true] at h
  simp only [Percent.isUnreserved, Char.isAlphanum, Char.isAlpha, Bool.or_eq_true]
  rcases h with (((h | h) | h) | h) | h <;> simp [h]

/-- A bucket name stands in a path as it is. -/
theorem isKept_of_checkName {name : List Char} (h : checkName name = .ok ()) :
    IsKept name ∧ Percent.encodeSegment name = name := by
  have hname := checkName_eq_ok_iff.1 h
  have hchars : ∀ c ∈ name, Percent.isUnreserved c = true := fun c hc =>
    isUnreserved_of_isNameChar (hname.isNameChar c hc)
  refine ⟨?_, Percent.encodeOutside_eq_self hchars⟩
  obtain ⟨-, -, first, middle, last, rfl, hfirst, -⟩ := hname
  refine isKept_of_isUnreserved hchars ?_
  rintro rfl
  exact absurd hfirst.isAlphanum (by decide)

/-- A bucket that was put together has a valid name. -/
theorem checkName_of_ofParts {scheme rest : List Char} {bucket : BucketUri}
    (h : BucketUri.ofParts scheme rest = .ok bucket) : checkName bucket.name.toList = .ok () :=
  checkName_eq_ok_iff.2 (BucketUri.ofParts_eq_ok_iff.1 h).2.1

/-- A bucket that was read from a URI has a valid name. -/
theorem checkName_of_parse {uri : String} {bucket : BucketUri}
    (h : BucketUri.parse uri = .ok bucket) : checkName bucket.name.toList = .ok () := by
  obtain ⟨⟨scheme, rest⟩, -, h⟩ := exists_of_bind_eq_ok (eq_ok_of_mapError h)
  exact checkName_of_ofParts h

/-- The request that a call is made as, where one can be made, and its URL as a failure shows it. -/
def Client.prepared? (c : Client) : BucketCall → Option (Url × Request)
  | .get name => (c.request .get (Client.bucketPath name) [] none).toOption
  | .insert desired => c.config.project.bind fun project =>
    (c.request .post "/storage/v1/b".toList [("project", project)]
      (some (Client.snapshotPayload desired))).toOption
  | .update desired =>
    (c.request .put (Client.bucketPath desired.name) []
      (some (Client.snapshotPayload desired))).toOption

/-- A name of unreserved characters that does not begin with a dot stays as it is. -/
theorem isKept_of_all {name : List Char} (h : name.all Percent.isUnreserved = true ∧ name ≠ [] ∧
    name.head? ≠ some '.') : IsKept name := by
  obtain ⟨hchars, hne, hdot⟩ := h
  cases name with
  | nil => exact absurd rfl hne
  | cons c rest =>
    refine isKept_of_isUnreserved (List.all_eq_true.1 hchars) ?_
    rintro rfl
    exact hdot rfl

/-- The names above the buckets stay as they are. -/
theorem isKept_bucketsPath : ∀ name ∈ bucketsPath, IsKept name := by
  have hnames : ∀ name ∈ bucketsPath, name.all Percent.isUnreserved = true ∧ name ≠ [] ∧
      name.head? ≠ some '.' := by
    decide
  exact fun name hname => isKept_of_all (hnames name hname)

/-- The path of a bucket is its name below the names above the buckets. -/
theorem bucketPath_eq {bucket : String} (h : checkName bucket.toList = .ok ()) :
    Client.bucketPath bucket = '/' :: Text.joinSegments '/' (bucketsPath ++ [bucket.toList]) := by
  unfold Client.bucketPath
  rw [(isKept_of_checkName h).2]
  rfl

section

variable {config : ClientConfig} {c : Client} (hclient : Client.ofConfig config = .ok c)
  (hplain : config.HasPlainEndpoint) {shown : Url} {r : Request}

include hclient hplain

/-- A request about a bucket goes below the endpoint to the bucket. -/
theorem below_of_bucketRequest {bucket : String} (hname : checkName bucket.toList = .ok ())
    {method : Method} {payload : Option Payload}
    (h : c.request method (Client.bucketPath bucket) [] payload = .ok (shown, r)) :
    r.method = method ∧ r.body = payload.map Payload.data ∧
      config.Below (bucketsPath ++ [bucket.toList]) none r.url := by
  have hkept : ∀ name ∈ bucketsPath ++ [bucket.toList], IsKept name :=
    List.forall_mem_append.2 ⟨isKept_bucketsPath,
      List.forall_mem_singleton.2 (isKept_of_checkName hname).1⟩
  rw [bucketPath_eq hname] at h
  exact below_of_request hclient hplain
    (List.append_ne_nil_of_right_ne_nil _ (List.cons_ne_nil _ _)) hkept h

/-- The request for a reading reads the bucket. -/
theorem isReading_of_prepared {bucket : String} (hname : checkName bucket.toList = .ok ())
    (h : c.prepared? (.get bucket) = some (shown, r)) : IsReading config bucket r := by
  unfold Client.prepared? at h
  obtain ⟨hmethod, -, hbelow⟩ := below_of_bucketRequest hclient hplain hname (toOption_eq_some h)
  exact ⟨hmethod, hbelow⟩

/-- The request for a replacement replaces the bucket by what is desired, with its times settled. -/
theorem isReplacement_of_prepared {bucket : String} {desired : Snapshot}
    (hname : checkName bucket.toList = .ok ()) (hdesired : desired.name = bucket)
    (h : c.prepared? (.update desired) = some (shown, r)) :
    IsReplacement config bucket desired.settled r := by
  subst hdesired
  unfold Client.prepared? at h
  obtain ⟨hmethod, hbody, hbelow⟩ :=
    below_of_bucketRequest hclient hplain hname (toOption_eq_some h)
  exact ⟨hmethod, hbelow, carries_snapshotPayload hbody⟩

/-- The request for a creation creates what is desired, with its times settled. -/
theorem isCreation_of_prepared {desired : Snapshot}
    (h : c.prepared? (.insert desired) = some (shown, r)) :
    IsCreation config desired.settled r := by
  have hpath : "/storage/v1/b".toList = '/' :: Text.joinSegments '/' bucketsPath := rfl
  unfold Client.prepared? at h
  obtain ⟨project, hproject, hrequest⟩ := Option.bind_eq_some_iff.1 h
  rw [hpath] at hrequest
  obtain ⟨hmethod, hbody, hbelow⟩ := below_of_request hclient hplain (List.cons_ne_nil _ _)
    isKept_bucketsPath (toOption_eq_some hrequest)
  rw [(Client.ofConfig_eq_ok hclient).1] at hproject
  refine ⟨hmethod, ⟨project, Percent.formEncode project.toList, hproject, hbelow, ?_⟩,
    carries_snapshotPayload hbody⟩
  exact Percent.formDecode_formEncode project.toList

end

end BucketLifecycle
