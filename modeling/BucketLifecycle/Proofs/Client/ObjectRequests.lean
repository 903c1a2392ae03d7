import BucketLifecycle.Proofs.Client.Inquiry
import BucketLifecycle.Proofs.Text.Utf8Spelling

/-!
# Where the requests of transfers go

A download names its object by a segment of the path, an upload by a parameter of the query.  An
encoded object name is a segment that no reading changes (`isKept_encodeSegment`): no object is
called like a relative segment, and encoding makes none of a name that is not.  Two URLs below one
endpoint are written differently where their segments or queries differ
(`ClientConfig.Below.eq_of_toText`).

Whether a request is made does not depend on the object: there is a URL for every one of them, and
what can be wrong with a request is listed in `Client.CanSend`.
-/

set_option autoImplicit false

namespace BucketLifecycle

open Http Url

/-! ## Encoded names -/

/-- The characters of dots and of their escapes are known from their small forms. -/
theorem eq_of_toLower {c : Char} (h : c.toNat < 0x80) :
    (c.toLower = '.' → c = '.') ∧ (c.toLower = '%' → c = '%') ∧ (c.toLower = '2' → c = '2') ∧
      (c.toLower = 'e' → c = 'e' ∨ c = 'E') := by
  have hall : ∀ n < 0x80, ((Char.ofNat n).toLower = '.' → Char.ofNat n = '.') ∧
      ((Char.ofNat n).toLower = '%' → Char.ofNat n = '%') ∧
      ((Char.ofNat n).toLower = '2' → Char.ofNat n = '2') ∧
      ((Char.ofNat n).toLower = 'e' → Char.ofNat n = 'e' ∨ Char.ofNat n = 'E') := by
    decide
  have hchar := hall c.toNat h
  rwa [Char.ofNat_toNat] at hchar

/-- The ways to write a period in a segment, each read as a period. -/
theorem decode_of_map_toLower {cs : List Char} (hascii : ∀ c ∈ cs, c.toNat < 0x80)
    (h : cs.map Char.toLower = ['.'] ∨ cs.map Char.toLower = ['%', '2', 'e']) (rest : List Char) :
    Percent.decode (cs ++ rest) = 0x2E :: Percent.decode rest := by
  rcases h with h | h
  · obtain ⟨c, last, rfl, hc, hnil⟩ := List.map_eq_cons_iff.1 h
    rw [List.map_eq_nil_iff.1 hnil] at hascii ⊢
    rw [(eq_of_toLower (hascii c List.mem_cons_self)).1 hc]
    exact Percent.decode_cons (by decide) rest
  · obtain ⟨c, more, rfl, hc, h⟩ := List.map_eq_cons_iff.1 h
    obtain ⟨d, more, rfl, hd, h⟩ := List.map_eq_cons_iff.1 h
    obtain ⟨e, last, rfl, he, hnil⟩ := List.map_eq_cons_iff.1 h
    rw [List.map_eq_nil_iff.1 hnil] at hascii ⊢
    rw [(eq_of_toLower (hascii c (by simp))).2.1 hc, (eq_of_toLower (hascii d (by simp))).2.2.1 hd]
    rcases (eq_of_toLower (hascii e (by simp))).2.2.2 he with rfl | rfl <;> rfl

/-- Every spelling of one dot stands for a dot. -/
theorem decode_of_isSingleDot {cs : List Char} (hascii : ∀ c ∈ cs, c.toNat < 0x80)
    (h : isSingleDot cs = true) : Percent.decode cs = Text.utf8Encode ['.'] := by
  have hlower : cs.map Char.toLower = ['.'] ∨ cs.map Char.toLower = ['%', '2', 'e'] := by
    simpa [isSingleDot, or_comm] using h
  have hdecode := decode_of_map_toLower hascii hlower []
  rwa [List.append_nil] at hdecode

/-- Every spelling of two dots stands for two dots. -/
theorem decode_of_isDoubleDot {cs : List Char} (hascii : ∀ c ∈ cs, c.toNat < 0x80)
    (h : isDoubleDot cs = true) : Percent.decode cs = Text.utf8Encode ['.', '.'] := by
  have hlower : ∃ xs ys : List Char, cs.map Char.toLower = xs ++ ys ∧
      (xs = ['.'] ∨ xs = ['%', '2', 'e']) ∧ (ys = ['.'] ∨ ys = ['%', '2', 'e']) := by
    simp only [isDoubleDot, List.contains_iff_mem, List.mem_cons, List.not_mem_nil, or_false] at h
    rcases h with h | h | h | h
    · exact ⟨['.'], ['.'], h, by simp, by simp⟩
    · exact ⟨['.'], ['%', '2', 'e'], h, by simp, by simp⟩
    · exact ⟨['%', '2', 'e'], ['.'], h, by simp, by simp⟩
    · exact ⟨['%', '2', 'e'], ['%', '2', 'e'], h, by simp, by simp⟩
  obtain ⟨xs, ys, h, hxs, hys⟩ := hlower
  obtain ⟨as, bs, rfl, rfl, rfl⟩ := List.map_eq_append_iff.1 h
  have hlast := decode_of_map_toLower (fun c hc => hascii c (List.mem_append_right _ hc)) hys []
  rw [List.append_nil] at hlast
  rw [decode_of_map_toLower (fun c hc => hascii c (List.mem_append_left _ hc)) hxs, hlast]
  rfl

/-- A name that is no relative segment stays where it is put, once it is encoded. -/
theorem isKept_encodeSegment {cs : List Char} (h : isRelativeSegment cs = false) :
    IsKept (Percent.encodeSegment cs) := by
  have hascii : ∀ c ∈ Percent.encodeSegment cs, c.toNat < 0x80 := by
    intro c hc
    rcases Percent.mem_encodeSegment hc with rfl | hc
    · decide
    · exact toNat_lt_of_isUnreserved hc
  have hne {ds : List Char} (hdots : Percent.decode (Percent.encodeSegment cs) =
      Text.utf8Encode ds) : cs = ds := by
    rw [Percent.decode_encodeSegment] at hdots
    exact Text.utf8Encode_injective hdots
  refine ⟨fun c hc => ?_, ?_, ?_⟩
  · rcases Percent.mem_encodeSegment hc with rfl | hc
    · decide
    · exact isInner_of_isUnreserved hc
  · by_contra hsingle
    rw [hne (decode_of_isSingleDot hascii (by simpa using hsingle))] at h
    cases h
  · by_contra hdouble
    rw [hne (decode_of_isDoubleDot hascii (by simpa using hdouble))] at h
    cases h

/-- What is read as an object has the name of a bucket and no relative segment for a path. -/
theorem ObjectUri.parse_eq_ok {text : String} {u : ObjectUri} (h : ObjectUri.parse text = .ok u) :
    checkName u.bucket.name.toList = .ok () ∧ isRelativeSegment u.path.toList = false := by
  obtain ⟨parts, -, h⟩ := exists_of_bind_eq_ok (eq_ok_of_mapError h)
  dsimp only at h
  generalize (Text.cutAt '/' parts.2).getD (parts.2, []) = cut at h
  split at h
  · cases h
  next hrelative =>
  obtain ⟨bucket, hparts, h⟩ := exists_of_bind_eq_ok h
  cases h
  refine ⟨checkName_of_ofParts hparts, ?_⟩
  rw [String.toList_ofList]
  by_contra hdots
  have hslash : '/' ∉ cut.2 := by
    intro hmem
    simp only [isRelativeSegment, Bool.not_eq_false, Bool.or_eq_true, beq_iff_eq] at hdots
    rcases hdots with hdots | hdots <;> simp [hdots] at hmem
  rw [Text.segments_of_not_mem hslash] at hrelative
  simp [hdots] at hrelative

/-! ## Texts of URLs -/

/-- Names with a slash in front of each are a slash and the names put together. -/
theorem flatMap_slash {names : List (List Char)} (hne : names ≠ []) :
    names.flatMap (fun name => '/' :: name) = '/' :: Text.joinSegments '/' names := by
  induction names with
  | nil => exact absurd rfl hne
  | cons name rest ih =>
    cases rest with
    | nil => simp [Text.joinSegments]
    | cons next rest =>
      rw [List.flatMap_cons, ih (List.cons_ne_nil _ _), Text.joinSegments]
      rfl

/-- Names that are kept have no slash, and put together they have no question mark. -/
theorem not_mem_of_isKept {names : List (List Char)} (h : ∀ name ∈ names, IsKept name) :
    (∀ name ∈ names, '/' ∉ name) ∧ '?' ∉ Text.joinSegments '/' names := by
  refine ⟨fun name hname hmem => ?_, fun hmem => ?_⟩
  · exact absurd ((h name hname).inner _ hmem) (by decide)
  · rcases Text.mem_joinSegments hmem with hmark | ⟨name, hname, hmem⟩
    · exact absurd hmark (by decide)
    · exact absurd ((h name hname).inner _ hmem) (by decide)

section

variable {config : ClientConfig} {names others : List (List Char)}

/-- Two URLs below one endpoint differ in their texts where they differ in their segments or in
their queries. -/
theorem ClientConfig.Below.eq_of_toText {q p : List Char} {url other : Url}
    (h : config.Below names (some q) url) (hother : config.Below others (some p) other)
    (hne : names ≠ []) (hothersNe : others ≠ []) (hkept : ∀ name ∈ names, IsKept name)
    (hothersKept : ∀ name ∈ others, IsKept name) (htext : url.toText = other.toText) :
    names = others ∧ q = p := by
  obtain ⟨root, base, hroot, hpath, rfl⟩ := h
  obtain ⟨root', base', hroot', hpath', rfl⟩ := hother
  rw [hroot] at hroot'
  cases hroot'
  rw [hpath] at hpath'
  have hbase : base = base' := List.append_cancel_right (UrlPath.segments.inj hpath')
  subst hbase
  obtain ⟨hslash, hquery⟩ := not_mem_of_isKept hkept
  obtain ⟨hothersSlash, hothersQuery⟩ := not_mem_of_isKept hothersKept
  have hchars := String.ofList_injective htext
  simp only [Url.chars, Url.pathText, List.flatMap_append, List.append_assoc, List.append_nil,
    List.cons_append] at hchars
  -- Scheme, server and the endpoint's own path stand in front on both sides.
  have hbehind := List.append_cancel_left (List.append_cancel_left
    (List.cons.inj (List.append_cancel_left hchars)).2)
  rw [flatMap_slash hne, flatMap_slash hothersNe] at hbehind
  have hends : Text.joinSegments '/' names ++ '?' :: q =
      Text.joinSegments '/' others ++ '?' :: p :=
    (List.cons.inj hbehind).2
  have hcut := congrArg (Text.cutAt '?') hends
  rw [Text.cutAt_append_cons hquery, Text.cutAt_append_cons hothersQuery] at hcut
  obtain ⟨hnames, hq⟩ := Prod.mk.inj (Option.some.inj hcut)
  have hsegments := congrArg (Text.segments '/') hnames
  rw [Text.segments_joinSegments hne hslash, Text.segments_joinSegments hothersNe hothersSlash]
    at hsegments
  exact ⟨hsegments, hq⟩

end

/-! ## Requests that can be made -/

namespace Client

/-- Whether a request to a URL is one that can be sent: its headers must be values of headers, and
the URL must not be too long or name a host that the head of a request cannot hold. -/
structure CanSend (c : Client) (url : Url) (payload : Option Payload) : Prop where
  userAgent : isHeaderValue c.config.userAgent = true
  token : ∀ token ∈ c.config.accessToken, isHeaderValue token = true
  contentType : ∀ p ∈ payload, isHeaderValue p.contentType = true
  sendable : url.isSendable = true

/-- Two texts together may be a header value where each may. -/
theorem isHeaderValue_append {s t : String} :
    isHeaderValue (s ++ t) = (isHeaderValue s && isHeaderValue t) := by
  simp [isHeaderValue]

/-- Printable ASCII may be a header value. -/
theorem isHeaderValue_ofList {cs : List Char} (h : ∀ c ∈ cs, 0x20 ≤ c.toNat ∧ c.toNat < 0x7F) :
    isHeaderValue (String.ofList cs) = true := by
  unfold isHeaderValue
  rw [String.toList_ofList, List.all_eq_true]
  intro c hc
  obtain ⟨hlo, hhi⟩ := h c hc
  simp only [Bool.or_eq_true, Bool.and_eq_true, decide_eq_true_eq, bne_iff_ne]
  exact .inr ⟨hlo, by omega⟩

/-- The digits of base 64 are printable. -/
theorem base64Char_printable (n : Nat) :
    0x20 ≤ (base64Char n).toNat ∧ (base64Char n).toNat < 0x7F := by
  have hdigit : ∀ n < 64, 0x20 ≤ (base64Char n).toNat ∧ (base64Char n).toNat < 0x7F := by
    decide
  by_cases hn : n < 64
  · exact hdigit n hn
  · unfold base64Char
    rw [if_neg (by omega), if_neg (by omega), if_neg (by omega), if_neg (by omega)]
    decide

/-- Bytes are spelled in base 64 by printable characters. -/
theorem base64_printable (bs : Bytes) :
    ∀ c ∈ base64 bs, 0x20 ≤ c.toNat ∧ c.toNat < 0x7F := by
  induction bs using base64.induct with
  | case1 => exact nofun
  | case2 a => simp [base64, base64Char_printable]
  | case3 a b => simp [base64, base64Char_printable]
  | case4 a b c rest ih =>
    simp only [base64, List.forall_mem_cons, base64Char_printable, true_and]
    exact ih

/-- The authorization of a URL is always a valid header. -/
theorem isHeaderValue_basicAuthorization (url : Url) :
    ∀ h ∈ basicAuthorization url, isHeaderValue h.2 = true := by
  intro h hh
  obtain ⟨credentials, -, rfl⟩ := List.mem_map.1 hh
  rw [isHeaderValue_append, isHeaderValue_ofList (base64_printable credentials)]
  decide

/-- A number may be a header value. -/
theorem isHeaderValue_writeNat (n : Nat) :
    isHeaderValue (String.ofList (Text.writeNat n)) = true := by
  refine isHeaderValue_ofList fun c hc => ?_
  obtain ⟨hlo, hhi⟩ := Char.isDigit_iff_toNat.1 (Text.isDigit_of_mem_writeNat hc)
  exact ⟨Nat.le_trans (by decide) hlo, Nat.lt_of_le_of_lt hhi (by decide)⟩

/-- All headers of a request are valid where those are that the settings and the payload give. -/
theorem isHeaderValue_headers {c : Client} {url : Url} {payload : Option Payload}
    (h : c.CanSend url payload) (full : Url) :
    ∀ header ∈ c.headers full payload, isHeaderValue header.2 = true := by
  unfold headers
  refine List.forall_mem_append.2 ⟨List.forall_mem_append.2 ⟨List.forall_mem_append.2
    ⟨isHeaderValue_basicAuthorization full, ?_⟩, ?_⟩, ?_⟩
  · intro header hheader
    obtain ⟨token, htoken, rfl⟩ := List.mem_map.1 hheader
    rw [isHeaderValue_append, h.token token (Option.mem_toList.1 htoken)]
    decide
  · intro header hheader
    obtain ⟨p, hp, hheader⟩ := List.mem_flatMap.1 hheader
    simp only [List.mem_cons, List.not_mem_nil, or_false] at hheader
    rcases hheader with rfl | rfl
    · exact h.contentType p (Option.mem_toList.1 hp)
    · exact isHeaderValue_writeNat _
  · exact List.forall_mem_cons.2 ⟨by decide, List.forall_mem_singleton.2 h.userAgent⟩

/-- A call that asks for a URL: a request that it begins with is of this method and for this URL and
carries this payload, and there is one wherever it can be sent. -/
structure Asks {α : Type} (c : Client) (call : Network → CallReply α) (method : Method) (url : Url)
    (payload : Option Payload) : Prop where
  first : ∀ r, BeginsWith call r →
    r.method = method ∧ r.url = url ∧ r.body = payload.map Payload.data
  sent : c.CanSend url payload → ∃ r, BeginsWith call r

section

variable {α : Type} {config : ClientConfig} {c : Client}
  (hclient : Client.ofConfig config = .ok c) (hplain : config.HasPlainEndpoint)

include hclient hplain

/-- The endpoint with one slash at its end is a URL like the endpoint itself. -/
theorem exists_rootUrl (hend : ∀ x ∈ config.endpoint.toList.getLast?, isOuter x = false) :
    ∃ root, Url.parse (config.baseUrl ++ "/") = .ok root ∧ root.hasHost = true ∧
      root.fragment = none := by
  obtain ⟨-, endpoint, hendpoint⟩ := Client.ofConfig_eq_ok hclient
  obtain ⟨cs, slashes, hchars, hslashes, hbase, hquery, hfragment⟩ := hplain.exists_baseUrl
  have hlast : ∀ x ∈ (cs ++ slashes).getLast?, isOuter x = false := by
    intro x hx
    refine hend x ?_
    rw [hchars, List.getLast?_append, List.getLast?_cons, Option.mem_def.1 hx]
    rfl
  unfold Url.parse at hendpoint
  rw [hchars] at hendpoint
  rw [Url.parse, String.toList_append, hbase, List.append_assoc]
  exact exists_root hquery hfragment hslashes hlast hendpoint

variable {names : List (List Char)} (hne : names ≠ []) (hkept : ∀ name ∈ names, IsKept name)

include hne hkept

/-- Below an endpoint that ends in no blank there is a URL for every request, and it has no
fragment. -/
theorem exists_requestUrl (hend : ∀ x ∈ config.endpoint.toList.getLast?, isOuter x = false)
    (query : List (String × String)) :
    ∃ url, c.requestUrl ('/' :: Text.joinSegments '/' names) query = .ok url ∧
      url.fragment = none := by
  obtain ⟨root, hroot, hhost, hfragment⟩ := exists_rootUrl hclient hplain hend
  obtain ⟨base, -, hurl⟩ := exists_requestUrl_eq hclient hplain
  rw [hurl names hne hkept query, hroot]
  dsimp only
  rw [if_pos hhost]
  refine ⟨_, rfl, ?_⟩
  unfold Url.withQuery
  split <;> exact hfragment

/-- An operation below the endpoint asks for a URL there. -/
theorem exists_asks {o : Inquiry α} (hpath : o.path = '/' :: Text.joinSegments '/' names)
    (hend : ∀ x ∈ config.endpoint.toList.getLast?, isOuter x = false) :
    ∃ url, c.Asks (c.perform o) o.method url o.payload ∧
      config.Below names (if o.query.isEmpty then none else some (Percent.formQuery o.query))
        url := by
  obtain ⟨url, hurl, hfragment⟩ := exists_requestUrl hclient hplain hne hkept hend o.query
  have hbelow := below_of_requestUrl hclient hplain hne hkept hurl
  have hshown : url.withoutCredentials.withoutFragment = url.withoutCredentials := by
    unfold Url.withoutFragment Url.withoutCredentials
    rw [hfragment]
  have hprepare : c.prepare o =
      if (c.headers url o.payload).any fun h => !isHeaderValue h.2 then .error (.builder none)
      else if !url.withoutCredentials.isSendable then
        .error (.builder (some url.withoutCredentials))
      else .ok (url.withoutCredentials,
        ⟨o.method, url.withoutCredentials.withoutFragment, c.headers url o.payload,
          o.payload.map Payload.data⟩) := by
    unfold prepare request
    rw [hpath, hurl]
    rfl
  refine ⟨_, ⟨fun r hr => ?_, fun hsend => ?_⟩, hbelow⟩
  · obtain ⟨shown, hshown⟩ := exists_prepare_of_begins hr
    rw [hprepare] at hshown
    split at hshown
    · cases hshown
    split at hshown
    · cases hshown
    cases hshown
    exact ⟨rfl, rfl, rfl⟩
  · have hheaders : ¬((c.headers url o.payload).any fun h => !isHeaderValue h.2) = true := by
      simpa using isHeaderValue_headers hsend url
    rw [hshown] at hsend
    rw [if_neg hheaders, if_neg (by simp [hsend.sendable])] at hprepare
    exact ⟨_, begins_of_prepare hprepare⟩

end

end Client

/-! ## Requests for objects -/

/-- The settings with more slashes at the end of the endpoint. -/
def ClientConfig.withSlashes (c : ClientConfig) (n : Nat) : ClientConfig :=
  { c with endpoint := c.endpoint ++ String.ofList (List.replicate n '/') }

namespace Client

/-- Where a download goes below the endpoint. -/
def downloadNames (u : ObjectUri) : List (List Char) :=
  bucketsPath ++ [u.bucket.name.toList, "o".toList, Percent.encodeSegment u.path.toList]

/-- Where an upload goes below the endpoint. -/
def uploadNames (u : ObjectUri) : List (List Char) :=
  "upload".toList :: (bucketsPath ++ [u.bucket.name.toList, "o".toList])

section

variable {u : ObjectUri} (hname : checkName u.bucket.name.toList = .ok ())

include hname

/-- The path of a download is that of its names. -/
theorem path_download :
    (Inquiry.download u).path = '/' :: Text.joinSegments '/' (downloadNames u) := by
  unfold Inquiry.download
  dsimp only
  rw [bucketPath_eq hname]
  simp [downloadNames, bucketsPath, Text.joinSegments]

/-- The path of an upload is that of its names. -/
theorem path_upload (payload : Payload) :
    (Inquiry.upload u payload).path = '/' :: Text.joinSegments '/' (uploadNames u) := by
  unfold Inquiry.upload
  dsimp only
  rw [(isKept_of_checkName hname).2]
  simp [uploadNames, bucketsPath, Text.joinSegments]

/-- The names of an upload stay as they are in a URL. -/
theorem isKept_uploadNames : ∀ name ∈ uploadNames u, IsKept name := by
  refine List.forall_mem_cons.2 ⟨isKept_of_all (by decide), List.forall_mem_append.2
    ⟨isKept_bucketsPath, ?_⟩⟩
  exact List.forall_mem_cons.2 ⟨(isKept_of_checkName hname).1,
    List.forall_mem_singleton.2 (isKept_of_all (by decide))⟩

/-- The names of a download stay as they are in a URL. -/
theorem isKept_downloadNames (hpath : isRelativeSegment u.path.toList = false) :
    ∀ name ∈ downloadNames u, IsKept name := by
  refine List.forall_mem_append.2 ⟨isKept_bucketsPath, List.forall_mem_cons.2
    ⟨(isKept_of_checkName hname).1, List.forall_mem_cons.2 ⟨isKept_of_all (by decide), ?_⟩⟩⟩
  exact List.forall_mem_singleton.2 (isKept_encodeSegment hpath)

end

/-- An upload to what names no object begins with no request. -/
theorem namesObject_of_begins {c : Client} {u : ObjectUri} {payload : Payload} {r : Request}
    (h : BeginsWith (c.upload u payload) r) : u.NamesObject := by
  by_contra hobject
  have hprefix : (u.path.isEmpty || u.path.toList.getLast? == some '/') = true := by
    unfold ObjectUri.NamesObject at hobject
    by_contra hneither
    exact hobject (by simpa using hneither)
  obtain ⟨more, hmore⟩ := h (.scripted []) rfl
  unfold upload at hmore
  rw [if_pos hprefix] at hmore
  have hnone : ([] : List Request) = r :: more := hmore
  cases hnone

/-- Slashes at the end of the endpoint are cut off. -/
theorem baseUrl_withSlashes (config : ClientConfig) (n : Nat) :
    (config.withSlashes n).baseUrl = config.baseUrl := by
  unfold ClientConfig.baseUrl ClientConfig.withSlashes
  rw [String.toList_append, String.toList_ofList, List.reverse_append, List.reverse_replicate,
    List.dropWhile_append_of_pos (by simp)]

/-- Slashes at the end of the endpoint change nothing that a client sends. -/
theorem request_withSlashes (config : ClientConfig) (n : Nat) :
    (Client.mk (config.withSlashes n)).request = (Client.mk config).request := by
  have hheaders : (Client.mk (config.withSlashes n)).headers = (Client.mk config).headers := rfl
  have hurl : (Client.mk (config.withSlashes n)).requestUrl = (Client.mk config).requestUrl := by
    funext path query
    unfold requestUrl
    rw [baseUrl_withSlashes]
  funext method path query payload
  unfold request
  rw [hurl, hheaders]

section

variable {config : ClientConfig} {c : Client} (hclient : Client.ofConfig config = .ok c)
  (hplain : config.HasPlainEndpoint)
  (hend : ∀ x ∈ config.endpoint.toList.getLast?, isOuter x = false)
  {u : ObjectUri} (hname : checkName u.bucket.name.toList = .ok ())

include hclient hplain hend hname

/-- A download asks for its object below the endpoint. -/
theorem exists_asks_download (hpath : isRelativeSegment u.path.toList = false) :
    ∃ url, c.Asks (c.download u) .get url none ∧
      config.Below (downloadNames u) (some "alt=media".toList) url :=
  exists_asks (o := .download u) hclient hplain (by simp [downloadNames])
    (isKept_downloadNames hname hpath) (path_download hname) hend

/-- An upload asks for the objects of its bucket below the endpoint, and names its object in the
query. -/
theorem exists_asks_upload (hobject : u.NamesObject) (payload : Payload) :
    ∃ url, c.Asks (c.upload u payload) .post url (some payload) ∧
      config.Below (uploadNames u)
        (some (Percent.formQuery [("uploadType", "media"), ("name", u.path)])) url := by
  rw [upload_eq hobject]
  exact exists_asks (o := .upload u payload) hclient hplain (List.cons_ne_nil _ _)
    (isKept_uploadNames hname) (path_upload hname payload) hend

variable {v : ObjectUri} (hother : checkName v.bucket.name.toList = .ok ())

include hother

/-- Downloads with one URL are of one object. -/
theorem eq_of_begins_download (hpath : isRelativeSegment u.path.toList = false)
    (hotherPath : isRelativeSegment v.path.toList = false) {r s : Request}
    (hr : BeginsWith (c.download u) r) (hs : BeginsWith (c.download v) s)
    (htext : r.url.toText = s.url.toText) : u.bucket.name = v.bucket.name ∧ u.path = v.path := by
  obtain ⟨url, hasks, hbelow⟩ := exists_asks_download hclient hplain hend hname hpath
  obtain ⟨other, hotherAsks, hotherBelow⟩ :=
    exists_asks_download hclient hplain hend hother hotherPath
  rw [(hasks.first r hr).2.1, (hotherAsks.first s hs).2.1] at htext
  obtain ⟨hnames, -⟩ := hbelow.eq_of_toText hotherBelow (by simp [downloadNames])
    (by simp [downloadNames]) (isKept_downloadNames hname hpath)
    (isKept_downloadNames hother hotherPath) htext
  have hbehind := List.append_cancel_left hnames
  simp only [List.cons.injEq, and_true, true_and] at hbehind
  have hdecoded := congrArg Percent.decode hbehind.2
  rw [Percent.decode_encodeSegment, Percent.decode_encodeSegment] at hdecoded
  exact ⟨String.toList_injective hbehind.1,
    String.toList_injective (Text.utf8Encode_injective hdecoded)⟩

/-- Uploads with one URL are to one object. -/
theorem eq_of_begins_upload {payload carried : Payload} {r s : Request}
    (hr : BeginsWith (c.upload u payload) r) (hs : BeginsWith (c.upload v carried) s)
    (htext : r.url.toText = s.url.toText) : u.bucket.name = v.bucket.name ∧ u.path = v.path := by
  obtain ⟨url, hasks, hbelow⟩ :=
    exists_asks_upload hclient hplain hend hname (namesObject_of_begins hr) payload
  obtain ⟨other, hotherAsks, hotherBelow⟩ :=
    exists_asks_upload hclient hplain hend hother (namesObject_of_begins hs) carried
  rw [(hasks.first r hr).2.1, (hotherAsks.first s hs).2.1] at htext
  obtain ⟨hnames, hquery⟩ := hbelow.eq_of_toText hotherBelow (List.cons_ne_nil _ _)
    (List.cons_ne_nil _ _) (isKept_uploadNames hname) (isKept_uploadNames hother) htext
  have hbehind := List.append_cancel_left (List.cons.inj hnames).2
  have hparameters := congrArg Percent.formParameters hquery
  rw [Percent.formParameters_formQuery, Percent.formParameters_formQuery] at hparameters
  simp only [List.map_cons, List.map_nil, List.cons.injEq, Prod.mk.injEq, and_true, true_and]
    at hparameters
  exact ⟨String.toList_injective (List.cons.inj hbehind).1,
    String.toList_injective (Text.utf8Encode_injective hparameters)⟩

end

end Client

/-- A download and an upload of an object ask for the same object, in a URL that spells its bucket
and its name and nothing else: the one by the last segment, the other by a parameter of the query.
So objects that differ in bucket or name have different URLs, and slashes at the end of the endpoint
make no difference to any request. -/
theorem transfers_addressObject {config : ClientConfig} {c : Client}
    (hclient : Client.ofConfig config = .ok c) (hplain : config.HasPlainEndpoint)
    (hend : ∀ x ∈ config.endpoint.toList.getLast?, isOuter x = false) :
    (∀ text u, ObjectUri.parse text = .ok u →
      (∃ url x, c.Asks (c.download u) .get url none ∧
        config.Below (bucketsPath ++ [u.bucket.name.toList, "o".toList, x])
          (some "alt=media".toList) url ∧
        ('/' ∉ x ∧ '?' ∉ x ∧ '#' ∉ x) ∧ Percent.decode x = Text.utf8Bytes u.path) ∧
      (u.NamesObject → ∀ payload, ∃ url query,
        c.Asks (c.upload u payload) .post url (some payload) ∧
        config.Below ("upload".toList :: (bucketsPath ++ [u.bucket.name.toList, "o".toList]))
          (some query) url ∧
        Percent.formParameters query =
          [(Text.utf8Bytes "uploadType", Text.utf8Bytes "media"),
            (Text.utf8Bytes "name", Text.utf8Bytes u.path)])) ∧
    (∀ text u other v, ObjectUri.parse text = .ok u → ObjectUri.parse other = .ok v →
      (u.bucket.name, u.path) ≠ (v.bucket.name, v.path) →
      (∀ r s, BeginsWith (c.download u) r → BeginsWith (c.download v) s →
        r.url.toText ≠ s.url.toText) ∧
      ∀ payload carried r s, BeginsWith (c.upload u payload) r →
        BeginsWith (c.upload v carried) s → r.url.toText ≠ s.url.toText) ∧
    ∀ n, (Client.mk (config.withSlashes n)).request = c.request := by
  refine ⟨fun text u hu => ?_, fun text u other v hu hv hne => ?_, fun n => ?_⟩
  · obtain ⟨hname, hpath⟩ := ObjectUri.parse_eq_ok hu
    refine ⟨?_, fun hobject payload => ?_⟩
    · obtain ⟨url, hasks, hbelow⟩ := Client.exists_asks_download hclient hplain hend hname hpath
      have hinner := (isKept_encodeSegment hpath).inner
      refine ⟨url, _, hasks, hbelow, ⟨fun h => ?_, fun h => ?_, fun h => ?_⟩,
        Percent.decode_encodeSegment _⟩
      · exact absurd (hinner _ h) (by decide)
      · exact absurd (hinner _ h) (by decide)
      · exact absurd (hinner _ h) (by decide)
    · obtain ⟨url, hasks, hbelow⟩ :=
        Client.exists_asks_upload hclient hplain hend hname hobject payload
      exact ⟨url, _, hasks, hbelow, Percent.formParameters_formQuery _⟩
  · obtain ⟨hname, hpath⟩ := ObjectUri.parse_eq_ok hu
    obtain ⟨hother, hotherPath⟩ := ObjectUri.parse_eq_ok hv
    refine ⟨fun r s hr hs htext => hne ?_, fun payload carried r s hr hs htext => hne ?_⟩
    · exact Prod.ext_iff.2 (Client.eq_of_begins_download hclient hplain hend hname hother hpath
        hotherPath hr hs htext)
    · exact Prod.ext_iff.2
        (Client.eq_of_begins_upload hclient hplain hend hname hother hr hs htext)
  · obtain ⟨rfl, -⟩ := Client.ofConfig_eq_ok hclient
    exact Client.request_withSlashes c.config n

/-- An endpoint with a path and two slashes at its end. -/
def slashedConfig : ClientConfig :=
  .ofEndpoint "http://[::1]:4443/base//"

/-- An object with a slash, a blank and a question mark in its name. -/
def oddObject : ObjectUri :=
  ⟨⟨"gs", "ci-artifacts"⟩, "logs/a b?é"⟩

/-- An object whose name has blanks, marks and letters outside ASCII is asked for by its escaped
name. -/
theorem addressesObject_of_odd_name :
    ∃ r x, BeginsWith (Client.download ⟨slashedConfig⟩ oddObject) r ∧
      slashedConfig.Below (bucketsPath ++ ["ci-artifacts".toList, "o".toList, x])
        (some "alt=media".toList) r.url ∧
      Percent.decode x = Text.utf8Bytes "logs/a b?é" := by
  have hclient : Client.ofConfig slashedConfig = .ok ⟨slashedConfig⟩ :=
    toOption_eq_some (by decide +kernel)
  have hplain : slashedConfig.HasPlainEndpoint :=
    ⟨"[::1]:4443/base//".toList, by decide, by decide, by decide⟩
  have hlast : slashedConfig.endpoint.toList.getLast? = some '/' := by
    decide +kernel
  have hend : ∀ x ∈ slashedConfig.endpoint.toList.getLast?, isOuter x = false := by
    rw [hlast]
    rintro x ⟨⟩
    rfl
  have hparse : ObjectUri.parse "gs://ci-artifacts/logs/a b?é" = .ok oddObject :=
    toOption_eq_some (by decide +kernel)
  obtain ⟨⟨url, x, hasks, hbelow, -, hdecode⟩, -⟩ :=
    (transfers_addressObject hclient hplain hend).1 _ _ hparse
  have hprepared : ((Client.mk slashedConfig).prepare (.download oddObject)).toOption.isSome =
      true := by
    decide +kernel
  obtain ⟨⟨shown, r⟩, hprepare⟩ := Option.isSome_iff_exists.1 hprepared
  have hbegins : BeginsWith (Client.download ⟨slashedConfig⟩ oddObject) r := by
    rw [Client.download_eq]
    exact Client.begins_of_prepare (toOption_eq_some hprepare)
  refine ⟨r, x, hbegins, ?_, hdecode⟩
  rw [(hasks.first r hbegins).2.1]
  exact hbelow

end BucketLifecycle
