import BucketLifecycle.Settings.Basic
import BucketLifecycle.Proofs.Json.Record

/-!
# Settings and retry policies read back from their text

A wait is written in whole milliseconds, of which there are at most `2^64 - 1`, and so what is read
back is the policy with its waits cut down to that (`RetryPolicy.inMillis`).  Cutting twice is
cutting once: what was read is written as the same text again.

Where keys are taken out of a text, at whatever depth, the fields under these keys have their
standard values and all others are read as they were written.  Both kinds of text are records of
slots, of which a key that is taken out leaves one empty; `settings_codec` states the laws for
policies and for settings alike.
-/

set_option autoImplicit false

namespace BucketLifecycle

open Json

/-! ### Taking out keys -/

namespace Json

mutual

/-- The value without the members, at any depth, that are reached by one of the dropped paths of
names. -/
def Node.without (dropped : List String → Bool) : Node → Node
  | .object members ending => .object (withoutMembers dropped members) ending
  | n => n

/-- The members of an object without those that are dropped. -/
def Node.withoutMembers (dropped : List String → Bool) :
    List (StringLit × Node) → List (StringLit × Node)
  | [] => []
  | (key, value) :: rest =>
    match key.text with
    | .ok name =>
      if dropped [name] then withoutMembers dropped rest
      else (key, value.without fun path => dropped (name :: path)) :: withoutMembers dropped rest
    | .error _ => (key, value) :: withoutMembers dropped rest

end

mutual

/-- A value that loses nothing stays as it is. -/
theorem Node.without_nothing : (n : Node) → n.without (fun _ => false) = n
  | .object members ending => by rw [Node.without, Node.withoutMembers_nothing members]
  | .null | .bool _ | .number _ | .string _ | .list _ _ | .gap _ => rfl

/-- Members that lose nothing stay as they are. -/
theorem Node.withoutMembers_nothing : (members : List (StringLit × Node)) →
    Node.withoutMembers (fun _ => false) members = members
  | [] => rfl
  | (key, value) :: rest => by
    rw [Node.withoutMembers, Node.withoutMembers_nothing rest, Node.without_nothing value]
    split <;> rfl

end

/-- What is left of a member that may be dropped. -/
def keptMember (dropped : List String → Bool) (member : String × Node) : List (String × Node) :=
  if dropped [member.1] then []
  else [(member.1, member.2.without fun path => dropped (member.1 :: path))]

/-- An object loses the members that are dropped, and those within the others. -/
theorem Node.without_ofMembers (dropped : List String → Bool) (members : List (String × Node)) :
    (Node.ofMembers members).without dropped =
      .ofMembers (members.flatMap (keptMember dropped)) := by
  unfold Node.ofMembers Node.without
  congr 1
  induction members with
  | nil => rw [List.map_nil, Node.withoutMembers, List.flatMap_nil, List.map_nil]
  | cons member rest ih =>
    obtain ⟨name, value⟩ := member
    rw [List.map_cons, Node.withoutMembers, StringLit.text_ofString, List.flatMap_cons,
      List.map_append, ← ih, keptMember]
    dsimp only
    split <;> rfl

end Json

/-- A codec that reads back what it writes up to a cut. -/
structure ReadsBack {α : Type} (encode : α → Node) (d : Decoder α) (cut : α → α)
    (IsExact : α → Prop) (reset : (List String → Bool) → α → α) : Prop where
  /-- what was written is read back cut -/
  run_text : ∀ a, d.run (encode a).text = .ok (cut a)
  /-- and is the value itself exactly where nothing had to be cut -/
  run_text_eq_iff : ∀ a, d.run (encode a).text = .ok a ↔ IsExact a
  /-- what was read is written as the same text again -/
  text_cut : ∀ a, (encode (cut a)).text = (encode a).text
  /-- a text without some of its keys gives the fields under these keys their standard values -/
  run_without : ∀ a dropped,
    d.run ((encode a).without dropped).text = .ok (reset dropped (cut a))

/-- What is read back without any of its members is read back with all of them. -/
theorem readsBack_of_run_without {α : Type} {encode : α → Node} {d : Decoder α} {cut : α → α}
    {IsExact : α → Prop} {reset : (List String → Bool) → α → α}
    (hwithout : ∀ a dropped,
      d.run ((encode a).without dropped).text = .ok (reset dropped (cut a)))
    (hreset : ∀ a, reset (fun _ => false) a = a) (hexact : ∀ a, cut a = a ↔ IsExact a)
    (hencode : ∀ a, encode (cut a) = encode a) : ReadsBack encode d cut IsExact reset := by
  have hrun (a : α) : d.run (encode a).text = .ok (cut a) := by
    have hkept := hwithout a fun _ => false
    rwa [Node.without_nothing, hreset] at hkept
  constructor
  · exact hrun
  · intro a
    rw [hrun, Except.ok.injEq, hexact]
  · intro a
    rw [hencode]
  · exact hwithout

/-! ### Waits -/

namespace Duration

/-- The duration cut down to whole milliseconds, and to the longest one that 64 bits count in
them. -/
def inMillis (d : Duration) : Duration :=
  ⟨min (d.nanoseconds / 1000000) 18446744073709551615 * 1000000, by
    simp only [maxNanoseconds]
    omega⟩

/-- A whole number of milliseconds that 64 bits can count. -/
def IsMillis (d : Duration) : Prop :=
  ∃ k, k ≤ 18446744073709551615 ∧ d.nanoseconds = k * 1000000

/-- Durations of the same nanoseconds are equal. -/
theorem ext_nanoseconds {d e : Duration} (h : d.nanoseconds = e.nanoseconds) : d = e := by
  cases d
  cases e
  cases h
  rfl

/-- Only a countable number of whole milliseconds is not cut. -/
theorem inMillis_eq_self_iff {d : Duration} : d.inMillis = d ↔ d.IsMillis := by
  constructor
  · intro h
    exact ⟨_, Nat.min_le_right _ _, congrArg nanoseconds h.symm⟩
  · rintro ⟨k, hk, hd⟩
    refine ext_nanoseconds ?_
    show min (d.nanoseconds / 1000000) 18446744073709551615 * 1000000 = d.nanoseconds
    omega

/-- The milliseconds of a duration are the duration cut to them. -/
theorem ofMillis_millis (d : Duration) : ofMillis d.millis = d.inMillis := by
  refine ext_nanoseconds ?_
  have hsize : min (d.nanoseconds / 1000000) 18446744073709551615 < UInt64.size :=
    Nat.lt_succ_of_le (Nat.min_le_right _ _)
  exact congrArg (· * 1000000) (UInt64.toNat_ofNat_of_lt' hsize)

/-- Cutting a duration to whole milliseconds leaves their number. -/
theorem millis_inMillis (d : Duration) : d.inMillis.millis = d.millis := by
  have hcut : min (d.inMillis.nanoseconds / 1000000) (UInt64.size - 1) =
      min (d.nanoseconds / 1000000) (UInt64.size - 1) := by
    simp only [inMillis, UInt64.size]
    omega
  exact congrArg UInt64.ofNat hcut

end Duration

/-! ### Retry policies -/

namespace RetryPolicy

/-- The policy with its waits cut down to whole milliseconds. -/
def inMillis (p : RetryPolicy) : RetryPolicy :=
  { p with baseDelay := p.baseDelay.inMillis, maxDelay := p.maxDelay.inMillis }

/-- The policy with the standard values of the fields that are dropped. -/
def reset (dropped : List String → Bool) (p : RetryPolicy) : RetryPolicy where
  maxRetries := if dropped ["max_retries"] then standard.maxRetries else p.maxRetries
  baseDelay := if dropped ["base_delay"] then standard.baseDelay else p.baseDelay
  maxDelay := if dropped ["max_delay"] then standard.maxDelay else p.maxDelay

/-- A policy is not cut where neither of its waits is. -/
theorem inMillis_eq_self_iff {p : RetryPolicy} :
    p.inMillis = p ↔ p.baseDelay.IsMillis ∧ p.maxDelay.IsMillis := by
  rw [← Duration.inMillis_eq_self_iff, ← Duration.inMillis_eq_self_iff]
  cases p
  simp [inMillis]

/-- A policy and what it is cut to are written in the same way. -/
theorem encode_inMillis (p : RetryPolicy) : p.inMillis.encode = p.encode := by
  simp [encode, inMillis, Duration.millis_inMillis]

/-- The fields of a policy as they are written, apart from those that are dropped. -/
def slots (dropped : List String → Bool) (p : RetryPolicy) : List Slot :=
  [⟨maxRetriesField.toCheck,
      if dropped ["max_retries"] then none else some (.ofNat p.maxRetries.toNat)⟩,
    ⟨baseDelayField.toCheck,
      if dropped ["base_delay"] then none else some (.ofNat p.baseDelay.millis.toNat)⟩,
    ⟨maxDelayField.toCheck,
      if dropped ["max_delay"] then none else some (.ofNat p.maxDelay.millis.toNat)⟩]

/-- A policy without some of its members is written as the record of the other slots. -/
theorem without_encode (dropped : List String → Bool) (p : RetryPolicy) :
    p.encode.without dropped = recordNode (p.slots dropped) := by
  unfold encode
  rw [Node.without_ofMembers, recordNode]
  congr 1
  simp only [slots, List.flatMap_cons, List.flatMap_nil, ← unlessMember_eq]
  rfl

/-- A wait is read back cut to whole milliseconds. -/
theorem decodeMillis_ofNat (d : Duration) :
    decodeMillis (.ofNat d.millis.toNat) = .ok d.inMillis := by
  rw [decodeMillis, faithful_uint64.decode_encode, ← Duration.ofMillis_millis]
  rfl

/-- The number of retries is read back, or its default where it was dropped. -/
theorem fills_maxRetries (dropped : List String → Bool) (p : RetryPolicy) :
    maxRetriesField.Fills
      (if dropped ["max_retries"] then none else some (.ofNat p.maxRetries.toNat))
      (p.inMillis.reset dropped).maxRetries :=
  fills_unless _ (faithful_uint32.decode_encode p.maxRetries) (.natural _) rfl

/-- The first wait is read back in milliseconds, or its default where it was dropped. -/
theorem fills_baseDelay (dropped : List String → Bool) (p : RetryPolicy) :
    baseDelayField.Fills
      (if dropped ["base_delay"] then none else some (.ofNat p.baseDelay.millis.toNat))
      (p.inMillis.reset dropped).baseDelay :=
  fills_unless _ (decodeMillis_ofNat p.baseDelay) (.natural _) rfl

/-- The longest wait is read back in milliseconds, or its default where it was dropped. -/
theorem fills_maxDelay (dropped : List String → Bool) (p : RetryPolicy) :
    maxDelayField.Fills
      (if dropped ["max_delay"] then none else some (.ofNat p.maxDelay.millis.toNat))
      (p.inMillis.reset dropped).maxDelay :=
  fills_unless _ (decodeMillis_ofNat p.maxDelay) (.natural _) rfl

/-- No two slots of a policy have one name. -/
theorem distinctNames_slots (dropped : List String → Bool) (p : RetryPolicy) :
    DistinctNames (p.slots dropped) := by
  simp [DistinctNames, slots, maxRetriesField, baseDelayField, maxDelayField, RecordField.toCheck]

/-- What a policy is written as passes the check of each field. -/
theorem passes_slots (dropped : List String → Bool) (p : RetryPolicy) :
    ∀ slot ∈ p.slots dropped, slot.Passes := by
  simp only [slots, List.forall_mem_cons]
  exact ⟨(p.fills_maxRetries dropped).passes, (p.fills_baseDelay dropped).passes,
    (p.fills_maxDelay dropped).passes, List.forall_mem_nil _⟩

/-- Whatever is dropped from a policy, its text can be read back. -/
theorem plain_without (dropped : List String → Bool) (p : RetryPolicy) :
    (p.encode.without dropped).Plain := by
  rw [without_encode]
  exact plain_recordNode (p.passes_slots dropped)

/-- A policy is read back in milliseconds, with its defaults for what was dropped. -/
theorem decode_without (dropped : List String → Bool) (p : RetryPolicy) :
    decode (p.encode.without dropped) = .ok (p.inMillis.reset dropped) := by
  have hnames := p.distinctNames_slots dropped
  have hretries := get_slotMembers hnames (by simp [slots]) (p.fills_maxRetries dropped)
  have hbase := get_slotMembers hnames (by simp [slots]) (p.fills_baseDelay dropped)
  have hmax := get_slotMembers hnames (by simp [slots]) (p.fills_maxDelay dropped)
  rw [without_encode]
  refine (record_recordNode hnames (p.passes_slots dropped)).trans ?_
  simp [hretries, hbase, hmax, bind, Except.bind, pure, Except.pure]

end RetryPolicy

/-! ### Settings -/

namespace Settings

/-- The settings with the waits of their retry policy cut down to whole milliseconds. -/
def inMillis (s : Settings) : Settings :=
  { s with retry := s.retry.inMillis }

/-- The settings with the standard values of the fields that are dropped, also of single fields of
the retry policy. -/
def reset (dropped : List String → Bool) (s : Settings) : Settings where
  endpoint := if dropped ["endpoint"] then standard.endpoint else s.endpoint
  project := if dropped ["project"] then standard.project else s.project
  accessToken := if dropped ["access_token"] then standard.accessToken else s.accessToken
  timeoutSecs := if dropped ["timeout_secs"] then standard.timeoutSecs else s.timeoutSecs
  retry := if dropped ["retry"] then standard.retry
    else s.retry.reset fun path => dropped ("retry" :: path)
  maxConflictCycles :=
    if dropped ["max_conflict_cycles"] then standard.maxConflictCycles else s.maxConflictCycles
  deadlineSecs := if dropped ["deadline_secs"] then standard.deadlineSecs else s.deadlineSecs

/-- Settings are not cut where neither wait of their policy is. -/
theorem inMillis_eq_self_iff {s : Settings} :
    s.inMillis = s ↔ s.retry.baseDelay.IsMillis ∧ s.retry.maxDelay.IsMillis := by
  rw [← RetryPolicy.inMillis_eq_self_iff]
  cases s
  simp [inMillis]

/-- Settings and what they are cut to are written in the same way. -/
theorem encode_inMillis (s : Settings) : s.inMillis.encode = s.encode := by
  simp [encode, inMillis, RetryPolicy.encode_inMillis]

/-- The fields of settings as they are written, apart from those that are dropped. -/
def slots (dropped : List String → Bool) (s : Settings) : List Slot :=
  [⟨endpointField.toCheck, if dropped ["endpoint"] then none else some (.ofString s.endpoint)⟩,
    ⟨projectField.toCheck,
      if dropped ["project"] then none else some (s.project.elim .null .ofString)⟩,
    ⟨accessTokenField.toCheck,
      if dropped ["access_token"] then none else some (s.accessToken.elim .null .ofString)⟩,
    ⟨timeoutSecsField.toCheck,
      if dropped ["timeout_secs"] then none else some (.ofNat s.timeoutSecs.toNat)⟩,
    ⟨retryField.toCheck, if dropped ["retry"] then none
      else some (s.retry.encode.without fun path => dropped ("retry" :: path))⟩,
    ⟨maxConflictCyclesField.toCheck,
      if dropped ["max_conflict_cycles"] then none else some (.ofNat s.maxConflictCycles.toNat)⟩,
    ⟨deadlineSecsField.toCheck,
      if dropped ["deadline_secs"] then none else some (.ofNat s.deadlineSecs.toNat)⟩]

/-- A text or null has nothing to lose. -/
theorem without_text (dropped : List String → Bool) (value : Option String) :
    (value.elim Node.null .ofString).without dropped = value.elim .null .ofString := by
  cases value <;> rfl

/-- Settings without some of their members are written as the record of the other slots. -/
theorem without_encode (dropped : List String → Bool) (s : Settings) :
    s.encode.without dropped = recordNode (s.slots dropped) := by
  unfold encode
  rw [Node.without_ofMembers, recordNode]
  congr 1
  simp only [slots, List.flatMap_cons, List.flatMap_nil, ← unlessMember_eq, keptMember,
    without_text]
  rfl

/-- A text that may be missing is written as `null` where it is. -/
theorem decode_text (value : Option String) :
    Decoder.option .string (value.elim .null .ofString) = .ok value := by
  cases value with
  | none => rfl
  | some text => exact faithful_ofString.option text

/-- A text or null can be read back from its text. -/
theorem plain_text (value : Option String) : (value.elim Node.null .ofString).Plain := by
  cases value with
  | none => exact .null
  | some text => exact .string text

/-- No two slots of the settings have one name. -/
theorem distinctNames_slots (dropped : List String → Bool) (s : Settings) :
    DistinctNames (s.slots dropped) := by
  simp [DistinctNames, slots, endpointField, projectField, accessTokenField, timeoutSecsField,
    retryField, maxConflictCyclesField, deadlineSecsField, RecordField.toCheck]

section

variable (dropped : List String → Bool) (s : Settings)

/-- The endpoint is read back, or its default where it was dropped. -/
theorem fills_endpoint : endpointField.Fills
    (if dropped ["endpoint"] then none else some (.ofString s.endpoint))
    (s.inMillis.reset dropped).endpoint :=
  fills_unless _ (faithful_ofString.decode_encode s.endpoint) (.string _) rfl

/-- The project is read back, or its default where it was dropped. -/
theorem fills_project : projectField.Fills
    (if dropped ["project"] then none else some (s.project.elim .null .ofString))
    (s.inMillis.reset dropped).project :=
  fills_unless _ (decode_text s.project) (plain_text _) rfl

/-- The access token is read back, or its default where it was dropped. -/
theorem fills_accessToken : accessTokenField.Fills
    (if dropped ["access_token"] then none else some (s.accessToken.elim .null .ofString))
    (s.inMillis.reset dropped).accessToken :=
  fills_unless _ (decode_text s.accessToken) (plain_text _) rfl

/-- The time limit is read back, or its default where it was dropped. -/
theorem fills_timeoutSecs : timeoutSecsField.Fills
    (if dropped ["timeout_secs"] then none else some (.ofNat s.timeoutSecs.toNat))
    (s.inMillis.reset dropped).timeoutSecs :=
  fills_unless _ (faithful_uint64.decode_encode s.timeoutSecs) (.natural _) rfl

/-- The retry policy is a record in the record, and loses fields of its own. -/
theorem fills_retry : retryField.Fills
    (if dropped ["retry"] then none
      else some (s.retry.encode.without fun path => dropped ("retry" :: path)))
    (s.inMillis.reset dropped).retry :=
  fills_unless _ (s.retry.decode_without _) (s.retry.plain_without _) rfl

/-- The number of lost races is read back, or its default where it was dropped. -/
theorem fills_maxConflictCycles : maxConflictCyclesField.Fills
    (if dropped ["max_conflict_cycles"] then none else some (.ofNat s.maxConflictCycles.toNat))
    (s.inMillis.reset dropped).maxConflictCycles :=
  fills_unless _ (faithful_uint32.decode_encode s.maxConflictCycles) (.natural _) rfl

/-- The deadline is read back, or its default where it was dropped. -/
theorem fills_deadlineSecs : deadlineSecsField.Fills
    (if dropped ["deadline_secs"] then none else some (.ofNat s.deadlineSecs.toNat))
    (s.inMillis.reset dropped).deadlineSecs :=
  fills_unless _ (faithful_uint64.decode_encode s.deadlineSecs) (.natural _) rfl

/-- What settings are written as passes the check of each field. -/
theorem passes_slots : ∀ slot ∈ s.slots dropped, slot.Passes := by
  simp only [slots, List.forall_mem_cons]
  exact ⟨(s.fills_endpoint dropped).passes, (s.fills_project dropped).passes,
    (s.fills_accessToken dropped).passes, (s.fills_timeoutSecs dropped).passes,
    (s.fills_retry dropped).passes, (s.fills_maxConflictCycles dropped).passes,
    (s.fills_deadlineSecs dropped).passes, List.forall_mem_nil _⟩

/-- Settings are read back in milliseconds, with their defaults for what was dropped. -/
theorem decode_without : decode (s.encode.without dropped) = .ok (s.inMillis.reset dropped) := by
  have hnames := s.distinctNames_slots dropped
  have hendpoint := get_slotMembers hnames (by simp [slots]) (s.fills_endpoint dropped)
  have hproject := get_slotMembers hnames (by simp [slots]) (s.fills_project dropped)
  have htoken := get_slotMembers hnames (by simp [slots]) (s.fills_accessToken dropped)
  have htimeout := get_slotMembers hnames (by simp [slots]) (s.fills_timeoutSecs dropped)
  have hretry := get_slotMembers hnames (by simp [slots]) (s.fills_retry dropped)
  have hcycles := get_slotMembers hnames (by simp [slots]) (s.fills_maxConflictCycles dropped)
  have hdeadline := get_slotMembers hnames (by simp [slots]) (s.fills_deadlineSecs dropped)
  rw [without_encode]
  refine (record_recordNode hnames (s.passes_slots dropped)).trans ?_
  simp [hendpoint, hproject, htoken, htimeout, hretry, hcycles, hdeadline, bind, Except.bind, pure,
    Except.pure]

/-- Whatever is dropped from settings, their text can be read back. -/
theorem plain_without : (s.encode.without dropped).Plain := by
  rw [without_encode]
  exact plain_recordNode (s.passes_slots dropped)

end

end Settings

/-- What retry policies and settings are read back as: the waits in whole milliseconds, all else as
it was, and from a text without some of its keys the standard values of these. -/
theorem settings_codec :
    ReadsBack RetryPolicy.encode RetryPolicy.decode RetryPolicy.inMillis
      (fun p => p.baseDelay.IsMillis ∧ p.maxDelay.IsMillis) RetryPolicy.reset ∧
    ReadsBack Settings.encode Settings.decode Settings.inMillis
      (fun s => s.retry.baseDelay.IsMillis ∧ s.retry.maxDelay.IsMillis) Settings.reset := by
  constructor
  · refine readsBack_of_run_without (fun p dropped => ?_) (fun _ => rfl)
      (fun _ => RetryPolicy.inMillis_eq_self_iff) RetryPolicy.encode_inMillis
    rw [Decoder.run_text _ (p.plain_without dropped), p.decode_without]
  · refine readsBack_of_run_without (fun s dropped => ?_) (fun _ => rfl)
      (fun _ => Settings.inMillis_eq_self_iff) Settings.encode_inMillis
    rw [Decoder.run_text _ (s.plain_without dropped), s.decode_without]

end BucketLifecycle
