import BucketLifecycle.Store.Memory

/-!
# Laws of the in-memory store

Each call is described by what `MemoryStore.bucket` finds before it and after it, so that no later
proof looks into the list of buckets.  A store keeps the generation and the times of a bucket
itself, whatever it is asked to store; `Snapshot.settings` is what is left of a snapshot without
them, and what a creation or an update leaves behind has the settings that were asked for.
-/

set_option autoImplicit false

namespace BucketLifecycle

/-- A snapshot without its generation and its times. -/
def Snapshot.settings (s : Snapshot) : Snapshot :=
  { s with metageneration := none, timeCreated := none, updated := none }

/-- Equal settings have the name in common. -/
theorem Snapshot.name_of_settings {s t : Snapshot} (h : s.settings = t.settings) :
    s.name = t.name := by
  have hname := congrArg Snapshot.name h
  exact hname

/-- Equal settings have the lifecycle in common. -/
theorem Snapshot.lifecycle_of_settings {s t : Snapshot} (h : s.settings = t.settings) :
    s.lifecycle = t.lifecycle := by
  have hlifecycle := congrArg Snapshot.lifecycle h
  exact hlifecycle

namespace MemoryStore

/-- A bucket that was filed is found under its name. -/
theorem find?_put_self (s : Snapshot) (buckets : List Snapshot) :
    find? s.name (put s buckets) = some s := by
  unfold find?
  induction buckets with
  | nil => simp [put]
  | cons t rest ih =>
    unfold put
    split
    · simp
    · next hname =>
      rw [List.find?_cons_of_neg (by simpa using hname)]
      exact ih

/-- Filing a bucket leaves what is found under other names. -/
theorem find?_put_of_ne {name : String} {s : Snapshot} (h : name ≠ s.name)
    (buckets : List Snapshot) : find? name (put s buckets) = find? name buckets := by
  have hs : (s.name == name) = false := by simpa using h.symm
  unfold find?
  induction buckets with
  | nil => simp [put, hs]
  | cons t rest ih =>
    unfold put
    split
    · next hname => rw [List.find?_cons, List.find?_cons, hname, hs]
    · rw [List.find?_cons, List.find?_cons, ih]

variable {m : MemoryStore} {name : String} {s desired : Snapshot}

/-- A bucket is stored under its own name. -/
theorem name_of_bucket (h : m.bucket name = some s) : s.name = name := by
  simpa using List.find?_some h

/-- What is committed is found under its name. -/
@[simp] theorem bucket_commit_self (m : MemoryStore) (s : Snapshot) :
    (m.commit s).bucket s.name = some s := find?_put_self s m.buckets

/-- A commit leaves the other buckets alone. -/
theorem bucket_commit_of_ne (m : MemoryStore) (h : name ≠ s.name) :
    (m.commit s).bucket name = m.bucket name := find?_put_of_ne h m.buckets

/-- A commit is one mutation. -/
@[simp] theorem mutations_commit (m : MemoryStore) (s : Snapshot) :
    (m.commit s).mutations = m.mutations + 1 := rfl

/-- What is stored with the desired settings is found under the desired name. -/
theorem bucket_commit_of_settings (m : MemoryStore) {stored : Snapshot}
    (h : stored.settings = desired.settings) :
    (m.commit stored).bucket desired.name = some stored := by
  rw [← Snapshot.name_of_settings h]
  exact bucket_commit_self m stored

/-- A reading answers the bucket that the store holds. -/
theorem answer_get_of_present (now : Timestamp) (h : m.bucket name = some s) :
    m.answer now (.get name) = (.ok s, { m with reads := m.reads + 1 }) := by
  unfold bucket at h
  simp only [answer, get, bucket, h]

/-- A get of an absent bucket is answered by its name, and is one more read. -/
theorem answer_get_of_absent (now : Timestamp) (h : m.bucket name = none) :
    m.answer now (.get name) = (.error (.notFound name), { m with reads := m.reads + 1 }) := by
  unfold bucket at h
  simp only [answer, get, bucket, h]

/-- A reading changes nothing but the count of readings. -/
theorem state_answer_get (m : MemoryStore) (now : Timestamp) (name : String) :
    (m.answer now (.get name)).2 = { m with reads := m.reads + 1 } := by
  cases h : m.bucket name with
  | none => rw [answer_get_of_absent now h]
  | some s => rw [answer_get_of_present now h]

/-- Where there is no bucket of the name, one with the desired settings is created. -/
theorem answer_insert_of_absent (now : Timestamp) (h : m.bucket desired.name = none) :
    ∃ created, created.settings = desired.settings ∧
      m.answer now (.insert desired) = (.ok created, m.commit created) := by
  refine ⟨{ desired with
    metageneration := some 1, timeCreated := some now, updated := some now }, rfl, ?_⟩
  simp only [answer, insert, h]

/-- An insert of a bucket that exists is a conflict and changes nothing. -/
theorem answer_insert_of_present (now : Timestamp) (h : m.bucket desired.name = some s) :
    ∃ message, m.answer now (.insert desired) = (.error (.conflict message), m) := by
  refine ⟨"bucket " ++ desired.name ++ " already exists", ?_⟩
  simp only [answer, insert, h]

/-- A bucket that exists gets the desired settings. -/
theorem answer_update_of_present (now : Timestamp) (h : m.bucket desired.name = some s) :
    ∃ updated, updated.settings = desired.settings ∧
      m.answer now (.update desired) = (.ok updated, m.commit updated) := by
  refine ⟨{ desired with
    metageneration := some (s.metageneration.getD 0 + 1)
    timeCreated := s.timeCreated
    updated := some now }, rfl, ?_⟩
  simp only [answer, update, h]

/-- An update of an absent bucket is answered by its name and changes nothing. -/
theorem answer_update_of_absent (now : Timestamp) (h : m.bucket desired.name = none) :
    m.answer now (.update desired) = (.error (.notFound desired.name), m) := by
  simp only [answer, update, h]

/-- A change leaves a bucket that is there. -/
theorem present_commit (h : m.bucket name ≠ none) (s : Snapshot) :
    (m.commit s).bucket name ≠ none := by
  by_cases hname : name = s.name
  · rw [hname, bucket_commit_self]
    exact nofun
  · rw [bucket_commit_of_ne m hname]
    exact h

/-- A bucket that exists outlasts every call. -/
theorem present_answer (h : m.bucket name ≠ none) (now : Timestamp) (c : BucketCall) :
    (m.answer now c).2.bucket name ≠ none := by
  cases c with
  | get other =>
    rw [state_answer_get]
    exact h
  | insert desired =>
    cases hbucket : m.bucket desired.name with
    | none =>
      obtain ⟨created, -, hanswer⟩ := answer_insert_of_absent now hbucket
      rw [hanswer]
      exact present_commit h created
    | some s =>
      obtain ⟨message, hanswer⟩ := answer_insert_of_present now hbucket
      rw [hanswer]
      exact h
  | update desired =>
    cases hbucket : m.bucket desired.name with
    | none =>
      rw [answer_update_of_absent now hbucket]
      exact h
    | some s =>
      obtain ⟨updated, -, hanswer⟩ := answer_update_of_present now hbucket
      rw [hanswer]
      exact present_commit h updated

/-- A deletion leaves what is found under other names. -/
theorem bucket_delete_of_ne (m : MemoryStore) {other : String} (h : name ≠ other) :
    (m.delete other).2.bucket name = m.bucket name := by
  unfold delete
  cases m.bucket other with
  | none => rfl
  | some s =>
    show find? name (m.buckets.filter fun s => s.name != other) = find? name m.buckets
    unfold find?
    rw [List.find?_filter]
    congr 1
    funext t
    by_cases hname : t.name = name
    · simp [hname, h]
    · simp [hname]

/-- The store itself never fails transiently. -/
theorem isTransient_of_answer {now : Timestamp} {c : BucketCall} {e : StoreError}
    (h : (m.answer now c).1 = .error e) : e.isTransient = false := by
  cases c with
  | get name =>
    cases hbucket : m.bucket name with
    | none =>
      rw [answer_get_of_absent now hbucket] at h
      cases h
      rfl
    | some s =>
      rw [answer_get_of_present now hbucket] at h
      cases h
  | insert desired =>
    cases hbucket : m.bucket desired.name with
    | none =>
      obtain ⟨created, -, hanswer⟩ := answer_insert_of_absent now hbucket
      rw [hanswer] at h
      cases h
    | some s =>
      obtain ⟨message, hanswer⟩ := answer_insert_of_present now hbucket
      rw [hanswer] at h
      cases h
      rfl
  | update desired =>
    cases hbucket : m.bucket desired.name with
    | none =>
      rw [answer_update_of_absent now hbucket] at h
      cases h
      rfl
    | some s =>
      obtain ⟨updated, -, hanswer⟩ := answer_update_of_present now hbucket
      rw [hanswer] at h
      cases h

end MemoryStore

end BucketLifecycle
