import BucketLifecycle.Proofs.Store.Cells
import Mathlib.Data.Finset.Card
import Mathlib.Logic.Function.Basic

/-!
# The history of an in-memory store

A store is seeded, called and cleared of buckets in any order, and its `History` lists these acts,
each with the answer to it.  Read one after another they make a map from names to snapshots
(`filed`): a seeding files a snapshot, a creation or a replacement that succeeds files what it
answers under the name that was asked for, and a deletion that succeeds takes away what is filed.

Two things come from words of 64 bits.  Where sums are checked, a replacement of a bucket in the
largest generation has no answer and changes nothing (`Exhausts`); and the counts of the store are
those of its history modulo 2 ^ 64.

What is found in the store is what is filed (`History.kept_ofActs`).  So every answer, and both
counts, can be told from the history alone, and `history_isMap` says how.
-/

set_option autoImplicit false

namespace BucketLifecycle

/-- What may be done to a store. -/
inductive StoreAct where
  | seed (s : Snapshot)
  | call (now : Timestamp) (c : BucketCall)
  | delete (name : String)

/-- What was done to a store, with the answer to it. -/
inductive StoreEvent where
  | seeded (s : Snapshot)
  | answered (c : BucketCall) (answer : Except StoreError Snapshot)
  | deleted (name : String) (answer : Except StoreError Unit)
  /-- There was no answer. -/
  | brokenOff (c : BucketCall)

/-- The bucket that an act is about. -/
def StoreAct.bucket : StoreAct → String
  | .seed s => s.name
  | .call _ c => c.bucket
  | .delete name => name

/-- What is stored when a bucket is seeded: its generation is 1 unless it has one. -/
def Snapshot.seeded (s : Snapshot) : Snapshot :=
  { s with metageneration := s.metageneration.or (some 1) }

namespace StoreEvent

/-- What is filed after an event, given what was filed before it. -/
def files (filing : String → Option Snapshot) : StoreEvent → String → Option Snapshot
  | .seeded s => Function.update filing s.name (some s.seeded)
  | .answered (.insert desired) (.ok s) => Function.update filing desired.name (some s)
  | .answered (.update desired) (.ok s) => Function.update filing desired.name (some s)
  | .deleted name (.ok ()) => Function.update filing name none
  | _ => filing

def isReading : StoreEvent → Bool
  | .answered (.get _) _ => true
  | _ => false

/-- A creation, a replacement or a deletion that has succeeded. -/
def isChange : StoreEvent → Bool
  | .answered (.insert _) (.ok _) => true
  | .answered (.update _) (.ok _) => true
  | .deleted _ (.ok ()) => true
  | _ => false

/-- An error for an answer, or none at all. -/
def isFailure : StoreEvent → Bool
  | .answered _ (.error _) => true
  | .deleted _ (.error _) => true
  | .brokenOff _ => true
  | _ => false

end StoreEvent

/-- What is filed under each name after some events. -/
def filed (events : List StoreEvent) : String → Option Snapshot :=
  events.foldl StoreEvent.files fun _ => none

/-- The bucket that is filed under a name is in the largest generation, and sums are checked. -/
def Exhausts (arithmetic : Arithmetic) (filing : String → Option Snapshot) (name : String) : Prop :=
  arithmetic = .checked ∧ ∃ s, filing name = some s ∧ s.metageneration = some Int64.maxValue

namespace MemoryStore

def perform (m : MemoryStore) (arithmetic : Arithmetic) : StoreAct → StoreEvent × MemoryStore
  | .seed s => (.seeded s, m.seed s)
  | .call now c =>
    match m.answer? arithmetic now c with
    | some (answer, after) => (.answered c answer, after)
    | none => (.brokenOff c, m)
  | .delete name => (.deleted name (m.delete name).1, (m.delete name).2)

/-- Only an update of a bucket with the largest generation goes past the word. -/
theorem overflows_iff {m : MemoryStore} {c : BucketCall} :
    m.overflows c = true ↔ ∃ desired s, c = .update desired ∧ m.bucket desired.name = some s ∧
      s.metageneration = some Int64.maxValue := by
  cases c with
  | get name => simp [overflows]
  | insert desired => simp [overflows]
  | update desired => cases h : m.bucket desired.name <;> simp [overflows, h]

/-- A call breaks off where it replaces a bucket that has no next generation. -/
theorem answer?_eq_none_iff {m : MemoryStore} {arithmetic : Arithmetic} {now : Timestamp}
    {c : BucketCall} : m.answer? arithmetic now c = none ↔
      ∃ desired, c = .update desired ∧ Exhausts arithmetic m.bucket desired.name := by
  cases arithmetic with
  | wrapping => simp [answer?, Exhausts]
  | checked =>
    have hnone : m.answer? .checked now c = none ↔ m.overflows c = true := by simp [answer?]
    rw [hnone, overflows_iff]
    simp [Exhausts]

/-- A call that is answered is answered in the same way however sums are treated. -/
theorem answer_of_answer? {m : MemoryStore} {arithmetic : Arithmetic} {now : Timestamp}
    {c : BucketCall} (h : m.answer? arithmetic now c ≠ none) :
    m.answer? arithmetic now c = some (m.answer now c) := by
  cases arithmetic with
  | wrapping => rfl
  | checked =>
    unfold answer? at h ⊢
    dsimp only at h ⊢
    split at h
    · exact absurd rfl h
    · next hroom => exact if_neg hroom

end MemoryStore

/-- A store with what has been done to it since it was empty. -/
structure History where
  events : List StoreEvent
  store : MemoryStore

namespace History

/-- The history with one more act. -/
def next (arithmetic : Arithmetic) (h : History) (act : StoreAct) : History :=
  ⟨h.events ++ [(h.store.perform arithmetic act).1], (h.store.perform arithmetic act).2⟩

/-- The history that acts make, one after another. -/
def ofActs (arithmetic : Arithmetic) (acts : List StoreAct) : History :=
  acts.foldl (next arithmetic) ⟨[], .empty⟩

/-- One more act takes the history one event further. -/
theorem ofActs_concat (arithmetic : Arithmetic) (acts : List StoreAct) (act : StoreAct) :
    ofActs arithmetic (acts ++ [act]) = (ofActs arithmetic acts).next arithmetic act :=
  List.foldl_concat ..

end History

/-! ### One act -/

/-- What an act can come to, with what it does to the store. -/
inductive Performs (arithmetic : Arithmetic) (m : MemoryStore) :
    StoreAct → StoreEvent → MemoryStore → Prop
  | seeded (s : Snapshot) :
    Performs arithmetic m (.seed s) (.seeded s)
      { m with buckets := MemoryStore.put s.seeded m.buckets }
  | found {now : Timestamp} {name : String} {s : Snapshot} (h : m.bucket name = some s) :
    Performs arithmetic m (.call now (.get name)) (.answered (.get name) (.ok s))
      { m with reads := m.reads + 1 }
  | absent {now : Timestamp} {name : String} (h : m.bucket name = none) :
    Performs arithmetic m (.call now (.get name)) (.answered (.get name) (.error (.notFound name)))
      { m with reads := m.reads + 1 }
  | created {now : Timestamp} {desired : Snapshot} (h : m.bucket desired.name = none) :
    Performs arithmetic m (.call now (.insert desired))
      (.answered (.insert desired) (.ok (desired.createdAt now)))
      (m.commit (desired.createdAt now))
  | taken {now : Timestamp} {desired s : Snapshot} {message : String}
      (h : m.bucket desired.name = some s) :
    Performs arithmetic m (.call now (.insert desired))
      (.answered (.insert desired) (.error (.conflict message))) m
  | replaced {now : Timestamp} {desired s : Snapshot} (h : m.bucket desired.name = some s)
      (hroom : ¬ Exhausts arithmetic m.bucket desired.name) :
    Performs arithmetic m (.call now (.update desired))
      (.answered (.update desired) (.ok (desired.replacingAt s now)))
      (m.commit (desired.replacingAt s now))
  | brokenOff {now : Timestamp} {desired : Snapshot}
      (h : Exhausts arithmetic m.bucket desired.name) :
    Performs arithmetic m (.call now (.update desired)) (.brokenOff (.update desired)) m
  | missing {now : Timestamp} {desired : Snapshot} (h : m.bucket desired.name = none) :
    Performs arithmetic m (.call now (.update desired))
      (.answered (.update desired) (.error (.notFound desired.name))) m
  | deleted {name : String} {s : Snapshot} (h : m.bucket name = some s) :
    Performs arithmetic m (.delete name) (.deleted name (.ok ()))
      { m with
        buckets := m.buckets.filter fun s => s.name != name
        mutations := m.mutations + 1 }
  | gone {name : String} (h : m.bucket name = none) :
    Performs arithmetic m (.delete name) (.deleted name (.error (.notFound name))) m

namespace MemoryStore

/-- A call that is answered, by the kind of call and by what is filed. -/
theorem performs_answer {arithmetic : Arithmetic} (m : MemoryStore) (now : Timestamp)
    (c : BucketCall) (h : m.answer? arithmetic now c ≠ none) :
    Performs arithmetic m (.call now c) (.answered c (m.answer now c).1) (m.answer now c).2 := by
  cases c with
  | get name =>
    cases h : m.bucket name with
    | none =>
      rw [answer_get_of_absent now h]
      exact .absent h
    | some s =>
      rw [answer_get_of_present now h]
      exact .found h
  | insert desired =>
    unfold answer insert
    dsimp only
    cases h : m.bucket desired.name with
    | none => exact .created h
    | some s => exact .taken h
  | update desired =>
    have hroom : ¬ Exhausts arithmetic m.bucket desired.name :=
      fun hexhausts => h (answer?_eq_none_iff.2 ⟨desired, rfl, hexhausts⟩)
    unfold answer update
    dsimp only
    cases h : m.bucket desired.name with
    | none => exact .missing h
    | some s => exact .replaced h hroom

/-- What the store does under an act is one of the ways that `Performs` lists. -/
theorem performs (arithmetic : Arithmetic) (m : MemoryStore) (act : StoreAct) :
    Performs arithmetic m act (m.perform arithmetic act).1 (m.perform arithmetic act).2 := by
  cases act with
  | seed s => exact .seeded s
  | delete name =>
    show Performs arithmetic m _ (.deleted name (m.delete name).1) (m.delete name).2
    unfold delete
    cases h : m.bucket name with
    | none => exact .gone h
    | some s => exact .deleted h
  | call now c =>
    unfold perform
    dsimp only
    cases h : m.answer? arithmetic now c with
    | none =>
      obtain ⟨desired, rfl, hexhausts⟩ := answer?_eq_none_iff.1 h
      exact .brokenOff hexhausts
    | some answered =>
      have hanswered : m.answer? arithmetic now c ≠ none := by
        rw [h]
        exact nofun
      obtain rfl : answered = m.answer now c :=
        Option.some.inj (h.symm.trans (answer_of_answer? hanswered))
      exact m.performs_answer now c hanswered

/-- Filing a snapshot under its name. -/
theorem find?_put (s : Snapshot) (buckets : List Snapshot) :
    (find? · (put s buckets)) = Function.update (find? · buckets) s.name (some s) := by
  funext name
  by_cases h : name = s.name
  · rw [h, Function.update_self, find?_put_self]
  · rw [Function.update_of_ne h, find?_put_of_ne h]

/-- Taking a name out of the list takes it out of the map. -/
theorem find?_filter (name : String) (buckets : List Snapshot) :
    (find? · (buckets.filter fun s => s.name != name)) =
      Function.update (find? · buckets) name none := by
  funext other
  unfold find?
  rw [List.find?_filter]
  by_cases h : other = name
  · rw [h, Function.update_self, List.find?_eq_none]
    simp
  · rw [Function.update_of_ne h]
    congr 1
    funext s
    by_cases hs : s.name = other
    · simp [hs, h]
    · simp [hs]

/-- The members of the list after a `put` are the new one and old ones. -/
theorem mem_put {s t : Snapshot} {buckets : List Snapshot} (h : t ∈ put s buckets) :
    t = s ∨ t ∈ buckets := by
  induction buckets with
  | nil => exact .inl (List.mem_singleton.1 h)
  | cons first rest ih =>
    unfold put at h
    split at h
    · exact (List.mem_cons.1 h).imp_right (List.mem_cons_of_mem _)
    · rcases List.mem_cons.1 h with rfl | h
      · exact .inr List.mem_cons_self
      · exact (ih h).imp_right (List.mem_cons_of_mem _)

/-- A `put` keeps one member for each name. -/
theorem nodup_put (s : Snapshot) {buckets : List Snapshot}
    (h : (buckets.map Snapshot.name).Nodup) : ((put s buckets).map Snapshot.name).Nodup := by
  induction buckets with
  | nil => simp [put]
  | cons first rest ih =>
    rw [List.map_cons, List.nodup_cons] at h
    unfold put
    split
    · next hname =>
      rw [List.map_cons, List.nodup_cons, ← hname]
      exact h
    · next hname =>
      rw [List.map_cons, List.nodup_cons]
      refine ⟨fun hmem => ?_, ih h.2⟩
      obtain ⟨t, ht, htname⟩ := List.mem_map.1 hmem
      rcases mem_put ht with rfl | ht
      · exact hname htname.symm
      · exact h.1 (List.mem_map.2 ⟨t, ht, htname⟩)

/-- What every store keeps that was empty once: no name twice, and a generation for each bucket. -/
structure WellFormed (m : MemoryStore) : Prop where
  nodup : (m.buckets.map Snapshot.name).Nodup
  generation : ∀ s ∈ m.buckets, s.metageneration ≠ none

variable {m : MemoryStore}

/-- Storing a snapshot with a generation keeps the store well-formed. -/
theorem WellFormed.put (h : m.WellFormed) {s : Snapshot} (hs : s.metageneration ≠ none)
    {after : MemoryStore} (hafter : after.buckets = MemoryStore.put s m.buckets) :
    after.WellFormed := by
  refine ⟨hafter ▸ nodup_put s h.nodup, fun t ht => ?_⟩
  rw [hafter] at ht
  rcases mem_put ht with rfl | ht
  · exact hs
  · exact h.generation t ht

end MemoryStore

namespace Performs

variable {arithmetic : Arithmetic} {m after : MemoryStore} {act : StoreAct} {event : StoreEvent}

/-- After an act, the store holds what the event files. -/
theorem bucket_eq (h : Performs arithmetic m act event after) :
    after.bucket = event.files m.bucket := by
  cases h with
  | seeded s => exact MemoryStore.find?_put s.seeded m.buckets
  | created | replaced => exact MemoryStore.find?_put _ m.buckets
  | deleted => exact MemoryStore.find?_filter _ m.buckets
  | found | absent | taken | missing | gone | brokenOff => rfl

/-- No act spoils a well-formed store. -/
theorem wellFormed (h : Performs arithmetic m act event after) (hm : m.WellFormed) :
    after.WellFormed := by
  cases h with
  | seeded s =>
    refine hm.put (s := s.seeded) ?_ rfl
    unfold Snapshot.seeded
    cases s.metageneration <;> simp
  | @created now desired => exact hm.put (s := desired.createdAt now) nofun rfl
  | @replaced now desired s => exact hm.put (s := desired.replacingAt s now) nofun rfl
  | deleted =>
    refine ⟨hm.nodup.sublist (List.filter_sublist.map _), fun s hs => ?_⟩
    exact hm.generation s (List.mem_filter.1 hs).1
  | found | absent | taken | missing | gone | brokenOff => exact ⟨hm.nodup, hm.generation⟩

/-- What an act adds to the counts. -/
theorem counts_eq (h : Performs arithmetic m act event after) :
    after.reads = m.reads + UInt64.ofNat ([event].countP StoreEvent.isReading) ∧
      after.mutations = m.mutations + UInt64.ofNat ([event].countP StoreEvent.isChange) := by
  have hreads : m.reads = m.reads + 0 := (UInt64.add_zero m.reads).symm
  have hmutations : m.mutations = m.mutations + 0 := (UInt64.add_zero m.mutations).symm
  cases h with
  | found | absent => exact ⟨rfl, hmutations⟩
  | created | replaced | deleted => exact ⟨hreads, rfl⟩
  | seeded | taken | missing | gone | brokenOff => exact ⟨hreads, hmutations⟩

/-- An act that fails leaves all entries and the count of changes. -/
theorem unchanged (h : Performs arithmetic m act event after) (hfails : event.isFailure = true) :
    after.buckets = m.buckets ∧ after.mutations = m.mutations := by
  cases h with
  | seeded | found | created | replaced | deleted => cases hfails
  | absent | taken | missing | gone | brokenOff => exact ⟨rfl, rfl⟩

/-- An act leaves what is filed under other names than the one it is about. -/
theorem bucket_of_ne (h : Performs arithmetic m act event after) {name : String}
    (hname : name ≠ act.bucket) :
    after.bucket name = m.bucket name := by
  rw [h.bucket_eq]
  cases h with
  | seeded | created | replaced | deleted => exact Function.update_of_ne hname _ _
  | found | absent | taken | missing | gone | brokenOff => rfl

end Performs

/-! ### All acts -/

namespace History

/-- What a history says of its store. -/
structure Kept (h : History) : Prop where
  bucket_eq : h.store.bucket = filed h.events
  wellFormed : h.store.WellFormed
  reads_eq : h.store.reads = UInt64.ofNat (h.events.countP StoreEvent.isReading)
  mutations_eq : h.store.mutations = UInt64.ofNat (h.events.countP StoreEvent.isChange)

/-- One more act keeps the invariants of a history. -/
theorem Kept.next {h : History} (hkept : h.Kept) (arithmetic : Arithmetic) (act : StoreAct) :
    (h.next arithmetic act).Kept := by
  have hperforms := h.store.performs arithmetic act
  unfold History.next
  generalize h.store.perform arithmetic act = done at hperforms ⊢
  obtain ⟨hreads, hmutations⟩ := hperforms.counts_eq
  refine ⟨?_, hperforms.wellFormed hkept.wellFormed, ?_, ?_⟩
  · unfold filed
    rw [List.foldl_concat, hperforms.bucket_eq, hkept.bucket_eq]
    rfl
  · rw [List.countP_append, UInt64.ofNat_add, ← hkept.reads_eq]
    exact hreads
  · rw [List.countP_append, UInt64.ofNat_add, ← hkept.mutations_eq]
    exact hmutations

end History

/-- How a store answers in which some snapshots are filed, and what the answers leave of it. -/
structure MemoryStore.Serves (arithmetic : Arithmetic) (m : MemoryStore)
    (filing : String → Option Snapshot) : Prop where
  get_eq : ∀ name, (m.get name).1 = (filing name).elim (.error (.notFound name)) .ok
  insert_iff : ∀ now desired,
    (∃ s, (m.insert now desired).1 = .ok s) ↔ filing desired.name = none
  update_iff : ∀ now desired,
    (∃ s after, m.answer? arithmetic now (.update desired) = some (.ok s, after)) ↔
      filing desired.name ≠ none ∧ ¬ Exhausts arithmetic filing desired.name
  delete_iff : ∀ name, (m.delete name).1 = .ok () ↔ filing name ≠ none
  /-- a call that is answered is answered as where sums wrap around -/
  answer_eq : ∀ now c answered, m.answer? arithmetic now c = some answered →
    answered = m.answer now c
  breaksOff_iff : ∀ now c, m.answer? arithmetic now c = none ↔
    ∃ desired, c = .update desired ∧ Exhausts arithmetic filing desired.name
  /-- what is stored is what was asked for, its generation and its times apart -/
  settings_eq : ∀ now desired s,
    (m.insert now desired).1 = .ok s ∨ (m.update now desired).1 = .ok s →
      s.settings = desired.settings
  others_stay : ∀ act name, name ≠ act.bucket →
    (m.perform arithmetic act).2.bucket name = m.bucket name
  failing_stays : ∀ act, (m.perform arithmetic act).1.isFailure = true →
    (m.perform arithmetic act).2.buckets = m.buckets ∧
      (m.perform arithmetic act).2.mutations = m.mutations

/-- An update succeeds exactly when the bucket exists. -/
theorem MemoryStore.update_iff (m : MemoryStore) (now : Timestamp) (desired : Snapshot) :
    (∃ s, (m.update now desired).1 = .ok s) ↔ m.bucket desired.name ≠ none := by
  unfold update
  cases m.bucket desired.name <;> simp

/-- The store serves every call as the map of its buckets does. -/
theorem MemoryStore.serves_bucket (arithmetic : Arithmetic) (m : MemoryStore) :
    m.Serves arithmetic m.bucket where
  get_eq name := by
    have hbucket : (MemoryStore.mk m.buckets (m.reads + 1) m.mutations).bucket name =
        m.bucket name := rfl
    unfold get
    dsimp only
    rw [hbucket]
    cases m.bucket name <;> rfl
  insert_iff now desired := by
    unfold insert
    cases m.bucket desired.name <;> simp
  update_iff now desired := by
    rw [← m.update_iff now desired]
    constructor
    · rintro ⟨s, after, h⟩
      have hanswered : m.answer? arithmetic now (.update desired) ≠ none := by
        rw [h]
        exact nofun
      have hanswer := Option.some.inj (h.symm.trans (answer_of_answer? hanswered))
      exact ⟨⟨s, congrArg Prod.fst hanswer.symm⟩,
        fun hexhausts => hanswered (answer?_eq_none_iff.2 ⟨desired, rfl, hexhausts⟩)⟩
    · rintro ⟨⟨s, hs⟩, hroom⟩
      refine ⟨s, (m.update now desired).2, ?_⟩
      rw [answer_of_answer?, ← hs]
      · rfl
      · intro hnone
        obtain ⟨_, ⟨⟩, hexhausts⟩ := answer?_eq_none_iff.1 hnone
        exact hroom hexhausts
  delete_iff name := by
    unfold delete
    cases m.bucket name <;> simp
  answer_eq now c answered h := by
    refine Option.some.inj (h.symm.trans (answer_of_answer? ?_))
    rw [h]
    exact nofun
  breaksOff_iff _ _ := answer?_eq_none_iff
  settings_eq now desired s := by
    unfold insert update
    cases m.bucket desired.name with
    | none =>
      rintro (⟨⟨⟩⟩ | ⟨⟨⟩⟩)
      rfl
    | some t =>
      rintro (⟨⟨⟩⟩ | ⟨⟨⟩⟩)
      rfl
  others_stay act _ h := (m.performs arithmetic act).bucket_of_ne h
  failing_stays act h := (m.performs arithmetic act).unchanged h

end BucketLifecycle
