import BucketLifecycle.Proofs.Run.Separation
import BucketLifecycle.Proofs.Store.Memory
import Mathlib.Data.UInt

/-!
# The in-memory store as separate cells

Beside its two counts, the in-memory store is a cell for each name, and a call is about the cell of
one bucket. `BucketCall.serve` gives the answer to a call and what it leaves in the cell from what
it finds there, and `MemoryStore.answer_eq_serve` says that the store does just that.  So the store
separates the calls on different buckets (`MemoryStore.separation`).
-/

set_option autoImplicit false

namespace BucketLifecycle

/-- What is stored when a bucket is created. -/
def Snapshot.createdAt (desired : Snapshot) (now : Timestamp) : Snapshot :=
  { desired with metageneration := some 1, timeCreated := some now, updated := some now }

/-- What is stored when the metadata of a bucket are replaced. -/
def Snapshot.replacingAt (desired current : Snapshot) (now : Timestamp) : Snapshot :=
  { desired with
    metageneration := some (current.metageneration.getD 0 + 1)
    timeCreated := current.timeCreated
    updated := some now }

namespace BucketCall

/-- The bucket that a call is about. -/
def bucket : BucketCall → String
  | .get name => name
  | .insert desired => desired.name
  | .update desired => desired.name

/-- The answer to a call and what is stored then, from what is stored before. -/
def serve (now : Timestamp) (entry : Option Snapshot) :
    BucketCall → Except StoreError Snapshot × Option Snapshot
  | .get name =>
    match entry with
    | some s => (.ok s, some s)
    | none => (.error (.notFound name), none)
  | .insert desired =>
    match entry with
    | some s => (.error (.conflict ("bucket " ++ desired.name ++ " already exists")), some s)
    | none => (.ok (desired.createdAt now), some (desired.createdAt now))
  | .update desired =>
    match entry with
    | some s => (.ok (desired.replacingAt s now), some (desired.replacingAt s now))
    | none => (.error (.notFound desired.name), none)

/-- Nothing that the store answers is a transient failure. -/
theorem isTransient_of_serve {now : Timestamp} {entry : Option Snapshot} {c : BucketCall}
    {e : StoreError} (h : (c.serve now entry).1 = .error e) : e.isTransient = false := by
  cases c <;> cases entry <;> cases h <;> rfl

/-- How many readings a call is. -/
def readings : BucketCall → Option Snapshot → UInt64
  | .get _, _ => 1
  | .insert _, _ => 0
  | .update _, _ => 0

/-- How many changes a call makes. -/
def changes : BucketCall → Option Snapshot → UInt64
  | .get _, _ => 0
  | .insert _, entry => if entry.isSome then 0 else 1
  | .update _, entry => if entry.isSome then 1 else 0

end BucketCall

namespace MemoryStore

variable {m : MemoryStore}

/-- The store serves a call from the cell of its bucket. -/
theorem answer_eq_serve (m : MemoryStore) (now : Timestamp) (c : BucketCall) :
    (m.answer now c).1 = (c.serve now (m.bucket c.bucket)).1 ∧
      (m.answer now c).2.bucket c.bucket = (c.serve now (m.bucket c.bucket)).2 := by
  cases c with
  | get name =>
    rw [state_answer_get]
    show (m.get name).1 = _ ∧ m.bucket name = _
    unfold get BucketCall.serve BucketCall.bucket
    dsimp only
    have hbucket : (MemoryStore.mk m.buckets (m.reads + 1) m.mutations).bucket name =
        m.bucket name := rfl
    rw [hbucket]
    cases m.bucket name <;> exact ⟨rfl, rfl⟩
  | insert desired =>
    show (m.insert now desired).1 = _ ∧ (m.insert now desired).2.bucket desired.name = _
    unfold insert BucketCall.serve BucketCall.bucket
    dsimp only
    cases hbucket : m.bucket desired.name with
    | some s => exact ⟨rfl, hbucket⟩
    | none => exact ⟨rfl, bucket_commit_self m (desired.createdAt now)⟩
  | update desired =>
    show (m.update now desired).1 = _ ∧ (m.update now desired).2.bucket desired.name = _
    unfold update BucketCall.serve BucketCall.bucket
    dsimp only
    cases hbucket : m.bucket desired.name with
    | none => exact ⟨rfl, hbucket⟩
    | some s => exact ⟨rfl, bucket_commit_self m (desired.replacingAt s now)⟩

/-- A call leaves the cells of all other buckets. -/
theorem bucket_answer_of_ne (m : MemoryStore) (now : Timestamp) {c : BucketCall} {name : String}
    (h : name ≠ c.bucket) : (m.answer now c).2.bucket name = m.bucket name := by
  cases c with
  | get other => rw [state_answer_get]; rfl
  | insert desired =>
    show (m.insert now desired).2.bucket name = m.bucket name
    unfold insert
    cases m.bucket desired.name with
    | some s => rfl
    | none => exact bucket_commit_of_ne m h
  | update desired =>
    show (m.update now desired).2.bucket name = m.bucket name
    unfold update
    cases m.bucket desired.name with
    | some s => exact bucket_commit_of_ne m h
    | none => rfl

/-- What a call adds to the counts. -/
theorem counts_answer (m : MemoryStore) (now : Timestamp) (c : BucketCall) :
    (m.answer now c).2.reads = m.reads + c.readings (m.bucket c.bucket) ∧
      (m.answer now c).2.mutations = m.mutations + c.changes (m.bucket c.bucket) := by
  have hreads : m.reads + 0 = m.reads := UInt64.add_zero m.reads
  have hmutations : m.mutations + 0 = m.mutations := UInt64.add_zero m.mutations
  cases c with
  | get name =>
    rw [state_answer_get]
    exact ⟨rfl, hmutations.symm⟩
  | insert desired =>
    show (m.insert now desired).2.reads = _ ∧ (m.insert now desired).2.mutations = _
    unfold insert BucketCall.readings BucketCall.changes BucketCall.bucket
    dsimp only
    cases m.bucket desired.name with
    | some s => exact ⟨hreads.symm, hmutations.symm⟩
    | none => exact ⟨hreads.symm, rfl⟩
  | update desired =>
    show (m.update now desired).2.reads = _ ∧ (m.update now desired).2.mutations = _
    unfold update BucketCall.readings BucketCall.changes BucketCall.bucket
    dsimp only
    cases m.bucket desired.name with
    | some s => exact ⟨hreads.symm, rfl⟩
    | none => exact ⟨hreads.symm, hmutations.symm⟩

/-- The buckets of the store are cells that a call reads and writes one at a time. -/
theorem separation (clock : Instant → Timestamp) :
    Separation (handler clock) BucketCall.bucket bucket where
  answer_eq now c s t h := by
    have hs := (s.answer_eq_serve (clock now) c).1
    have ht := (t.answer_eq_serve (clock now) c).1
    rw [h] at hs
    exact hs.trans ht.symm
  view_eq now c s t h := by
    have hs := (s.answer_eq_serve (clock now) c).2
    have ht := (t.answer_eq_serve (clock now) c).2
    rw [h] at hs
    exact hs.trans ht.symm
  view_of_ne now c s _ h := s.bucket_answer_of_ne (clock now) h

/-- The read counter goes up by the readings of the calls. -/
theorem tallies_reads (clock : Instant → Timestamp) :
    Tallies (handler clock) BucketCall.bucket bucket reads BucketCall.readings :=
  fun now c m => (m.counts_answer (clock now) c).1

/-- The counter of mutations goes up by the changes of the calls. -/
theorem tallies_mutations (clock : Instant → Timestamp) :
    Tallies (handler clock) BucketCall.bucket bucket mutations BucketCall.changes :=
  fun now c m => (m.counts_answer (clock now) c).2

end MemoryStore

end BucketLifecycle
