import BucketLifecycle.Reconcile

/-!
# The in-memory store

A store that keeps buckets by their names, gives each change of a bucket's metadata the next
generation, and takes the times of creation and change from a clock.  It counts the readings,
failed ones included, and the changes that succeeded, both in words of 64 bits that wrap around.

There is no generation behind the largest.  What becomes of a change that asks for it depends on how
the program is built (`Arithmetic`): the sum wraps around, or the call breaks off without an answer.
-/

set_option autoImplicit false

namespace BucketLifecycle

/-- Buckets in the order in which they came, each name once. -/
structure MemoryStore where
  buckets : List Snapshot
  reads : UInt64
  mutations : UInt64
  deriving DecidableEq

/-- What becomes of a sum that is beyond its word. -/
inductive Arithmetic where
  /-- It wraps around. -/
  | wrapping
  /-- The call that asks for it breaks off. -/
  | checked
  deriving DecidableEq, Repr

namespace MemoryStore

def empty : MemoryStore := ⟨[], 0, 0⟩

def find? (name : String) (buckets : List Snapshot) : Option Snapshot :=
  buckets.find? fun s => s.name == name

/-- Files a bucket under its name, in place of the one that has it. -/
def put (s : Snapshot) : List Snapshot → List Snapshot
  | [] => [s]
  | t :: rest => if t.name = s.name then s :: rest else t :: put s rest

/-- The bucket with a name, without counting a reading. -/
def bucket (m : MemoryStore) (name : String) : Option Snapshot :=
  find? name m.buckets

def size (m : MemoryStore) : Nat :=
  m.buckets.length

/-- Adds a bucket without counting a change; its generation is 1 unless it has one. -/
def seed (m : MemoryStore) (s : Snapshot) : MemoryStore :=
  { m with buckets := put { s with metageneration := s.metageneration.or (some 1) } m.buckets }

def get (m : MemoryStore) (name : String) : Except StoreError Snapshot × MemoryStore :=
  let m := { m with reads := m.reads + 1 }
  match m.bucket name with
  | some s => (.ok s, m)
  | none => (.error (.notFound name), m)

/-- Files a changed bucket and counts the change. -/
def commit (m : MemoryStore) (s : Snapshot) : MemoryStore :=
  { m with buckets := put s m.buckets, mutations := m.mutations + 1 }

/-- Creates a bucket, in the first generation of its metadata. -/
def insert (m : MemoryStore) (now : Timestamp) (desired : Snapshot) :
    Except StoreError Snapshot × MemoryStore :=
  match m.bucket desired.name with
  | some _ => (.error (.conflict ("bucket " ++ desired.name ++ " already exists")), m)
  | none =>
    let created :=
      { desired with metageneration := some 1, timeCreated := some now, updated := some now }
    (.ok created, m.commit created)

/-- Replaces the metadata of a bucket: the next generation, with the time of creation kept.  The
largest generation is followed by the smallest. -/
def update (m : MemoryStore) (now : Timestamp) (desired : Snapshot) :
    Except StoreError Snapshot × MemoryStore :=
  match m.bucket desired.name with
  | none => (.error (.notFound desired.name), m)
  | some current =>
    let updated :=
      { desired with
        metageneration := some (current.metageneration.getD 0 + 1)
        timeCreated := current.timeCreated
        updated := some now }
    (.ok updated, m.commit updated)

def delete (m : MemoryStore) (name : String) : Except StoreError Unit × MemoryStore :=
  match m.bucket name with
  | none => (.error (.notFound name), m)
  | some _ =>
    (.ok (), { m with
      buckets := m.buckets.filter fun s => s.name != name
      mutations := m.mutations + 1 })

/-- The answer to a call where sums wrap around. -/
def answer (m : MemoryStore) (now : Timestamp) :
    BucketCall → Except StoreError Snapshot × MemoryStore
  | .get name => m.get name
  | .insert desired => m.insert now desired
  | .update desired => m.update now desired

/-- Whether a call asks for a generation beyond the largest. -/
def overflows (m : MemoryStore) : BucketCall → Bool
  | .update desired =>
    (m.bucket desired.name).any fun current => current.metageneration == some Int64.maxValue
  | _ => false

/-- The answer to a call, if there is one.  A call that breaks off has changed nothing by then. -/
def answer? (m : MemoryStore) (arithmetic : Arithmetic) (now : Timestamp) (c : BucketCall) :
    Option (Except StoreError Snapshot × MemoryStore) :=
  match arithmetic with
  | .wrapping => some (m.answer now c)
  | .checked => if m.overflows c then none else some (m.answer now c)

/-- Answers calls at once, with times taken from a clock, where sums wrap around. -/
def handler (clock : Instant → Timestamp) :
    Handler MemoryStore BucketCall (Except StoreError Snapshot) := fun at_ c m =>
  let (answer, m) := m.answer (clock at_) c
  ⟨answer, Duration.zero, m⟩

end MemoryStore

end BucketLifecycle
