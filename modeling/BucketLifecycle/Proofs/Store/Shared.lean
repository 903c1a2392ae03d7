import BucketLifecycle.Proofs.Reconcile.Course
import BucketLifecycle.Proofs.Store.Memory

/-!
# An in-memory store that others use too

Before each call that is made to it, an `Environment` does any number of deeds on a shared store:
calls of its own on any bucket, with any metadata, and deletions.  It sees everything there is to
see. `exists_answer` says what is left to rely on when it spares a bucket: the call is answered by
some store, in which that bucket is still there if it was there before.
-/

set_option autoImplicit false

namespace BucketLifecycle

variable {τ : Type}

/-- What others do to a store. -/
inductive Deed where
  | call (time : Timestamp) (c : BucketCall)
  | delete (name : String)

def Deed.perform (m : MemoryStore) : Deed → MemoryStore
  | .call time c => (m.answer time c).2
  | .delete name => (m.delete name).2

/-- What others do before a call, and what they decide on the call itself. -/
structure Interlude (τ : Type) where
  deeds : List Deed
  /-- the time of the store's clock at the call -/
  time : Timestamp
  /-- how long the caller waits for the answer -/
  delay : Duration
  /-- what the environment remembers from now on -/
  memory : τ

/-- Decides on the deeds before each call from what it remembers, the time, the call and the store.
-/
abbrev Environment (τ : Type) := τ → Instant → BucketCall → MemoryStore → Interlude τ

/-- The environment never deletes the bucket. -/
def Environment.Spares (env : Environment τ) (bucket : String) : Prop :=
  ∀ memory now c m, Deed.delete bucket ∉ (env memory now c m).deeds

/-- A store with the memory of its environment. -/
structure SharedStore (τ : Type) where
  store : MemoryStore
  memory : τ

/-- Answers each call after the deeds of the environment. -/
def SharedStore.handler (env : Environment τ) : StoreHandler (SharedStore τ) := fun now c x =>
  let interlude := env x.memory now c x.store
  let met := interlude.deeds.foldl Deed.perform x.store
  let (answer, store) := met.answer interlude.time c
  ⟨answer, interlude.delay, ⟨store, interlude.memory⟩⟩

/-- A bucket outlasts every deed but its own deletion. -/
theorem Deed.present_perform {bucket : String} {m : MemoryStore} {deed : Deed}
    (hspared : deed ≠ .delete bucket) (h : m.bucket bucket ≠ none) :
    (deed.perform m).bucket bucket ≠ none := by
  cases deed with
  | call time c => exact MemoryStore.present_answer h time c
  | delete name =>
    have hne : bucket ≠ name := by
      rintro rfl
      exact hspared rfl
    show (m.delete name).2.bucket bucket ≠ none
    rw [m.bucket_delete_of_ne hne]
    exact h

/-- A bucket that is spared by each of some deeds is still there after all of them. -/
theorem Deed.present_foldl {bucket : String} {deeds : List Deed} {m : MemoryStore}
    (hspared : Deed.delete bucket ∉ deeds) (h : m.bucket bucket ≠ none) :
    (deeds.foldl Deed.perform m).bucket bucket ≠ none := by
  induction deeds generalizing m with
  | nil => exact h
  | cons deed deeds ih =>
    rw [List.mem_cons, not_or] at hspared
    exact ih hspared.2 (Deed.present_perform (Ne.symm hspared.1) h)

/-- Whatever others do, a call is answered by a store which has a bucket that they spare. -/
theorem SharedStore.exists_answer {env : Environment τ} {bucket : String}
    (henv : env.Spares bucket) (now : Instant) (c : BucketCall) (x : SharedStore τ) :
    ∃ (met : MemoryStore) (time : Timestamp),
      (x.store.bucket bucket ≠ none → met.bucket bucket ≠ none) ∧
      (handler env now c x).answer = (met.answer time c).1 ∧
      (handler env now c x).state.store = (met.answer time c).2 :=
  ⟨(env x.memory now c x.store).deeds.foldl Deed.perform x.store,
    (env x.memory now c x.store).time,
    fun h => Deed.present_foldl (henv x.memory now c x.store) h, rfl, rfl⟩

end BucketLifecycle
