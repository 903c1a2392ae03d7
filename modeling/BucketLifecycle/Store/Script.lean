import BucketLifecycle.Reconcile

/-!
# Scripted stores

A script is a list of answers, each with the time that it takes, given one by one whatever is asked.
A scripted store has one script for each call on a bucket; a script that has run out lets a change
succeed as it was asked for and refuses a reading.
-/

set_option autoImplicit false

namespace BucketLifecycle

/-- An answer with the time that it takes. -/
structure Scripted (α : Type) where
  answer : Except StoreError α
  delay : Duration

/-- Answers any call with the next entry, and with `default` after the last. -/
def scriptHandler {ι α : Type} (default : α) :
    Handler (List (Scripted α)) ι (Except StoreError α) := fun _ _ script =>
  match script with
  | [] => ⟨.ok default, Duration.zero, []⟩
  | entry :: rest => ⟨entry.answer, entry.delay, rest⟩

/-- The scripts of a store.  An answer without a snapshot gives back what was asked for. -/
structure ScriptedStore where
  gets : List (Scripted (Option Snapshot))
  inserts : List (Scripted (Option Snapshot))
  updates : List (Scripted (Option Snapshot))

namespace ScriptedStore

/-- The next entry of a script as a reply, where `echo` is what was asked for and `end_` answers
after the last entry. -/
def next (script : List (Scripted (Option Snapshot))) (echo : Snapshot)
    (end_ : Except StoreError Snapshot)
    (store : List (Scripted (Option Snapshot)) → ScriptedStore) :
    Reply ScriptedStore (Except StoreError Snapshot) :=
  match script with
  | [] => ⟨end_, Duration.zero, store []⟩
  | entry :: rest => ⟨entry.answer.map fun s => s.getD echo, entry.delay, store rest⟩

def handler : Handler ScriptedStore BucketCall (Except StoreError Snapshot) := fun _ c s =>
  match c with
  | .get name =>
    next s.gets (.named name) (.error (.invalidRequest ("unscripted get of " ++ name)))
      fun gets => { s with gets }
  | .insert desired => next s.inserts desired (.ok desired) fun inserts => { s with inserts }
  | .update desired => next s.updates desired (.ok desired) fun updates => { s with updates }

end ScriptedStore

end BucketLifecycle
