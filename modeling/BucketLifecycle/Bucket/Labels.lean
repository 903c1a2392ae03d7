/-!
# Labels

The labels of a bucket are keys with values, in increasing order of the keys and each key once.
Since that order is part of the type, two sets of labels are equal exactly when they hold the same
entries.
-/

set_option autoImplicit false

namespace BucketLifecycle

/-- Entries in increasing order of their keys. -/
def KeySorted (entries : List (String × String)) : Prop :=
  entries.Pairwise fun a b => a.1 < b.1

/-- Labels of a bucket. -/
structure Labels where
  entries : List (String × String)
  sorted : KeySorted entries
  deriving DecidableEq

namespace Labels

instance : Repr Labels where
  reprPrec labels n := reprPrec labels.entries n

def empty : Labels := ⟨[], List.Pairwise.nil⟩

def isEmpty (labels : Labels) : Bool :=
  labels.entries.isEmpty

/-- Puts an entry at its place, in place of one with the same key. -/
def insertEntry (key value : String) : List (String × String) → List (String × String)
  | [] => [(key, value)]
  | (k, v) :: rest =>
    if key < k then (key, value) :: (k, v) :: rest
    else if key = k then (key, value) :: rest
    else (k, v) :: insertEntry key value rest

/-- An entry of the longer list has the new key, or has been there before. -/
theorem fst_of_mem_insertEntry {key value : String} {entries : List (String × String)}
    {entry : String × String} (h : entry ∈ insertEntry key value entries) :
    entry.1 = key ∨ entry ∈ entries := by
  induction entries with
  | nil =>
    simp only [insertEntry, List.mem_singleton] at h
    exact .inl (by rw [h])
  | cons e rest ih =>
    obtain ⟨k, v⟩ := e
    simp only [insertEntry] at h
    split at h
    · rcases List.mem_cons.1 h with rfl | h
      · exact .inl rfl
      · exact .inr h
    · split at h
      · rcases List.mem_cons.1 h with rfl | h
        · exact .inl rfl
        · exact .inr (List.mem_cons_of_mem _ h)
      · rcases List.mem_cons.1 h with rfl | h
        · exact .inr (List.mem_cons_self ..)
        · exact (ih h).imp_right (List.mem_cons_of_mem _)

/-- A new entry goes where it keeps the keys in order. -/
theorem keySorted_insertEntry (key value : String) {entries : List (String × String)}
    (h : KeySorted entries) : KeySorted (insertEntry key value entries) := by
  induction entries with
  | nil => exact List.pairwise_singleton _ _
  | cons e rest ih =>
    obtain ⟨k, v⟩ := e
    have hrest := List.pairwise_cons.1 h
    simp only [insertEntry]
    split
    · next hlt =>
      refine List.pairwise_cons.2 ⟨fun entry hentry => ?_, h⟩
      rcases List.mem_cons.1 hentry with rfl | hentry
      · exact hlt
      · exact String.lt_trans hlt (hrest.1 entry hentry)
    · next hnlt =>
      split
      · next heq =>
        subst heq
        exact List.pairwise_cons.2 ⟨hrest.1, hrest.2⟩
      · next hne =>
        refine List.pairwise_cons.2 ⟨fun entry hentry => ?_, ih hrest.2⟩
        rcases fst_of_mem_insertEntry hentry with heq | hentry
        · rw [heq]
          refine Decidable.byContradiction fun hge => hne ?_
          exact String.le_antisymm (String.not_lt.1 hge) (String.not_lt.1 hnlt)
        · exact hrest.1 entry hentry

/-- Adds a label or replaces the one with the same key. -/
def insert (labels : Labels) (key value : String) : Labels :=
  ⟨insertEntry key value labels.entries, keySorted_insertEntry key value labels.sorted⟩

/-- The labels with the given keys and values; of two with one key the later stays. -/
def ofList (entries : List (String × String)) : Labels :=
  entries.foldl (fun labels entry => labels.insert entry.1 entry.2) empty

def get? (labels : Labels) (key : String) : Option String :=
  (labels.entries.find? fun entry => entry.1 == key).map Prod.snd

end Labels

end BucketLifecycle
