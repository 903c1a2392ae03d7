/-!
# Plain data

What a document says, whichever format it is written in: single values, lists, and tables of
members under their keys.  Where a key is given more than once in one table, its last member counts,
and `lastMembers` keeps those.
-/

set_option autoImplicit false

namespace BucketLifecycle

/-- A value of a document. -/
inductive Datum where
  | null
  | boolean (b : Bool)
  | integer (n : Int64)
  | floating (x : Float)
  | text (s : String)
  | list (items : List Datum)
  | table (members : List (String × Datum))

/-- The members that no later one under the same key replaces. -/
def lastMembers {α : Type} : List (String × α) → List (String × α)
  | [] => []
  | (key, v) :: rest =>
    if rest.any fun m => m.1 = key then lastMembers rest else (key, v) :: lastMembers rest

def Datum.ofMembers (ms : List (String × Datum)) : Datum :=
  .table (lastMembers ms)

end BucketLifecycle
