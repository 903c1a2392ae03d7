import BucketLifecycle.Text.Decimal

/-!
# TOML documents

A document is a table.  Each table knows how it came about, and that decides who may still add to
it: a table between braces is closed; one that a header names takes further headers below it; one
that a longer header or a dotted key calls into being is open for more of the same. `modifyAt` walks
down a path of keys under these rules, and every statement of a document is one such walk.
-/

set_option autoImplicit false

namespace BucketLifecycle.Toml

/-- How a table came about. -/
inductive TableKind where
  /-- between braces -/
  | closed
  /-- by its own header, or as an item of an array of tables -/
  | defined
  /-- as a step in a longer header -/
  | implied
  /-- as a step in a dotted key -/
  | dotted
  deriving DecidableEq, Repr

/-- A value of a document.  A date or a time is kept as its text. -/
inductive Value where
  | string (s : String)
  | integer (n : Int64)
  | floating (x : Float)
  | boolean (b : Bool)
  | moment (text : String)
  | array (items : List Value)
  /-- the tables under a doubled header, in order -/
  | tables (items : List (List (String × Value)))
  | table (kind : TableKind) (members : List (String × Value))

/-- The members of a table in the order in which they were added. -/
abbrev Members := List (String × Value)

/-- Gives a member that exists another value. -/
def Members.replace (ms : Members) (key : String) (v : Value) : Members :=
  ms.map fun m => if m.1 = key then (key, v) else m

/-- Changes the table at the end of a path. `dotted` says that a dotted key is walked along and not
a header; a dotted key enters no table with a header of its own, and nothing enters a closed one. -/
def modifyAt (dotted : Bool) (change : TableKind → Members → Option Members) :
    (path : List String) → TableKind → Members → Option Members
  | [], kind, ms => change kind ms
  | key :: path, _, ms =>
    match ms.lookup key with
    | none => do
      let kind := if dotted then TableKind.dotted else .implied
      let sub ← modifyAt dotted change path kind []
      return ms ++ [(key, .table kind sub)]
    | some (.table kind sub) => do
      if kind = .closed ∨ (dotted ∧ kind = .defined) then none
      let sub ← modifyAt dotted change path kind sub
      return ms.replace key (.table kind sub)
    | some (.tables items) => do
      let sub ← modifyAt dotted change path .defined (← items.getLast?)
      return ms.replace key (.tables (items.dropLast ++ [sub]))
    | some _ => none

/-- Adds a value under a dotted key.  A key is given once, and a key with steps ends in a table made
by such keys. -/
def assign (path : List String) (key : String) (v : Value) (kind : TableKind) (ms : Members) :
    Option Members :=
  modifyAt true (fun kind ms =>
    if (kind = .dotted) = (path = []) ∨ (ms.lookup key).isSome then none
    else some (ms ++ [(key, v)])) path kind ms

/-- Defines a table by a header. -/
def define (key : String) (_ : TableKind) (ms : Members) : Option Members :=
  match ms.lookup key with
  | none => some (ms ++ [(key, .table .defined [])])
  | some (.table .implied sub) => some (ms.replace key (.table .defined sub))
  | some _ => none

/-- Adds a table to an array of tables. -/
def defineItem (key : String) (_ : TableKind) (ms : Members) : Option Members :=
  match ms.lookup key with
  | none => some (ms ++ [(key, .tables [[]])])
  | some (.tables items) => some (ms.replace key (.tables (items ++ [[]])))
  | some _ => none

/-- One statement of a document; a dotted key is given as its steps and its last part. -/
inductive Statement where
  | assign (path : List String) (key : String) (value : Value)
  /-- a header between brackets -/
  | header (path : List String) (key : String)
  /-- a header between doubled brackets -/
  | itemHeader (path : List String) (key : String)

/-- A document that is being built: its members, and the path of the last header. -/
structure Draft where
  root : Members
  current : List String

def Draft.add (d : Draft) : Statement → Option Draft
  | .assign path key value => do
    let root ← modifyAt false (Toml.assign path key value) d.current .defined d.root
    return { d with root }
  | .header path key => do
    return ⟨← modifyAt false (define key) path .defined d.root, path ++ [key]⟩
  | .itemHeader path key => do
    return ⟨← modifyAt false (defineItem key) path .defined d.root, path ++ [key]⟩

/-- The members of the document that the statements make. -/
def Members.ofStatements (ss : List Statement) : Option Members :=
  (ss.foldlM Draft.add ⟨[], []⟩).map Draft.root

end BucketLifecycle.Toml
