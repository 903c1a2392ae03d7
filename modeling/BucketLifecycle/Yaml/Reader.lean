import BucketLifecycle.Document.Datum
import BucketLifecycle.Yaml.Node

/-!
# Reading YAML documents

A text holds one document or none; one without a document says as much as an empty table.  Keys are
single values and count by their text, so that two different keys may come to mean the same.
-/

set_option autoImplicit false

namespace BucketLifecycle.Yaml

/-- The text of a single value as a key. -/
def Node.keyText? : Node → Option String
  | .text s => some s
  | .integer n => some (String.ofList (Text.writeInt n.toInt))
  | .boolean b => some (if b then "true" else "false")
  | .real s => some s
  | _ => none

/-- Whether two single values are the same key. -/
def Node.sameKey : Node → Node → Bool
  | .text s, .text t => s == t
  | .integer m, .integer n => m == n
  | .boolean a, .boolean b => a == b
  | .real s, .real t => s == t
  | _, _ => false

/-- The entries that no later one with the same key replaces. -/
def lastEntries {α : Type} : List (Node × α) → List (Node × α)
  | [] => []
  | (key, v) :: rest =>
    if rest.any fun e => e.1.sameKey key then lastEntries rest else (key, v) :: lastEntries rest

/-- The members of entries: each key has a text, and each value is plain data. -/
def members? (es : List (Node × Option Datum)) : Option (List (String × Datum)) :=
  es.mapM fun (key, v) => do return (← key.keyText?, ← v)

mutual

/-- A value as plain data.  A number with a fraction must have a value, which the words for infinity
have not. -/
def Node.datum? : Node → Option Datum
  | .null => some .null
  | .boolean b => some (.boolean b)
  | .integer n => some (.integer n)
  | .real s => (Decimal.readFloat s.toList).map .floating
  | .text s => some (.text s)
  | .unfit => some .null
  | .list items => (itemData? items).map .list
  | .table es => (members? (lastEntries (entryData es))).map Datum.ofMembers

def itemData? : List Node → Option (List Datum)
  | [] => some []
  | v :: rest => do
    let v ← v.datum?
    return v :: (← itemData? rest)

/-- The values of entries as plain data, where they have some. -/
def entryData : List (Node × Node) → List (Node × Option Datum)
  | [] => []
  | (key, v) :: rest => (key, v.datum?) :: entryData rest

end

/-- What the document of a text says. -/
def read (cs : List Char) : Option Datum := do
  match ← documentNode (← tokens cs) with
  | none => return .table []
  | some v => v.datum?

end BucketLifecycle.Yaml
