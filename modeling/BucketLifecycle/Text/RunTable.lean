/-!
# Tables of code points

A table says something about code points, one run of neighbours after another in increasing order.
`RunTable.ofText` reads it from a text that gives for each run its first code point, a hyphen and
its last one where the run has more than one, and behind a colon the numbers that belong to it, with
periods between them.  All numbers are hexadecimal; blanks and line ends part the runs.
-/

set_option autoImplicit false

namespace BucketLifecycle.Text

/-- Looks a number up among runs from `lo` up to but not including `hi`, halving the span at each
step. -/
def findRun? {α : Type} (bounds : α → Nat × Nat) (runs : Array α) (n : Nat) :
    (fuel lo hi : Nat) → Option α
  | 0, _, _ => none
  | fuel + 1, lo, hi =>
    if lo < hi then
      let mid := (lo + hi) / 2
      match runs[mid]? with
      | none => none
      | some run =>
        if n < (bounds run).1 then findRun? bounds runs n fuel lo mid
        else if (bounds run).2 < n then findRun? bounds runs n fuel (mid + 1) hi
        else some run
    else none

/-- So many halvings exhaust any table of code points. -/
def searchDepth : Nat := 21

/-- Neighbouring code points with what a table says about them. -/
structure Run where
  first : Nat
  last : Nat
  values : List Nat
  deriving DecidableEq, Repr

/-- A table of code points. -/
structure RunTable where
  runs : Array Run
  deriving DecidableEq, Repr

namespace RunTable

/-- Where the reader of a table stands: the runs read so far, the bounds of the next one and, behind
its colon, its values, both with the later number first, and the number that is being read. -/
structure Draft where
  runs : Array Run
  bounds : List Nat
  values : Option (List Nat)
  number : Option Nat

/-- The number that was being read is complete. -/
def Draft.closeNumber (d : Draft) : Draft :=
  match d.values with
  | none => { d with bounds := d.number.toList ++ d.bounds, number := none }
  | some vs => { d with values := some (d.number.toList ++ vs), number := none }

/-- The run that was being read, if there was one, is complete. -/
def Draft.closeRun (d : Draft) : Draft :=
  let d := d.closeNumber
  let values := (d.values.getD []).reverse
  match d.bounds with
  | [last, first] => ⟨d.runs.push ⟨first, last, values⟩, [], none, none⟩
  | [first] => ⟨d.runs.push ⟨first, first, values⟩, [], none, none⟩
  | _ => ⟨d.runs, [], none, none⟩

def Draft.add (d : Draft) (c : Char) : Draft :=
  if c = ' ' ∨ c = '\n' then d.closeRun
  else if c = '-' ∨ c = '.' then d.closeNumber
  else if c = ':' then { d.closeNumber with values := some [] }
  else
    let digit := if c.isDigit then c.toNat - '0'.toNat else c.toNat - 'A'.toNat + 10
    { d with number := some (16 * d.number.getD 0 + digit) }

/-- The table that a text spells. -/
def ofText (s : String) : RunTable :=
  ⟨(s.toList.foldl Draft.add ⟨#[], [], none, none⟩).closeRun.runs⟩

/-- The run of a character, if it has one. -/
def find? (t : RunTable) (c : Char) : Option Run :=
  findRun? (fun run => (run.first, run.last)) t.runs c.toNat searchDepth 0 t.runs.size

/-- Whether a character has a run. -/
def contains (t : RunTable) (c : Char) : Bool :=
  (t.find? c).isSome

/-- The value of the run of a character, for a table with one value for each run. -/
def value? (t : RunTable) (c : Char) : Option Nat :=
  (t.find? c).bind fun run => run.values.head?

end RunTable

end BucketLifecycle.Text
