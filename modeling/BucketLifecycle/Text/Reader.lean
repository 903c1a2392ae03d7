/-!
# Reading from the front of a text

A reader takes what it reads from the front of a text and gives back the rest; it gives nothing
where the text leaves the grammar.
-/

set_option autoImplicit false

namespace BucketLifecycle.Text

/-- A reader of something at the front of a text. -/
abbrev Reader (α : Type) := List Char → Option (α × List Char)

/-- The text behind one expected character. -/
def expect (c : Char) : List Char → Option (List Char)
  | d :: rest => if d = c then some rest else none
  | [] => none

/-- The longest run of characters of a kind, with the text behind it. -/
def splitRun (kind : Char → Bool) (cs : List Char) : List Char × List Char :=
  (cs.takeWhile kind, cs.dropWhile kind)

/-- Items up to a closing character, with a comma between neighbours and perhaps one behind the
last; `skip` drops what may stand around each, and `fuel` bounds their number. -/
def commaSeparated {α : Type} (skip : List Char → List Char) (item : Reader α) (close : Char) :
    (fuel : Nat) → Reader (List α)
  | 0, _ => none
  | fuel + 1, cs =>
    match skip cs with
    | [] => none
    | c :: rest =>
      if c = close then some ([], rest)
      else do
        let (x, rest) ← item (c :: rest)
        match skip rest with
        | [] => none
        | c :: rest =>
          if c = ',' then
            let (xs, rest) ← commaSeparated skip item close fuel rest
            return (x :: xs, rest)
          else if c = close then return ([x], rest)
          else none

end BucketLifecycle.Text
