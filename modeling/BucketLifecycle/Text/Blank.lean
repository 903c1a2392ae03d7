/-!
# Blank characters

The characters that count as white space wherever this library trims text: the
`White_Space` property of Unicode, 25 code points in ten runs.  Core's
`Char.isWhitespace` knows four of them.
-/

set_option autoImplicit false

namespace BucketLifecycle.Text

/-- The code points of the `White_Space` property as inclusive runs. -/
def blankRuns : List (Nat × Nat) :=
  [(0x09, 0x0D), (0x20, 0x20), (0x85, 0x85), (0xA0, 0xA0), (0x1680, 0x1680), (0x2000, 0x200A),
    (0x2028, 0x2029), (0x202F, 0x202F), (0x205F, 0x205F), (0x3000, 0x3000)]

/-- A character is blank when it lies in one of the runs. -/
def isBlank (c : Char) : Bool :=
  blankRuns.any fun run => run.1 ≤ c.toNat && c.toNat ≤ run.2

/-- Drops the blank characters in front. -/
def trimStart (cs : List Char) : List Char :=
  cs.dropWhile isBlank

/-- Drops the blank characters on both sides. -/
def trim (cs : List Char) : List Char :=
  (trimStart (trimStart cs).reverse).reverse

/-- The text without the blank characters on both sides. -/
def trimmed (s : String) : String :=
  String.ofList (trim s.toList)

/-- A text is blank when trimming leaves nothing of it. -/
def allBlank (s : String) : Bool :=
  s.toList.all isBlank

/-- A text that begins with no blank stays as it is. -/
theorem trimStart_cons_of_not_isBlank {c : Char} {cs : List Char} (h : isBlank c = false) :
    trimStart (c :: cs) = c :: cs := by
  simp [trimStart, h]

end BucketLifecycle.Text
