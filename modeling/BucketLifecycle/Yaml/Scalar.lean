import BucketLifecycle.Text.Hexadecimal
import BucketLifecycle.Yaml.Cursor

/-!
# Single values of a YAML text

A single value is written plainly, between quotes, or as a block of lines.  Plain and quoted ones
may go on over several lines: a line end between two lines with text is a blank then, and of several
in a row all but the first stand.  A block keeps its lines, or folds them in the same way.
-/

set_option autoImplicit false

namespace BucketLifecycle.Yaml

/-- What stands between two words of a value. -/
inductive Gap where
  /-- blanks on one line -/
  | blanks (cs : List Char)
  /-- line ends: the first one, where it counts, and the number of the others -/
  | breaks (first : Bool) (others : Nat)
  deriving DecidableEq, Repr

/-- What a gap stands for in the value. -/
def Gap.text : Gap → List Char
  | .blanks cs => cs
  | .breaks true 0 => [' ']
  | .breaks _ n => List.replicate n '\n'

/-- A gap with one line end more.  Blanks in front of a line end say nothing. -/
def Gap.addBreak : Gap → Gap
  | .blanks _ => .breaks true 0
  | .breaks first n => .breaks first (n + 1)

/-- The letters of escapes with the characters that they stand for. -/
def escapes : List (Char × Char) :=
  [('0', '\x00'), ('a', '\x07'), ('b', '\x08'), ('t', '\t'), ('\t', '\t'), ('n', '\n'),
    ('v', '\x0b'), ('f', '\x0c'), ('r', '\r'), ('e', '\x1b'), (' ', ' '), ('"', '"'), ('/', '/'),
    ('\\', '\\'), ('N', '\u0085'), ('_', '\u00A0'), ('L', '\u2028'), ('P', '\u2029')]

/-- How many digits an escape by number has behind its letter. -/
def escapeWidth? : Char → Option Nat
  | 'x' => some 2
  | 'u' => some 4
  | 'U' => some 8
  | _ => none

/-- The character that an escape spells, given what follows its backslash, with its length. -/
def escape : List Char → Option (Char × Nat)
  | [] => none
  | c :: cs =>
    match escapes.lookup c, escapeWidth? c with
    | some e, _ => some (e, 1)
    | none, some width => do
      if cs.length < width then none
      return (← Text.charOfNumber? (← Text.hexNumber? (cs.take width)), width + 1)
    | none, none => none

/-- The text in front of a blank, a line end or the closing quote, and whether an escaped line end
follows, which is passed too; `fuel` bounds its length. -/
def quotedWord (quote : Char) : (fuel : Nat) → Cursor → Option (List Char × Bool × Cursor)
  | 0, _ => none
  | fuel + 1, c =>
    let more (ch : Char) (n : Nat) : Option (List Char × Bool × Cursor) := do
      let (text, escaped, c) ← quotedWord quote fuel (c.passText n)
      return (ch :: text, escaped, c)
    match c.rest with
    | [] => some ([], false, c)
    | ch :: cs =>
      if isBlank ch ∨ isBreak ch then some ([], false, c)
      else if ch = quote then
        if quote = '\'' ∧ cs.head? = some quote then more quote 2 else some ([], false, c)
      else if ch = '\\' ∧ quote = '"' then
        if cs.head?.any isBreak then some ([], true, (c.passText 1).passBreak)
        else do
          let (e, length) ← escape cs
          more e (length + 1)
      else more ch 1

/-- The gap that goes on here in a quoted value; tabs must not indent it.  `fuel` bounds its
length. -/
def quotedGap (indent : Int) : (fuel : Nat) → Gap → Cursor → Option (Gap × Cursor)
  | 0, _, _ => none
  | fuel + 1, gap, c =>
    match c.rest with
    | [] => some (gap, c)
    | ch :: _ =>
      if isBreak ch then quotedGap indent fuel gap.addBreak c.passBreak
      else if isBlank ch then
        match gap with
        | .blanks cs => quotedGap indent fuel (.blanks (cs ++ [ch])) (c.passBlanks 1)
        | .breaks _ _ =>
          if ch = '\t' ∧ c.column < indent then none
          else quotedGap indent fuel gap (c.passBlanks 1)
      else some (gap, c)

/-- The rest of a quoted value with its closing quote; its lines are indented as far as the block
that it stands in.  `fuel` bounds the number of its words. -/
def quotedRest (quote : Char) (indent : Int) : (fuel : Nat) → Cursor → Option (List Char × Cursor)
  | 0, _ => none
  | fuel + 1, c => do
    if c.atDocumentMark ∨ c.rest.isEmpty ∨ c.column < indent then none
    let (word, escaped, c) ← quotedWord quote (c.rest.length + 1) c
    if c.rest.head? = some quote then return (word, c.passText 1)
    let start := if escaped then Gap.breaks false 0 else .blanks []
    let (gap, c) ← quotedGap indent (c.rest.length + 1) start c
    let (text, c) ← quotedRest quote indent fuel c
    return (word ++ gap.text ++ text, c)

/-- A quoted value.  Behind it the line ends, or a mark of the brackets around it follows, or the
colon that makes it a key. -/
def quoted (quote : Char) (indent : Int) (bracketed : Bool) (c : Cursor) :
    Option (List Char × Cursor) := do
  let (text, behind) ← quotedRest quote indent (c.rest.length + 1) (c.passText 1)
  let behind ← behind.passTrail?
  let fits := endsLine behind.rest ||
    match behind.rest with
    | ':' :: _ => bracketed || behind.line == c.line
    | ch :: _ => bracketed && (ch == ',' || ch == ']' || ch == '\x7d')
    | [] => true
  if fits then some (text, behind) else none

/-- The length of the word of a plain value at the front of a text.  A colon ends it in front of a
blank, and between brackets their marks end it too. -/
def plainLength (bracketed : Bool) : List Char → Nat
  | [] => 0
  | c :: cs =>
    if isBlank c || isBreak c then 0
    else if c = ':' ∧ (endsWord cs ∨ (bracketed ∧ startsBracketMark cs)) then 0
    else if bracketed && isBracketMark c then 0
    else plainLength bracketed cs + 1

/-- The gap that goes on here in a plain value.  A line that is indented with tabs must have nothing
else.  `fuel` bounds its length. -/
def plainGap (indent : Int) : (fuel : Nat) → Gap → Cursor → Option (Gap × Cursor)
  | 0, _, _ => none
  | fuel + 1, gap, c =>
    match c.rest with
    | [] => some (gap, c)
    | ch :: _ =>
      if isBreak ch then plainGap indent fuel gap.addBreak c.passBreak
      else if isBlank ch then
        match gap with
        | .blanks cs => plainGap indent fuel (.blanks (cs ++ [ch])) (c.passBlanks 1)
        | .breaks _ _ =>
          if ch = '\t' ∧ c.column < indent then do
            let c ← c.passTrail?
            if endsLine c.rest then plainGap indent fuel gap c else none
          else plainGap indent fuel gap (c.passBlanks 1)
      else some (gap, c)

/-- The rest of a plain value behind a gap; `fuel` bounds the number of its words. -/
def plainRest (indent : Int) (bracketed : Bool) :
    (fuel : Nat) → Gap → Cursor → Option (List Char × Cursor)
  | 0, _, _ => none
  | fuel + 1, gap, c => do
    if c.atDocumentMark ∨ c.rest.head? = some '#' then return ([], c)
    if bracketed ∧ c.rest.head? = some '-' ∧ startsBracketMark (c.rest.drop 1) then none
    let length := plainLength bracketed c.rest
    let text := if length = 0 then [] else gap.text ++ c.rest.take length
    let gap := if length = 0 then gap else .blanks []
    let c := c.passText length
    if c.rest.isEmpty ∨ !endsWord c.rest then return (text, c)
    let (gap, c) ← plainGap indent (c.rest.length + 1) gap c
    if !bracketed ∧ c.column < indent then return (text, c)
    let (more, c) ← plainRest indent bracketed fuel gap c
    return (text ++ more, c)

/-- A plain value, whose further lines are indented at least so far. -/
def plain (indent : Int) (bracketed : Bool) (c : Cursor) : Option (List Char × Cursor) :=
  if bracketed ∧ c.column < indent then none
  else plainRest indent bracketed (c.rest.length + 1) (.blanks []) c

/-- What becomes of the line ends behind the text of a block. -/
inductive Chomping where
  | strip
  | clip
  | keep
  deriving DecidableEq, Repr

/-- How a block is written: whether its lines are folded, what becomes of the line ends at its end,
and how far it is indented, if that is said. -/
structure BlockHeader where
  folded : Bool
  chomping : Chomping
  increment : Option Nat
  deriving DecidableEq, Repr

/-- The mark of how the line ends are treated. -/
def chomping? : Char → Option Chomping
  | '+' => some .keep
  | '-' => some .strip
  | _ => none

/-- The digit that says how far a block is indented, if one stands here. -/
def increment? (cs : List Char) : Option (Option Nat) :=
  match cs.head? with
  | none => some none
  | some c =>
    if c = '0' then none
    else if c.isDigit then some (some (c.toNat - '0'.toNat))
    else some none

/-- The marks of a block behind its first character, in either order, with their number. -/
def blockHeader (folded : Bool) (cs : List Char) : Option (BlockHeader × Nat) :=
  match cs.head?.bind chomping? with
  | some chomping => do
    let increment ← increment? (cs.drop 1)
    return (⟨folded, chomping, increment⟩, if increment.isSome then 2 else 1)
  | none => do
    let increment ← increment? cs
    let chomping := if increment.isSome then cs[1]?.bind chomping? else none
    return (⟨folded, chomping.getD .clip, increment⟩,
      (if increment.isSome then 1 else 0) + (if chomping.isSome then 1 else 0))

/-- The lines without text in front of a block whose indentation is not said: the place behind them,
how many they are, and the largest column that blanks lead to; `fuel` bounds their number. -/
def leadingLines : (fuel : Nat) → (widest lines : Nat) → Cursor → Nat × Nat × Cursor
  | 0, widest, lines, c => (widest, lines, c)
  | fuel + 1, widest, lines, c =>
    let c := c.passBlanks (c.rest.takeWhile (· == ' ')).length
    let widest := max widest c.column
    if c.rest.head?.any isBreak then leadingLines fuel widest (lines + 1) c.passBreak
    else (widest, lines, c)

/-- The lines without text in front of the next one of a block, with the blanks that indent it;
`fuel` bounds their number. -/
def blankLines (indent : Nat) : (fuel : Nat) → (lines : Nat) → Cursor → Nat × Cursor
  | 0, lines, c => (lines, c)
  | fuel + 1, lines, c =>
    let c := c.passBlanks
      (min (indent - c.column) (c.rest.takeWhile (· == ' ')).length)
    if c.rest.head?.any isBreak then blankLines indent fuel (lines + 1) c.passBreak
    else (lines, c)

/-- The lines of a block that have been read: its text, whether a line end follows it, the number of
lines without text behind that one, and whether the last line begins with a blank. -/
structure BlockDraft where
  text : List Char
  broken : Bool
  blank : Nat
  indented : Bool

def BlockDraft.add (d : BlockDraft) (folded : Bool) (line : List Char) (broken : Bool)
    (blank : Nat) : BlockDraft :=
  let indented := line.head?.any isBlank
  let breaks := List.replicate d.blank '\n'
  let between :=
    if folded ∧ d.broken ∧ !d.indented ∧ !indented then
      if d.blank = 0 then [' '] else breaks
    else (if d.broken then ['\n'] else []) ++ breaks
  ⟨d.text ++ between ++ line, broken, blank, indented⟩

/-- The lines of a block from here on; `fuel` bounds their number. -/
def blockLines (folded : Bool) (indent : Nat) : (fuel : Nat) → BlockDraft → Cursor →
    BlockDraft × Cursor
  | 0, d, c => (d, c)
  | fuel + 1, d, c =>
    if c.column ≠ indent ∨ c.rest.isEmpty ∨ (indent = 0 ∧ c.atMark '.') then (d, c)
    else
      let line := c.rest.takeWhile fun ch => !isBreak ch
      let c := c.passText line.length
      if c.rest.isEmpty then (d.add folded line false 0, c)
      else
        let (blank, c) := blankLines indent (c.rest.length + 1) 0 c.passBreak
        blockLines folded indent fuel (d.add folded line true blank) c

/-- The text of a block without any line that has text, at the end of the document. -/
def emptyBlock (chomping : Chomping) (firstBreak : Bool) (blank : Nat) (sameLine : Bool) :
    List Char :=
  let first := if firstBreak then ['\n'] else []
  match chomping with
  | .strip => []
  | .clip => if sameLine then [] else first
  | .keep =>
    if sameLine then [] else if blank = 0 then first else List.replicate blank '\n'

/-- A block, given the indentation of what it stands in. -/
def block (outer : Int) (c : Cursor) : Option (List Char × Cursor) := do
  let start := c
  let (header, length) ← blockHeader (c.rest.head? == some '>') (c.rest.drop 1)
  let c ← (c.passText (length + 1)).passTrail?
  if !endsLine c.rest then none
  let firstBreak := !c.rest.isEmpty
  let c := c.passBreak
  if c.rest.head? = some '\t' then none
  let (indent, blank, c) := match header.increment with
    | some n =>
      let indent := (max outer 0).toNat + n
      let (blank, c) := blankLines indent (c.rest.length + 1) 0 c
      (indent, blank, c)
    | none =>
      let (widest, blank, c) := leadingLines (c.rest.length + 1) 0 0 c
      (max widest (outer + 1).toNat, blank, c)
  if c.rest.isEmpty then
    return (emptyBlock header.chomping firstBreak blank (c.line == start.line), c)
  if c.column < indent ∧ outer < c.column then none
  let (d, c) := blockLines header.folded indent (c.rest.length + 1) ⟨[], false, blank, false⟩ c
  let atEnd := c.rest.isEmpty && max indent 1 ≤ c.column
  let ending := (if d.broken then ['\n'] else []) ++ if atEnd then ['\n'] else []
  return (match header.chomping with
    | .strip => d.text
    | .clip => d.text ++ ending
    | .keep => d.text ++ ending ++ List.replicate d.blank '\n', c)

end BucketLifecycle.Yaml
