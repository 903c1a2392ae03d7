import BucketLifecycle.Yaml.Scalar
import BucketLifecycle.Yaml.Tag

/-!
# Tokens of a YAML text

Indentation opens and closes blocks: a list or a table of a block begins in the column of its first
hyphen or key and ends in front of the first text further to the left.  A value on one line becomes
a key when a colon follows it; the tokens that say so then go in front of it, so the last place
where a key may begin is kept for the text outside brackets and for each pair of them
(`SimpleKey`).

`tokens` carries a draft (`TokenDraft`) from one token to the next.
-/

set_option autoImplicit false

namespace BucketLifecycle.Yaml

/-- The tokens of a text. -/
inductive Token where
  | directive (d : Directive)
  | documentStart
  | documentEnd
  | blockListStart
  | blockTableStart
  | blockEnd
  | listStart
  | listEnd
  | tableStart
  | tableEnd
  /-- a hyphen -/
  | item
  | comma
  | key
  | value
  | alias (name : String)
  | anchor (name : String)
  | tag (t : Tag)
  /-- a single value, and whether it is written plainly -/
  | scalar (isPlain : Bool) (text : String)
  deriving DecidableEq, Repr

/-- A place where a key may have begun, with the number of its token.  A key is required where a
block of keys can only go on with one. -/
structure SimpleKey where
  possible : Bool
  required : Bool
  token : Nat
  index : Nat
  line : Nat
  column : Nat

def SimpleKey.impossible : SimpleKey := ⟨false, false, 0, 0, 0, 0⟩

/-- How long a key may be. -/
def keyLimit : Nat := 1024

/-- An indentation to come back to, and whether a block ends there. -/
structure Indentation where
  outer : Int
  isBlock : Bool

/-- An open bracket; a list may have a pair open that stands for a table of its own. -/
inductive Bracket where
  | list (inPair : Bool)
  | table
  deriving DecidableEq, Repr

def bracketLimit : Nat := 255

/-- Where the reader of tokens stands: the place in the text, the tokens so far, the places of keys
from the innermost bracket outwards, whether a key may begin here, the column of the open block, the
indentations around it, the open brackets, the place behind the last value in quotes or brackets,
where a colon needs no blank, and the column of the last anchor or tag. -/
structure TokenDraft where
  cursor : Cursor
  tokens : Array Token
  keys : List SimpleKey
  keyAllowed : Bool
  indent : Int
  outer : List Indentation
  brackets : List Bracket
  adjacent : Option Nat
  propertyColumn : Nat

namespace TokenDraft

def bracketed (s : TokenDraft) : Bool := !s.brackets.isEmpty

def push (s : TokenDraft) (t : Token) : TokenDraft :=
  { s with tokens := s.tokens.push t }

/-- A token more in front of others. -/
def insert (s : TokenDraft) (place : Nat) (t : Token) : TokenDraft :=
  { s with tokens := s.tokens.insertIdxIfInBounds place t }

def moveTo (s : TokenDraft) (c : Cursor) : TokenDraft := { s with cursor := c }

/-- The draft behind a line end; outside brackets a key may begin there. -/
def nextLine (s : TokenDraft) : TokenDraft :=
  { s with cursor := s.cursor.passBreak, keyAllowed := s.keyAllowed || !s.bracketed }

/-- The draft with blocks closed that begin further to the right; brackets keep them open. -/
def closeBlocks (s : TokenDraft) (column : Int) : TokenDraft :=
  if s.bracketed then s else go s.outer s
where
  /-- Closes one block after another. -/
  go : List Indentation → TokenDraft → TokenDraft
    | [], s => s
    | i :: outer, s =>
      if column < s.indent then
        let s := { s with indent := i.outer, outer }
        go outer (if i.isBlock then s.push .blockEnd else s)
      else s

/-- The draft with a block that begins in a column, at the end of the tokens or in front of some of
them.  A provisional indentation that reaches no further gives way to it. -/
def openBlock (s : TokenDraft) (column : Nat) (place : Option Nat) (t : Token) : TokenDraft :=
  if s.bracketed then s
  else
    let s := match s.outer with
      | ⟨outer, false⟩ :: rest =>
        if s.indent ≤ (column : Int) then { s with indent := outer, outer := rest } else s
      | _ => s
    if s.indent < (column : Int) then
      let s := { s with indent := column, outer := ⟨s.indent, true⟩ :: s.outer }
      match place with
      | some place => s.insert place t
      | none => s.push t
    else s

/-- The draft with a provisional indentation by one column. -/
def indentOne (s : TokenDraft) : TokenDraft :=
  if s.bracketed then s
  else match s.outer with
    | ⟨_, true⟩ :: _ => { s with indent := s.indent + 1, outer := ⟨s.indent, false⟩ :: s.outer }
    | _ => s

def dropProvisional (s : TokenDraft) : TokenDraft :=
  go s.outer s
where
  /-- Drops one after another. -/
  go : List Indentation → TokenDraft → TokenDraft
    | ⟨outer, false⟩ :: rest, s => go rest { s with indent := outer, outer := rest }
    | _, s => s

/-- The draft with the innermost place of a key given up, which must not be required. -/
def dropKey (s : TokenDraft) : Option TokenDraft :=
  match s.keys with
  | [] => some s
  | k :: ks =>
    if k.possible ∧ k.required then none
    else some { s with keys := { k with possible := false } :: ks }

/-- The draft with a place for a key here, if one may begin here. -/
def saveKey (s : TokenDraft) : Option TokenDraft :=
  if !s.keyAllowed then some s
  else do
    let required :=
      !s.bracketed && s.indent == s.cursor.column && s.outer.head?.any Indentation.isBlock
    let s ← s.dropKey
    let k := ⟨true, required, s.tokens.size, s.cursor.index, s.cursor.line, s.cursor.column⟩
    return { s with keys := k :: s.keys.drop 1 }

/-- The draft without places of keys that are too far back: outside brackets a key stands on one
line. -/
def dropStaleKeys (s : TokenDraft) : Option TokenDraft := do
  let isStale (k : SimpleKey) : Bool :=
    k.possible && !s.bracketed &&
      (k.line < s.cursor.line || k.index + keyLimit < s.cursor.index)
  if s.keys.any fun k => isStale k && k.required then none
  let giveUp (k : SimpleKey) := if isStale k then { k with possible := false } else k
  return { s with keys := s.keys.map giveUp }

/-- The draft with the pair closed that may be open in a list. -/
def closePair (s : TokenDraft) : TokenDraft :=
  match s.brackets with
  | .list true :: rest => { s with brackets := .list false :: rest }.push .tableEnd
  | _ => s

/-- The draft behind blanks, comments and line ends.  Blocks are not indented with tabs; `fuel`
bounds the number of steps. -/
def skipSpace : (fuel : Nat) → TokenDraft → Option TokenDraft
  | 0, _ => none
  | fuel + 1, s =>
    match s.cursor.rest with
    | [] => some s
    | c :: _ =>
      if c = '\t' ∧ !s.outer.isEmpty ∧ s.cursor.leading ∧ s.cursor.column < s.indent then do
        let behind ← s.cursor.passTrail?
        if endsLine behind.rest then skipSpace fuel (s.moveTo behind) else none
      else if isBlank c then skipSpace fuel (s.moveTo (s.cursor.passBlanks 1))
      else if isBreak c then skipSpace fuel s.nextLine
      else if c = '#' then skipSpace fuel (s.moveTo s.cursor.passLine)
      else some s

/-- The draft behind blanks, comments and line ends. -/
def skip (s : TokenDraft) : Option TokenDraft :=
  skipSpace (s.cursor.rest.length + 1) s

/-- The draft behind so many characters, and the blanks and the comment behind them. -/
def passMark (s : TokenDraft) (n : Nat) : Option TokenDraft :=
  ((s.cursor.passText n).passTrail?).map s.moveTo

def directive (s : TokenDraft) : Option TokenDraft := do
  let s ← (s.closeBlocks (-1)).dropKey
  let (d, c) ← Yaml.directive s.cursor
  return { s with cursor := c, keyAllowed := false }.push (.directive d)

/-- A mark of the beginning or the end of a document. -/
def documentMark (s : TokenDraft) (t : Token) : Option TokenDraft := do
  let s ← (s.closeBlocks (-1)).dropKey
  return { s with cursor := s.cursor.passText 3, keyAllowed := false }.push t

/-- The mark of the end of a document, which ends its line too. -/
def documentEnd (s : TokenDraft) : Option TokenDraft := do
  let s ← s.documentMark .documentEnd
  let c ← s.cursor.passTrail?
  if endsLine c.rest then some (s.moveTo c) else none

def openBracket (s : TokenDraft) (b : Bracket) (t : Token) : Option TokenDraft := do
  let s ← s.saveKey
  let s := s.indentOne
  if bracketLimit ≤ s.brackets.length then none
  let s := { s with
    brackets := b :: s.brackets, keys := SimpleKey.impossible :: s.keys, keyAllowed := true }
  return (← s.passMark 1).push t

def closeBracket (s : TokenDraft) (t : Token) : Option TokenDraft := do
  let s := (← s.dropKey).closePair
  let keys := if s.bracketed then s.keys.drop 1 else s.keys
  let s ← { s with brackets := s.brackets.drop 1, keys, keyAllowed := false }.passMark 1
  return { s with adjacent := if s.bracketed then some s.cursor.index else s.adjacent }.push t

def comma (s : TokenDraft) : Option TokenDraft := do
  let s := (← s.dropKey).closePair
  return (← { s with keyAllowed := true }.passMark 1).push .comma

/-- A hyphen in front of an item. -/
def item (s : TokenDraft) : Option TokenDraft := do
  if s.bracketed ∨ !s.keyAllowed then none
  let behindProperty : Bool := match s.tokens.back? with
    | some (.anchor _) => true
    | some (.tag _) => true
    | _ => false
  if behindProperty ∧ s.cursor.column = 0 ∧ s.propertyColumn = 0 ∧ -1 < s.indent then none
  let s := { s with cursor := s.cursor.passText 1 }.openBlock s.cursor.column none .blockListStart
  let trail ← s.cursor.trail? true
  let s := s.moveTo trail.behind
  if trail.tab ∧ s.cursor.rest.head? = some '-' ∧ endsWord (s.cursor.rest.drop 1) then none
  let s := if s.cursor.rest.head?.any fun c => isBreak c || isBracketMark c then s.indentOne else s
  let s ← s.dropKey
  return { s with keyAllowed := true }.push .item

/-- The draft behind spaces, comments and line ends; `fuel` bounds the number of steps. -/
def skipUntabbed : (fuel : Nat) → TokenDraft → Option TokenDraft
  | 0, _ => none
  | fuel + 1, s =>
    match s.cursor.rest with
    | [] => some s
    | c :: _ =>
      if c = ' ' then skipUntabbed fuel (s.moveTo (s.cursor.passBlanks 1))
      else if isBreak c then skipUntabbed fuel s.nextLine
      else if c = '#' then skipUntabbed fuel (s.moveTo s.cursor.passLine)
      else if c = '\t' then none
      else some s

/-- The mark of a key that is any value.  A space or a line end stands behind it, and no tab. -/
def explicitKey (s : TokenDraft) : Option TokenDraft := do
  if !s.bracketed ∧ !s.keyAllowed then none
  let s ← (s.openBlock s.cursor.column none .blockTableStart).dropKey
  let s := { s with cursor := s.cursor.passText 1, keyAllowed := !s.bracketed }
  if s.cursor.rest.isEmpty then none
  let s ← skipUntabbed (s.cursor.rest.length + 1) s
  let s := match s.brackets with
    | .list false :: rest => { s with brackets := .list true :: rest }.push .tableStart
    | _ => s
  return s.push .key

/-- A colon behind a key.  A tab alone is no blank in front of a value that begins with a letter or
a hyphen. -/
def value (s : TokenDraft) : Option TokenDraft := do
  let start := s.cursor
  let opensPair := s.brackets.head? = some (.list false)
  let s := if opensPair then { s with brackets := .list true :: s.brackets.drop 1 } else s
  let s := s.moveTo (start.passText 1)
  let s ← match s.cursor.rest with
    | '\t' :: _ => do
      let trail ← s.cursor.trail? true
      let s := s.moveTo trail.behind
      if !trail.space ∧ s.cursor.rest.head?.any isHandleChar then none else some s
    | _ => some s
  match s.keys with
  | ⟨true, required, token, index, line, column⟩ :: ks =>
    if opensPair ∧ line < start.line then none
    let s := s.insert token .key
    let s := if opensPair then s.insert token .tableStart else s
    let s := (s.openBlock column (some token) .blockTableStart).indentOne
    let k := ⟨false, required, token, index, line, column⟩
    return { s with keys := k :: ks, keyAllowed := false }.push .value
  | _ =>
    let s := if opensPair then s.push .tableStart else s
    if !s.bracketed ∧ !s.keyAllowed then none
    let s := (s.openBlock start.column none .blockTableStart).indentOne
    return { s with keyAllowed := !s.bracketed }.push .value

/-- The draft behind an anchor or a tag. -/
def passProperty (s : TokenDraft) (c : Cursor) : TokenDraft :=
  { s with cursor := c, keyAllowed := false, propertyColumn := s.cursor.column }

def named (s : TokenDraft) (t : String → Token) : Option TokenDraft := do
  let s ← s.saveKey
  let (name, c) ← anchorName s.cursor
  return (s.passProperty c).push (t name)

def tag (s : TokenDraft) : Option TokenDraft := do
  let s ← s.saveKey
  let (t, c) ← Yaml.tag s.bracketed s.cursor
  return (s.passProperty c).push (.tag t)

def block (s : TokenDraft) : Option TokenDraft := do
  let s := (← s.saveKey).dropProvisional
  let (text, c) ← Yaml.block s.indent s.cursor
  return { s with cursor := c, keyAllowed := true }.push (.scalar false (String.ofList text))

def quoted (s : TokenDraft) (quote : Char) : Option TokenDraft := do
  let s ← s.saveKey
  let (text, c) ← Yaml.quoted quote s.indent s.bracketed s.cursor
  let s ← { s with cursor := c, keyAllowed := false }.skip
  return { s with adjacent := some s.cursor.index }.push (.scalar false (String.ofList text))

/-- A plain value.  A key may begin behind one that the end of its line ends. -/
def plain (s : TokenDraft) : Option TokenDraft := do
  let s := (← s.saveKey).dropProvisional
  let (text, c) ← Yaml.plain (s.indent + 1) s.bracketed s.cursor
  return { s with cursor := c, keyAllowed := c.leading }.push (.scalar true (String.ofList text))

/-- The token that begins here, by its first character. -/
def token (s : TokenDraft) : Option TokenDraft :=
  match s.cursor.rest with
  | [] => some s
  | c :: cs =>
    let word := endsWord cs
    if c = '[' then s.openBracket (.list false) .listStart
    else if c = '\x7b' then s.openBracket .table .tableStart
    else if c = ']' then s.closeBracket .listEnd
    else if c = '\x7d' then s.closeBracket .tableEnd
    else if c = ',' then s.comma
    else if c = '-' ∧ word then s.item
    else if c = '?' ∧ word then s.explicitKey
    else if c = ':' ∧ (word ∨ (s.bracketed ∧
        (startsBracketMark cs ∨ s.adjacent = some s.cursor.index))) then s.value
    else if c = '*' then s.named .alias
    else if c = '&' then s.named .anchor
    else if c = '!' then s.tag
    else if (c = '|' ∨ c = '>') ∧ !s.bracketed then s.block
    else if c = '"' ∨ c = '\'' then s.quoted c
    else if c = '%' ∨ c = '@' ∨ c = '\x60' then none
    else s.plain

/-- One token further: at the beginning of a line it may be one of the document. -/
def next (s : TokenDraft) : Option TokenDraft := do
  let s := (← s.dropStaleKeys).closeBlocks s.cursor.column
  if s.cursor.column = 0 ∧ s.cursor.rest.head? = some '%' then s.directive
  else if s.cursor.atMark '-' then s.documentMark .documentStart
  else if s.cursor.atMark '.' then s.documentEnd
  else if s.cursor.column < s.indent then none
  else s.token

/-- The draft at the end of the text, where no key may still be required. -/
def finish (s : TokenDraft) : Option TokenDraft :=
  if s.keys.any fun k => k.possible && k.required then none else some (s.closeBlocks (-1))

/-- All tokens from here on; `fuel` bounds their number. -/
def run : (fuel : Nat) → TokenDraft → Option TokenDraft
  | 0, _ => none
  | fuel + 1, s => do
    let s ← s.skip
    if s.cursor.rest.isEmpty then (← s.dropStaleKeys).finish
    else run fuel (← s.next)

end TokenDraft

def tokens (cs : List Char) : Option (List Token) := do
  let start : TokenDraft :=
    ⟨.ofText cs, #[], [SimpleKey.impossible], true, -1, [], [], none, 0⟩
  let s ← start.run (cs.length + 1)
  return s.tokens.toList

end BucketLifecycle.Yaml
