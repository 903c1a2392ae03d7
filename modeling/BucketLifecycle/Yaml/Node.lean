import BucketLifecycle.Decimal.Reader
import BucketLifecycle.Text.Hexadecimal
import BucketLifecycle.Yaml.Token

/-!
# Values of a YAML document

A value is a single one, a list or a table whose keys are themselves values.  A plain single value
is read for what it looks like, or as its tag says; an alias stands for what its anchor named.  The
reader goes down the tokens as they nest, one function for each kind of list or table, and keeps
the values with names on the way.
-/

set_option autoImplicit false

namespace BucketLifecycle.Yaml

/-- A value. -/
inductive Node where
  | null
  | boolean (b : Bool)
  | integer (n : Int64)
  /-- a number with a fraction or an exponent, by its text -/
  | real (text : String)
  | text (s : String)
  /-- a text that does not fit its tag, or a value that stands for itself -/
  | unfit
  | list (items : List Node)
  | table (entries : List (Node × Node))

/-- Whether a text is a number with a fraction or an exponent. -/
def isReal (s : String) : Bool :=
  [".inf", ".Inf", ".INF", "+.inf", "+.Inf", "+.INF", "-.inf", "-.Inf", "-.INF", ".nan", "NaN",
      ".NAN"].contains s ||
    (s.toList.any Char.isDigit && (Decimal.readFloat s.toList).isSome)

/-- A whole number, also in base 16 behind `0x` and in base 8 behind `0o`. -/
def integer? (s : String) : Option Int64 :=
  let decimal (cs : List Char) := Text.readInt64InBase? 10 cs
  match s.toList with
  | '0' :: 'x' :: ds => Text.readInt64InBase? 16 ds
  | '0' :: 'o' :: ds => Text.readInt64InBase? 8 ds
  | '+' :: ds => decimal ds <|> decimal ('+' :: ds)
  | cs => decimal cs

/-- What a plain single value without a tag is. -/
def Node.ofPlain (s : String) : Node :=
  if s = "~" ∨ s = "null" then .null
  else if s = "true" then .boolean true
  else if s = "false" then .boolean false
  else match integer? s with
    | some n => .integer n
    | none => if isReal s then .real s else .text s

/-- What the names of the standard tags begin with. -/
def standardTags : String := "tag:yaml.org,2002:"

/-- What a plain single value with a tag is. -/
def Node.ofTagged (t : Tag) (s : String) : Node :=
  if t.handle ≠ standardTags then .text s
  else if t.suffix = "bool" then
    if s = "true" then .boolean true else if s = "false" then .boolean false else .unfit
  else if t.suffix = "int" then
    (Text.readInt64InBase? 10 s.toList).elim .unfit .integer
  else if t.suffix = "float" then if isReal s then .real s else .unfit
  else if t.suffix = "null" then if s = "~" ∨ s = "null" then .null else .unfit
  else .text s

def Node.ofScalar (isPlain : Bool) (t : Option Tag) (s : String) : Node :=
  if !isPlain then .text s
  else match t with
    | none => .ofPlain s
    | some t => .ofTagged t s

/-- Keys and values in turn as entries.  What is unfit for a key is passed over, and a last key
without a value says nothing. -/
def pairUp : List Node → List (Node × Node)
  | [] => []
  | .unfit :: rest => pairUp rest
  | [_] => []
  | key :: v :: rest => (key, v) :: pairUp rest

/-- The values with names: the number of the last anchor with each name, and the values of the
anchors by their numbers. -/
structure Anchors where
  count : Nat
  names : List (String × Nat)
  nodes : List (Nat × Node)

def Anchors.add (a : Anchors) (name : String) : Nat × Anchors :=
  (a.count, { a with count := a.count + 1, names := (name, a.count) :: a.names })

/-- The anchors with the value of one of them. -/
def Anchors.define (a : Anchors) (anchor : Option Nat) (v : Node) : Anchors :=
  anchor.elim a fun n => { a with nodes := (n, v) :: a.nodes }

/-- The value of an alias.  A value that is not complete is unfit. -/
def Anchors.resolve (a : Anchors) (name : String) : Option Node :=
  (a.names.lookup name).map fun n => (a.nodes.lookup n).getD .unfit

/-- What handles stand for. -/
abbrev Handles := List (String × String)

/-- A tag with the meaning of its handle in place of the handle. -/
def Tag.resolve (hs : Handles) (t : Tag) : Option Tag :=
  match hs.lookup t.handle with
  | some meaning => some { t with handle := meaning }
  | none =>
    if t.handle = "!!" then some { t with handle := standardTags }
    else if 2 ≤ t.handle.length then none
    else some t

/-- What may stand in front of a value. -/
structure Properties where
  anchor : Option Nat
  tag : Option Tag

/-- A reader of something from the front of some tokens, with the anchors up to there. -/
abbrev NodeReader (α : Type) := List Token → Anchors → Option (α × List Token × Anchors)

/-- An anchor and a tag in front of a value, in either order. -/
def properties (hs : Handles) : NodeReader Properties
  | .anchor name :: .tag t :: ts, a => do
    let (n, a) := a.add name
    return (⟨some n, some (← t.resolve hs)⟩, ts, a)
  | .tag t :: .anchor name :: ts, a => do
    let (n, a) := a.add name
    return (⟨some n, some (← t.resolve hs)⟩, ts, a)
  | .anchor name :: ts, a =>
    let (n, a) := a.add name
    some (⟨some n, none⟩, ts, a)
  | .tag t :: ts, a => do return (⟨none, some (← t.resolve hs)⟩, ts, a)
  | ts, a => some (⟨none, none⟩, ts, a)

/-- Whether an item or an entry of a block ends in front of some tokens. -/
def endsEntry : List Token → Bool
  | .key :: _ => true
  | .value :: _ => true
  | .blockEnd :: _ => true
  | _ => false

/-- Whether an item of a block ends in front of some tokens. -/
def endsItem : List Token → Bool
  | .item :: _ => true
  | .blockEnd :: _ => true
  | _ => false

/-- Whether an entry between brackets ends in front of some tokens. -/
def endsPair : List Token → Bool
  | .comma :: _ => true
  | .tableEnd :: _ => true
  | _ => false

/-- A value without a text, which must have an anchor or a tag. -/
def emptyValue (p : Properties) : NodeReader Node := fun ts a =>
  if p.anchor.isNone ∧ p.tag.isNone then none
  else some (Node.ofScalar true p.tag "", ts, a)

/-- A list of the items that have been read. -/
def asList : Option (List Node × List Token × Anchors) → Option (Node × List Token × Anchors) :=
  Option.map fun (items, ts, a) => (.list items, ts, a)

/-- A table of the keys and values that have been read. -/
def asTable : Option (List Node × List Token × Anchors) → Option (Node × List Token × Anchors) :=
  Option.map fun (ks, ts, a) => (.table (pairUp ks), ts, a)

mutual

/-- A value.  `block` says that a block may begin here, and `flush` that its items may stand in the
column of the key in front of it; `fuel` bounds the number of steps here and below. -/
def node (hs : Handles) (block flush : Bool) : (fuel : Nat) → NodeReader Node
  | 0, _, _ => none
  | _ + 1, .alias name :: ts, a => (a.resolve name).map fun v => (v, ts, a)
  | fuel + 1, ts, a => do
    let (p, ts, a) ← properties hs ts a
    let (v, ts, a) ← match ts with
      | .scalar isPlain s :: ts => some (Node.ofScalar isPlain p.tag s, ts, a)
      | .listStart :: ts => asList (bracketItems hs true fuel ts a)
      | .tableStart :: ts => asTable (bracketEntries hs true fuel ts a)
      | .item :: rest =>
        if flush then asList (flushItems hs fuel (.item :: rest) a) else emptyValue p ts a
      | .blockListStart :: rest =>
        if block then asList (blockItems hs fuel rest a) else emptyValue p ts a
      | .blockTableStart :: rest =>
        if block then asTable (blockEntries hs fuel rest a) else emptyValue p ts a
      | ts => emptyValue p ts a
    return (v, ts, a.define p.anchor v)

/-- The items of a block up to its end. -/
def blockItems (hs : Handles) : (fuel : Nat) → NodeReader (List Node)
  | 0, _, _ => none
  | _ + 1, .blockEnd :: ts, a => some ([], ts, a)
  | fuel + 1, .item :: ts, a => do
    let (v, ts, a) ← if endsItem ts then some (.null, ts, a) else node hs true false fuel ts a
    let (vs, ts, a) ← blockItems hs fuel ts a
    return (v :: vs, ts, a)
  | _ + 1, _, _ => none

/-- The items in the column of the key in front of them, up to the next token of another kind. -/
def flushItems (hs : Handles) : (fuel : Nat) → NodeReader (List Node)
  | 0, _, _ => none
  | fuel + 1, .item :: ts, a => do
    let (v, ts, a) ← if endsItem ts || endsEntry ts then some (.null, ts, a)
      else node hs true false fuel ts a
    let (vs, ts, a) ← flushItems hs fuel ts a
    return (v :: vs, ts, a)
  | _ + 1, ts, a => some ([], ts, a)

/-- The keys and values of a block in turn, up to its end. -/
def blockEntries (hs : Handles) : (fuel : Nat) → NodeReader (List Node)
  | 0, _, _ => none
  | _ + 1, .blockEnd :: ts, a => some ([], ts, a)
  | fuel + 1, ts, a => do
    let (k, ts, a) ← match ts with
      | .key :: ts => if endsEntry ts then some (.null, ts, a) else node hs true true fuel ts a
      | .value :: _ => some (.null, ts, a)
      | _ => none
    let (v, ts, a) ← match ts with
      | .value :: ts => if endsEntry ts then some (.null, ts, a) else node hs true true fuel ts a
      | ts => some (.null, ts, a)
    let (rest, ts, a) ← blockEntries hs fuel ts a
    return (k :: v :: rest, ts, a)

/-- The items of a list between brackets, from the first one or from the comma behind one. -/
def bracketItems (hs : Handles) (first : Bool) : (fuel : Nat) → NodeReader (List Node)
  | 0, _, _ => none
  | _ + 1, .listEnd :: ts, a => some ([], ts, a)
  | fuel + 1, ts, a => do
    let ts ← match first, ts with
      | true, ts => some ts
      | false, .comma :: ts => some ts
      | false, _ => none
    match ts with
    | .listEnd :: ts => return ([], ts, a)
    | ts => do
      let (v, ts, a) ← node hs false false fuel ts a
      let (vs, ts, a) ← bracketItems hs false fuel ts a
      return (v :: vs, ts, a)

/-- The keys and values of a table between brackets in turn, from the first one or from the comma
behind one. -/
def bracketEntries (hs : Handles) (first : Bool) : (fuel : Nat) → NodeReader (List Node)
  | 0, _, _ => none
  | _ + 1, .tableEnd :: ts, a => some ([], ts, a)
  | fuel + 1, ts, a => do
    let ts ← match first, ts with
      | true, ts => some ts
      | false, .comma :: ts => some ts
      | false, _ => none
    match ts with
    | .tableEnd :: ts => return ([], ts, a)
    | ts => do
      let (k, isKey, ts, a) ← match ts with
        | .key :: .value :: ts => some (Node.null, true, .value :: ts, a)
        | .key :: ts =>
          if endsPair ts then some (.null, true, ts, a)
          else (node hs false false fuel ts a).map fun (k, ts, a) => (k, true, ts, a)
        | .value :: ts => some (.null, true, .value :: ts, a)
        | ts => (node hs false false fuel ts a).map fun (k, ts, a) => (k, false, ts, a)
      let (v, ts, a) ← match isKey, ts with
        | true, .value :: ts =>
          if endsPair ts then some (.null, ts, a) else node hs false false fuel ts a
        | _, ts => some (.null, ts, a)
      let (rest, ts, a) ← bracketEntries hs false fuel ts a
      return (k :: v :: rest, ts, a)

end

/-- The directives in front of a document: of several handles the last one counts, and the version
is given once. -/
def directives : (versioned : Bool) → Handles → List Token → Option (Handles × List Token)
  | versioned, _, .directive .version :: ts =>
    if versioned then none else directives true [] ts
  | versioned, _, .directive (.handle name meaning) :: ts =>
    directives versioned [(name, meaning)] ts
  | _, hs, ts => some (hs, ts)

/-- Whether a document without text ends in front of some tokens. -/
def endsDocument : List Token → Bool
  | [] => true
  | .directive _ :: _ => true
  | .documentStart :: _ => true
  | .documentEnd :: _ => true
  | _ => false

def rootNode (hs : Handles) (ts : List Token) : Option (Node × List Token) :=
  (node hs true false (2 * ts.length + 2) ts ⟨0, [], []⟩).map fun (v, ts, _) => (v, ts)

/-- The value of the only document of some tokens, if there is one. -/
def documentNode (ts : List Token) : Option (Option Node) := do
  match ts.dropWhile (· == .documentEnd) with
  | [] => return none
  | ts => do
    let (v, rest) ←
      match ts with
      | .directive _ :: _ => explicit ts
      | .documentStart :: _ => explicit ts
      | ts => rootNode [] ts
    if rest.all (· == .documentEnd) then some (some v) else none
where
  /-- A document behind its mark, with directives in front of it. -/
  explicit (ts : List Token) : Option (Node × List Token) := do
    match ← directives false [] ts with
    | (hs, .documentStart :: ts) => if endsDocument ts then some (.null, ts) else rootNode hs ts
    | _ => none

end BucketLifecycle.Yaml
