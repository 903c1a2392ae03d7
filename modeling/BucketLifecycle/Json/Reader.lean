import BucketLifecycle.Json.Lexer

/-!
# From tokens to a tree

A second machine folds over the tokens.  Its state says what must come next and keeps the lists
and objects that are still open, innermost first.  `Document.ofChars` runs both machines: every text
has a tree.
-/

set_option autoImplicit false

namespace BucketLifecycle.Json

/-- A list or object that is still open while one of its values is read; what it holds so far is
kept in reverse. -/
inductive Frame where
  | list (items : List Node)
  | object (members : List (StringLit × Node)) (key : StringLit)

/-- What must come next. -/
inductive BuildState where
  /-- a value -/
  | value (frames : List Frame)
  /-- the first item of a list, or its end -/
  | listStart (frames : List Frame)
  /-- the next item of a list -/
  | listItem (items : List Node) (frames : List Frame)
  /-- a comma, or the end of the list -/
  | afterItem (items : List Node) (frames : List Frame)
  /-- the first key of an object, or its end -/
  | objectStart (frames : List Frame)
  /-- the next key of an object -/
  | objectKey (members : List (StringLit × Node)) (frames : List Frame)
  /-- the colon after a key -/
  | colon (members : List (StringLit × Node)) (key : StringLit) (frames : List Frame)
  /-- a comma, or the end of the object -/
  | afterMember (members : List (StringLit × Node)) (frames : List Frame)
  /-- nothing -/
  | complete (root : Node)
  /-- anything: the text has left the grammar -/
  | over (document : Document)

/-- A value is complete: it goes into the innermost open list or object. -/
def plug (n : Node) : List Frame → BuildState
  | [] => .complete n
  | .list items :: frames => .afterItem (n :: items) frames
  | .object members key :: frames => .afterMember ((key, n) :: members) frames

/-- Closes every open list and object around a value that is not complete. -/
def wrap (n : Node) : List Frame → Node
  | [] => n
  | .list items :: frames => wrap (.list (n :: items).reverse .cut) frames
  | .object members key :: frames => wrap (.object ((key, n) :: members).reverse .cut) frames

/-- The text leaves the grammar with this value. -/
def leave (n : Node) (frames : List Frame) : BuildState :=
  .over ⟨wrap n frames, false⟩

/-- A token where a value must stand. -/
def valueToken (token : Token) (frames : List Frame) : BuildState :=
  match token with
  | .null => plug .null frames
  | .bool b => plug (.bool b) frames
  | .number n => plug (.number n) frames
  | .string s => plug (.string s) frames
  | .openList => .listStart frames
  | .openObject => .objectStart frames
  | .broken g => leave (.gap g) frames
  | .closeList | .closeObject | .comma | .colon => leave (.gap .stray) frames

def BuildState.step (st : BuildState) (token : Token) : BuildState :=
  match st with
  | .value frames => valueToken token frames
  | .listStart frames =>
    match token with
    | .closeList => plug (.list [] .closed) frames
    | token => valueToken token (.list [] :: frames)
  | .listItem items frames =>
    match token with
    | .closeList => leave (.list items.reverse .trailingComma) frames
    | token => valueToken token (.list items :: frames)
  | .afterItem items frames =>
    match token with
    | .comma => .listItem items frames
    | .closeList => plug (.list items.reverse .closed) frames
    | _ => leave (.list items.reverse .missingComma) frames
  | .objectStart frames =>
    match token with
    | .closeObject => plug (.object [] .closed) frames
    | .string key => .colon [] key frames
    | _ => leave (.object [] .missingKey) frames
  | .objectKey members frames =>
    match token with
    | .closeObject => leave (.object members.reverse .trailingComma) frames
    | .string key => .colon members key frames
    | _ => leave (.object members.reverse .missingKey) frames
  | .colon members key frames =>
    match token with
    | .colon => .value (.object members key :: frames)
    | _ => leave (.gap .colon) (.object members key :: frames)
  | .afterMember members frames =>
    match token with
    | .comma => .objectKey members frames
    | .closeObject => plug (.object members.reverse .closed) frames
    | _ => leave (.object members.reverse .missingComma) frames
  | .complete root => .over ⟨root, true⟩
  | .over document => .over document

/-- The document at the end of the tokens. -/
def BuildState.finish : BuildState → Document
  | .value frames => ⟨wrap (.gap .cut) frames, false⟩
  | .listStart frames => ⟨wrap (.list [] .cut) frames, false⟩
  | .listItem items frames => ⟨wrap (.list items.reverse .commaCut) frames, false⟩
  | .afterItem items frames => ⟨wrap (.list items.reverse .cut) frames, false⟩
  | .objectStart frames => ⟨wrap (.object [] .cut) frames, false⟩
  | .objectKey members frames => ⟨wrap (.object members.reverse .commaCut) frames, false⟩
  | .colon members key frames => ⟨wrap (.gap .colonCut) (.object members key :: frames), false⟩
  | .afterMember members frames => ⟨wrap (.object members.reverse .cut) frames, false⟩
  | .complete root => ⟨root, false⟩
  | .over document => document

/-- The document that the tokens spell. -/
def Document.ofTokens (ts : List Token) : Document :=
  (ts.foldl BuildState.step (.value [])).finish

def Document.ofChars (cs : List Char) : Document :=
  Document.ofTokens (tokens cs)

def Document.ofString (s : String) : Document :=
  Document.ofChars s.toList

end BucketLifecycle.Json
