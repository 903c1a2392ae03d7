import BucketLifecycle.Json.Reader
import BucketLifecycle.Proofs.Json.Lexing

/-!
# Texts and trees

A tree spells a sequence of tokens (`Node.tokens`), and a text spells a tree if it is a text of
these tokens (`Node.SpelledBy`).  Of the trees that the reader makes, those in which the text leaves
the grammar nowhere are `Complete`.

The reader makes a complete tree of each text that spells it, and of no other one
(`spelledBy_iff`): the builder makes of the tokens of a complete tree that very tree (`Builds`), and
what it has read of some tokens is told by its state, up to where they leave the grammar
(`BuildState.Reads`).
-/

set_option autoImplicit false

namespace BucketLifecycle.Json

mutual

def Node.tokens : Node → List Token
  | .null => [.null]
  | .bool b => [.bool b]
  | .number n => [.number n]
  | .string s => [.string s]
  | .list items _ => .openList :: itemTokens items ++ [.closeList]
  | .object members _ => .openObject :: memberTokens members ++ [.closeObject]
  | .gap g => [.broken g]

/-- The tokens of the items of a list. -/
def Node.itemTokens : List Node → List Token
  | [] => []
  | [item] => item.tokens
  | item :: next :: rest => item.tokens ++ .comma :: itemTokens (next :: rest)

/-- The tokens of the members of an object. -/
def Node.memberTokens : List (StringLit × Node) → List Token
  | [] => []
  | [(key, value)] => .string key :: .colon :: value.tokens
  | (key, value) :: next :: rest =>
    .string key :: .colon :: value.tokens ++ .comma :: memberTokens (next :: rest)

end

/-- The text leaves the grammar nowhere in the tree. -/
inductive Node.Complete : Node → Prop
  | null : Node.Complete .null
  | bool (b : Bool) : Node.Complete (.bool b)
  | number (lit : NumberLit) : Node.Complete (.number lit)
  | string {s : StringLit} (h : s.ending = .closed) : Node.Complete (.string s)
  | list {items : List Node} (h : ∀ item ∈ items, item.Complete) :
      Node.Complete (.list items .closed)
  | object {members : List (StringLit × Node)}
      (hkeys : ∀ member ∈ members, member.1.ending = .closed)
      (hvalues : ∀ member ∈ members, member.2.Complete) :
      Node.Complete (.object members .closed)

/-- The text is one of a JSON value. -/
structure Node.SpelledBy (n : Node) (text : String) : Prop where
  complete : n.Complete
  lexed : Lexed n.tokens text.toList

/-- A string is complete where it is closed. -/
theorem complete_string_iff {s : StringLit} : (Node.string s).Complete ↔ s.ending = .closed :=
  ⟨fun | .string h => h, .string⟩

/-- A list is complete where its items are and it is closed. -/
theorem complete_list_iff {items : List Node} {ending : ListEnd} :
    (Node.list items ending).Complete ↔ (∀ item ∈ items, item.Complete) ∧ ending = .closed := by
  constructor
  · rintro ⟨⟩
    exact ⟨‹_›, rfl⟩
  · rintro ⟨h, rfl⟩
    exact .list h

/-- An object is complete where its members are and it is closed. -/
theorem complete_object_iff {members : List (StringLit × Node)} {ending : ObjectEnd} :
    (Node.object members ending).Complete ↔
      (∀ member ∈ members, member.1.ending = .closed ∧ member.2.Complete) ∧ ending = .closed := by
  constructor
  · intro h
    cases h with
    | object hkeys hvalues =>
      exact ⟨fun member hmember => ⟨hkeys member hmember, hvalues member hmember⟩, rfl⟩
  · rintro ⟨h, rfl⟩
    exact .object (fun member hmember => (h member hmember).1) fun member hmember =>
      (h member hmember).2

/-! ### The tokens of a tree -/

/-- The token of null. -/
theorem Node.tokens_null : Node.tokens .null = [.null] := by
  unfold Node.tokens
  rfl

/-- The token of a truth value. -/
theorem Node.tokens_bool (b : Bool) : Node.tokens (.bool b) = [.bool b] := by
  unfold Node.tokens
  rfl

/-- The token of a number. -/
theorem Node.tokens_number (lit : NumberLit) : Node.tokens (.number lit) = [.number lit] := by
  unfold Node.tokens
  rfl

/-- The token of a string. -/
theorem Node.tokens_string (s : StringLit) : Node.tokens (.string s) = [.string s] := by
  unfold Node.tokens
  rfl

/-- The tokens of a list are those of its items between brackets. -/
theorem Node.tokens_list (items : List Node) (ending : ListEnd) :
    Node.tokens (.list items ending) = .openList :: itemTokens items ++ [.closeList] := by
  unfold Node.tokens
  rfl

/-- The tokens of an object are those of its members between braces. -/
theorem Node.tokens_object (members : List (StringLit × Node)) (ending : ObjectEnd) :
    Node.tokens (.object members ending) =
      .openObject :: memberTokens members ++ [.closeObject] := by
  unfold Node.tokens
  rfl

/-- Items with a comma behind each of them. -/
def listedItems (items : List Node) : List Token :=
  items.flatMap fun item => item.tokens ++ [.comma]

/-- Members with a comma behind each of them. -/
def listedMembers (members : List (StringLit × Node)) : List Token :=
  members.flatMap fun member => .string member.1 :: .colon :: member.2.tokens ++ [.comma]

/-- The tokens of items end with those of the last one. -/
theorem itemTokens_concat (items : List Node) (last : Node) :
    Node.itemTokens (items ++ [last]) = listedItems items ++ last.tokens := by
  induction items with
  | nil =>
    rw [List.nil_append]
    unfold Node.itemTokens
    rfl
  | cons item rest ih =>
    obtain ⟨next, later, hnext⟩ := List.exists_cons_of_ne_nil (List.concat_ne_nil last rest)
    rw [List.cons_append, hnext]
    unfold Node.itemTokens
    rw [← hnext, ih]
    simp [listedItems]

/-- The tokens of members end with those of the last one. -/
theorem memberTokens_concat (members : List (StringLit × Node)) (key : StringLit) (last : Node) :
    Node.memberTokens (members ++ [(key, last)]) =
      listedMembers members ++ .string key :: .colon :: last.tokens := by
  induction members with
  | nil =>
    rw [List.nil_append]
    unfold Node.memberTokens
    rfl
  | cons member rest ih =>
    obtain ⟨next, later, hnext⟩ := List.exists_cons_of_ne_nil (List.concat_ne_nil (key, last) rest)
    rw [List.cons_append, hnext]
    unfold Node.memberTokens
    rw [← hnext, ih]
    simp [listedMembers]

/-- What holds of the tokens of each item and of a comma holds of those of all items. -/
theorem forall_itemTokens {p : Token → Prop} {items : List Node}
    (h : ∀ item ∈ items, ∀ t ∈ item.tokens, p t) (hcomma : p .comma) :
    ∀ t ∈ Node.itemTokens items, p t := by
  intro t ht
  induction items using List.reverseRecOn with
  | nil =>
    unfold Node.itemTokens at ht
    cases ht
  | append_singleton items last =>
    rw [itemTokens_concat, List.mem_append, listedItems, List.mem_flatMap] at ht
    rcases ht with ⟨item, hitem, ht⟩ | ht
    · rcases List.mem_append.1 ht with ht | ht
      · exact h item (List.mem_append_left _ hitem) t ht
      · rwa [List.mem_singleton.1 ht]
    · exact h last (by simp) t ht

/-- What holds of the tokens in members, of colons and of commas holds of all tokens of the members.
-/
theorem forall_memberTokens {p : Token → Prop} {members : List (StringLit × Node)}
    (h : ∀ member ∈ members, p (.string member.1) ∧ ∀ t ∈ member.2.tokens, p t)
    (hcolon : p .colon) (hcomma : p .comma) : ∀ t ∈ Node.memberTokens members, p t := by
  have hmember {member : StringLit × Node} (hmem : member ∈ members) {t : Token}
      (ht : t ∈ .string member.1 :: .colon :: member.2.tokens) : p t := by
    obtain ⟨hkey, hvalue⟩ := h member hmem
    exact List.forall_mem_cons.2 ⟨hkey, List.forall_mem_cons.2 ⟨hcolon, hvalue⟩⟩ t ht
  intro t ht
  rcases List.eq_nil_or_concat members with rfl | ⟨front, ⟨key, last⟩, rfl⟩
  · unfold Node.memberTokens at ht
    cases ht
  · rw [List.concat_eq_append] at ht hmember
    rw [memberTokens_concat, List.mem_append, listedMembers, List.mem_flatMap] at ht
    rcases ht with ⟨member, hmem, ht⟩ | ht
    · rcases List.mem_append.1 ht with ht | ht
      · exact hmember (List.mem_append_left _ hmem) ht
      · rwa [List.mem_singleton.1 ht]
    · exact hmember (List.mem_append_right _ List.mem_cons_self) ht

/-- A complete value has whole tokens only. -/
theorem Node.Complete.whole {n : Node} (h : n.Complete) : ∀ t ∈ n.tokens, t.Whole := by
  have hbrackets {first last : Token} {ts : List Token} (hfirst : first.Whole)
      (hts : ∀ t ∈ ts, t.Whole) (hlast : last.Whole) : ∀ t ∈ first :: ts ++ [last], t.Whole :=
    List.forall_mem_append.2
      ⟨List.forall_mem_cons.2 ⟨hfirst, hts⟩, List.forall_mem_singleton.2 hlast⟩
  induction h with
  | null =>
    rw [Node.tokens_null]
    exact List.forall_mem_singleton.2 trivial
  | bool b =>
    rw [Node.tokens_bool]
    exact List.forall_mem_singleton.2 trivial
  | number lit =>
    rw [Node.tokens_number]
    exact List.forall_mem_singleton.2 trivial
  | string h =>
    rw [Node.tokens_string]
    exact List.forall_mem_singleton.2 h
  | list _ ih =>
    rw [Node.tokens_list]
    exact hbrackets trivial (forall_itemTokens ih trivial) trivial
  | object hkeys _ ih =>
    rw [Node.tokens_object]
    have hmembers := forall_memberTokens (fun member hmem => ⟨hkeys member hmem, ih member hmem⟩)
      trivial trivial
    exact hbrackets trivial hmembers trivial

/-- No tokens need no blanks between them. -/
theorem apart_nil : Apart [] :=
  .nil

/-- No two numbers meet in the tokens of items, where none do in those of one item. -/
theorem apart_itemTokens {items : List Node} (h : ∀ item ∈ items, Apart item.tokens) :
    Apart (Node.itemTokens items) := by
  induction items with
  | nil =>
    unfold Node.itemTokens
    exact apart_nil
  | cons item rest ih =>
    obtain ⟨hitem, hrest⟩ := List.forall_mem_cons.1 h
    cases rest with
    | nil =>
      unfold Node.itemTokens
      exact hitem
    | cons next rest =>
      unfold Node.itemTokens
      exact apart_join hitem (ih hrest) nofun

/-- No two numbers meet in the tokens of members, where none do in those of one value. -/
theorem apart_memberTokens {members : List (StringLit × Node)}
    (h : ∀ member ∈ members, Apart member.2.tokens) : Apart (Node.memberTokens members) := by
  have hmember (key : StringLit) {ts : List Token} (hts : Apart ts) :
      Apart (.string key :: .colon :: ts) :=
    apart_join apart_nil (apart_join apart_nil hts nofun) nofun
  induction members with
  | nil =>
    unfold Node.memberTokens
    exact apart_nil
  | cons member rest ih =>
    obtain ⟨hvalue, hrest⟩ := List.forall_mem_cons.1 h
    cases rest with
    | nil =>
      unfold Node.memberTokens
      exact hmember member.1 hvalue
    | cons next rest =>
      unfold Node.memberTokens
      exact apart_join (hmember member.1 hvalue) (ih hrest) nofun

/-- In a tree no number follows another one without a comma between them. -/
theorem Node.Complete.apart {n : Node} (h : n.Complete) : Apart n.tokens := by
  have hbrackets {first last : Token} {ts : List Token} (hts : Apart ts) (hfirst : ¬first.IsNumber)
      (hlast : ¬last.IsNumber) : Apart (first :: ts ++ [last]) :=
    apart_join (apart_join apart_nil hts hfirst) apart_nil hlast
  induction h with
  | null =>
    rw [Node.tokens_null]
    exact apart_singleton _
  | bool b =>
    rw [Node.tokens_bool]
    exact apart_singleton _
  | number lit =>
    rw [Node.tokens_number]
    exact apart_singleton _
  | string =>
    rw [Node.tokens_string]
    exact apart_singleton _
  | list _ ih =>
    rw [Node.tokens_list]
    exact hbrackets (apart_itemTokens ih) nofun nofun
  | object _ _ ih =>
    rw [Node.tokens_object]
    exact hbrackets (apart_memberTokens ih) nofun nofun

/-! ### From the tokens to the tree -/

/-- No tree begins with the end of a list. -/
theorem Node.exists_tokens_eq_cons (n : Node) :
    ∃ token rest, n.tokens = token :: rest ∧ token ≠ .closeList := by
  cases n with
  | null | bool | number | string | list | object | gap =>
    unfold Node.tokens
    exact ⟨_, _, rfl, nofun⟩

/-- Two states that differ only in what the end of a list does to them read a tree alike. -/
theorem foldl_tokens_congr {st st' : BuildState}
    (h : ∀ token, token ≠ .closeList → st.step token = st'.step token) (n : Node) :
    n.tokens.foldl BuildState.step st = n.tokens.foldl BuildState.step st' := by
  obtain ⟨token, rest, htokens, hclose⟩ := n.exists_tokens_eq_cons
  rw [htokens, List.foldl_cons, List.foldl_cons, h token hclose]

/-- Behind a comma in a list a value is built as a value below that list. -/
theorem foldl_listItem_tokens (n : Node) (items : List Node) (frames : List Frame) :
    n.tokens.foldl BuildState.step (.listItem items frames) =
      n.tokens.foldl BuildState.step (.value (.list items :: frames)) := by
  refine foldl_tokens_congr (fun token hclose => ?_) n
  cases token with
  | closeList => exact absurd rfl hclose
  | _ => rfl

/-- Behind the bracket of a list a value is built as a value below the empty list. -/
theorem foldl_listStart_tokens (n : Node) (frames : List Frame) :
    n.tokens.foldl BuildState.step (.listStart frames) =
      n.tokens.foldl BuildState.step (.value (.list [] :: frames)) := by
  refine foldl_tokens_congr (fun token hclose => ?_) n
  cases token with
  | closeList => exact absurd rfl hclose
  | _ => rfl

/-- The builder makes a value of some tokens, wherever a value may stand. -/
def Builds (n : Node) : Prop :=
  ∀ frames, n.tokens.foldl BuildState.step (.value frames) = plug n frames

/-- The tokens of items build the items, one after another. -/
theorem foldl_itemTokens {items : List Node} (h : ∀ item ∈ items, Builds item)
    (hitems : items ≠ []) (before : List Node) (frames : List Frame) :
    (Node.itemTokens items).foldl BuildState.step (.listItem before frames) =
      .afterItem (items.reverse ++ before) frames := by
  induction items generalizing before with
  | nil => exact absurd rfl hitems
  | cons item rest ih =>
    have hitem := h item (List.mem_cons_self ..) (.list before :: frames)
    cases rest with
    | nil =>
      unfold Node.itemTokens
      rw [foldl_listItem_tokens, hitem]
      rfl
    | cons next rest =>
      unfold Node.itemTokens
      rw [List.foldl_append, foldl_listItem_tokens, hitem, List.foldl_cons]
      show List.foldl BuildState.step (.listItem (item :: before) frames) _ = _
      rw [ih (fun other hother => h other (List.mem_cons_of_mem _ hother)) nofun]
      simp

/-- The tokens of a list build it, where those of its items build them. -/
theorem builds_list {items : List Node} (h : ∀ item ∈ items, Builds item) :
    Builds (.ofItems items) := by
  intro frames
  unfold Node.ofItems Node.tokens
  rw [List.cons_append, List.foldl_cons, List.foldl_append]
  show List.foldl _ (List.foldl BuildState.step (.listStart frames) _) _ = _
  cases items with
  | nil => rfl
  | cons item rest =>
    -- The first item stands where the list may still end; from then on only items may follow.
    have hfirst : (Node.itemTokens (item :: rest)).foldl BuildState.step (.listStart frames) =
        (Node.itemTokens (item :: rest)).foldl BuildState.step (.listItem [] frames) := by
      cases rest <;> unfold Node.itemTokens <;>
        simp only [List.foldl_append, foldl_listStart_tokens, foldl_listItem_tokens]
    rw [hfirst, foldl_itemTokens h nofun]
    simp [BuildState.step]

/-- The tokens of members build the members, one after another. -/
theorem foldl_memberTokens {members : List (StringLit × Node)}
    (h : ∀ member ∈ members, Builds member.2) (hmembers : members ≠ [])
    (before : List (StringLit × Node)) (frames : List Frame) :
    (Node.memberTokens members).foldl BuildState.step (.objectKey before frames) =
      .afterMember (members.reverse ++ before) frames := by
  induction members generalizing before with
  | nil => exact absurd rfl hmembers
  | cons member rest ih =>
    obtain ⟨key, value⟩ := member
    have hvalue := h _ (List.mem_cons_self ..) (.object before key :: frames)
    cases rest with
    | nil =>
      unfold Node.memberTokens
      rw [List.foldl_cons, List.foldl_cons]
      exact hvalue
    | cons next rest =>
      unfold Node.memberTokens
      rw [List.cons_append, List.foldl_cons, List.cons_append, List.foldl_cons, List.foldl_append]
      show List.foldl _ (List.foldl BuildState.step (.value (.object before key :: frames)) _) _ = _
      rw [hvalue, List.foldl_cons]
      show List.foldl BuildState.step (.objectKey ((key, value) :: before) frames) _ = _
      rw [ih (fun other hother => h other (List.mem_cons_of_mem _ hother)) nofun]
      simp

/-- The tokens of an object build it, where those of its values build them. -/
theorem builds_object {members : List (StringLit × Node)}
    (h : ∀ member ∈ members, Builds member.2) : Builds (.object members .closed) := by
  intro frames
  unfold Node.tokens
  rw [List.cons_append, List.foldl_cons, List.foldl_append]
  show List.foldl _ (List.foldl BuildState.step (.objectStart frames) _) _ = _
  cases members with
  | nil => rfl
  | cons member rest =>
    have hfirst : (Node.memberTokens (member :: rest)).foldl BuildState.step (.objectStart frames) =
        (Node.memberTokens (member :: rest)).foldl BuildState.step (.objectKey [] frames) := by
      cases rest <;> unfold Node.memberTokens <;> rfl
    rw [hfirst, foldl_memberTokens h nofun]
    simp [BuildState.step]

/-- The tokens of a complete value build it. -/
theorem Node.Complete.builds {n : Node} (h : n.Complete) : Builds n := by
  induction h with
  | null | bool | number | string =>
    intro frames
    unfold Node.tokens
    rfl
  | list _ ih => exact builds_list ih
  | object _ _ ih => exact builds_object ih

/-- The tokens of a complete tree make that tree. -/
theorem Document.ofTokens_tokens {n : Node} (h : n.Complete) :
    Document.ofTokens n.tokens = ⟨n, false⟩ := by
  unfold Document.ofTokens
  rw [h.builds]
  rfl

/-! ### From the tree to the tokens -/

/-- The tokens of a list or object up to the value that is being read. -/
def Frame.tokens : Frame → List Token
  | .list items => .openList :: listedItems items.reverse
  | .object members key => .openObject :: listedMembers members.reverse ++ [.string key, .colon]

/-- The tokens of all lists and objects that are open. -/
def openTokens : List Frame → List Token
  | [] => []
  | frame :: frames => openTokens frames ++ frame.tokens

/-- What has been read of some tokens: all of them as parts of values that are complete or open, or
anything once they have left the grammar. -/
inductive BuildState.Reads : BuildState → List Token → Prop
  | value {frames : List Frame} : BuildState.Reads (.value frames) (openTokens frames)
  | listStart {frames : List Frame} :
      BuildState.Reads (.listStart frames) (openTokens (.list [] :: frames))
  | listItem {items : List Node} {frames : List Frame} :
      BuildState.Reads (.listItem items frames) (openTokens (.list items :: frames))
  | afterItem {n : Node} {items : List Node} {frames : List Frame} :
      BuildState.Reads (.afterItem (n :: items) frames)
        (openTokens (.list items :: frames) ++ n.tokens)
  | objectStart {frames : List Frame} :
      BuildState.Reads (.objectStart frames) (openTokens frames ++ [.openObject])
  | objectKey {members : List (StringLit × Node)} {frames : List Frame} :
      BuildState.Reads (.objectKey members frames)
        (openTokens frames ++ .openObject :: listedMembers members.reverse)
  | colon {members : List (StringLit × Node)} {key : StringLit} {frames : List Frame} :
      BuildState.Reads (.colon members key frames)
        (openTokens frames ++ .openObject :: listedMembers members.reverse ++ [.string key])
  | afterMember {key : StringLit} {n : Node} {members : List (StringLit × Node)}
      {frames : List Frame} :
      BuildState.Reads (.afterMember ((key, n) :: members) frames)
        (openTokens (.object members key :: frames) ++ n.tokens)
  | complete {root : Node} : BuildState.Reads (.complete root) root.tokens
  | ended {document : Document} {ts : List Token}
      (h : document.trailing = true ∨ ¬document.root.Complete) :
      BuildState.Reads (.over document) ts

/-- A list that breaks off is not complete. -/
theorem not_complete_list {items : List Node} {ending : ListEnd} (h : ending ≠ .closed) :
    ¬(Node.list items ending).Complete :=
  fun hcomplete => h (complete_list_iff.1 hcomplete).2

/-- An object that breaks off is not complete. -/
theorem not_complete_object {members : List (StringLit × Node)} {ending : ObjectEnd}
    (h : ending ≠ .closed) : ¬(Node.object members ending).Complete :=
  fun hcomplete => h (complete_object_iff.1 hcomplete).2

/-- What stands for nothing is not complete. -/
theorem not_complete_gap (g : Gap) : ¬(Node.gap g).Complete :=
  nofun

/-- A value that is put into its frames has been read from its tokens behind theirs. -/
theorem plug_reads (n : Node) (frames : List Frame) :
    (plug n frames).Reads (openTokens frames ++ n.tokens) := by
  cases frames with
  | nil => exact .complete
  | cons frame frames =>
    cases frame with
    | list items => exact .afterItem
    | object members key => exact .afterMember

/-- A list or object is complete only if all that it holds is. -/
theorem wrap_not_complete {n : Node} (h : ¬n.Complete) (frames : List Frame) :
    ¬(wrap n frames).Complete := by
  induction frames generalizing n with
  | nil => exact h
  | cons frame frames ih =>
    cases frame with
    | list items => exact ih (not_complete_list (by decide))
    | object members key => exact ih (not_complete_object (by decide))

/-- A value that broke off may have been read from any tokens. -/
theorem leave_reads {n : Node} (h : ¬n.Complete) (frames : List Frame) (ts : List Token) :
    (leave n frames).Reads ts :=
  .ended (.inr (wrap_not_complete h frames))

/-- A token where a value is expected has been read behind the tokens of the frames. -/
theorem valueToken_reads (token : Token) (frames : List Frame) :
    (valueToken token frames).Reads (openTokens frames ++ [token]) := by
  cases token with
  | null =>
    rw [← Node.tokens_null]
    exact plug_reads .null frames
  | bool b =>
    rw [← Node.tokens_bool]
    exact plug_reads (.bool b) frames
  | number lit =>
    rw [← Node.tokens_number]
    exact plug_reads (.number lit) frames
  | string s =>
    rw [← Node.tokens_string]
    exact plug_reads (.string s) frames
  | openList => exact .listStart
  | openObject => exact .objectStart
  | broken | closeList | closeObject | comma | colon =>
    exact leave_reads (not_complete_gap _) frames _

/-- A list that is closed has been read from its bracketed items. -/
theorem closeList_reads (items : List Node) (frames : List Frame) :
    (plug (.list items .closed) frames).Reads
      (openTokens frames ++ .openList :: Node.itemTokens items ++ [.closeList]) := by
  simpa [Node.tokens_list] using plug_reads (.list items .closed) frames

/-- An object that is closed has been read from its members between braces. -/
theorem closeObject_reads (members : List (StringLit × Node)) (frames : List Frame) :
    (plug (.object members .closed) frames).Reads
      (openTokens frames ++ .openObject :: Node.memberTokens members ++ [.closeObject]) := by
  simpa [Node.tokens_object] using plug_reads (.object members .closed) frames

/-- What the builder has read grows by the token that it takes. -/
theorem BuildState.Reads.step {st : BuildState} {ts : List Token} (h : st.Reads ts)
    (token : Token) : (st.step token).Reads (ts ++ [token]) := by
  cases h with
  | value => exact valueToken_reads token _
  | @listStart frames =>
    simp only [BuildState.step]
    split
    · have hclose := closeList_reads [] frames
      unfold Node.itemTokens at hclose
      exact hclose
    · exact valueToken_reads token _
  | listItem =>
    simp only [BuildState.step]
    split
    · exact leave_reads (not_complete_list (by decide)) _ _
    · exact valueToken_reads token _
  | @afterItem n items frames =>
    simp only [BuildState.step]
    split
    · have hcomma : openTokens (.list items :: frames) ++ n.tokens ++ [.comma] =
          openTokens (.list (n :: items) :: frames) := by
        simp [openTokens, Frame.tokens, listedItems]
      rw [hcomma]
      exact .listItem
    · have hclose := closeList_reads (n :: items).reverse frames
      rw [List.reverse_cons, itemTokens_concat] at hclose
      simpa [openTokens, Frame.tokens] using hclose
    · exact leave_reads (not_complete_list (by decide)) _ _
  | @objectStart frames =>
    simp only [BuildState.step]
    split
    · have hclose := closeObject_reads [] frames
      unfold Node.memberTokens at hclose
      exact hclose
    · next key =>
      have hkey : BuildState.Reads (.colon [] key frames)
          (openTokens frames ++ [.openObject] ++ [.string key]) := .colon
      exact hkey
    · exact leave_reads (not_complete_object (by decide)) _ _
  | objectKey =>
    simp only [BuildState.step]
    split
    · exact leave_reads (not_complete_object (by decide)) _ _
    · exact .colon
    · exact leave_reads (not_complete_object (by decide)) _ _
  | @colon members key frames =>
    simp only [BuildState.step]
    split
    · have hcolon : openTokens frames ++ .openObject :: listedMembers members.reverse ++
          [.string key] ++ [.colon] = openTokens (.object members key :: frames) := by
        simp [openTokens, Frame.tokens]
      rw [hcolon]
      exact .value
    · exact leave_reads (not_complete_gap _) _ _
  | @afterMember key n members frames =>
    simp only [BuildState.step]
    split
    · have hcomma : openTokens (.object members key :: frames) ++ n.tokens ++ [.comma] =
          openTokens frames ++ .openObject :: listedMembers ((key, n) :: members).reverse := by
        simp [openTokens, Frame.tokens, listedMembers]
      rw [hcomma]
      exact .objectKey
    · have hclose := closeObject_reads ((key, n) :: members).reverse frames
      rw [List.reverse_cons, memberTokens_concat] at hclose
      simpa [openTokens, Frame.tokens] using hclose
    · exact leave_reads (not_complete_object (by decide)) _ _
  | complete => exact .ended (.inl rfl)
  | ended h => exact .ended h

/-- A builder that has taken some tokens has read them. -/
theorem reads_foldl_tokens (ts : List Token) : (ts.foldl BuildState.step (.value [])).Reads ts := by
  induction ts using List.reverseRecOn with
  | nil => exact .value
  | append_singleton ts token ih =>
    rw [List.foldl_append]
    exact ih.step token

/-- A complete tree is made of its own tokens. -/
theorem tokens_of_ofTokens {ts : List Token} {n : Node} (h : Document.ofTokens ts = ⟨n, false⟩)
    (hcomplete : n.Complete) : ts = n.tokens := by
  have hreads := reads_foldl_tokens ts
  unfold Document.ofTokens at h
  generalize ts.foldl BuildState.step (.value []) = st at h hreads
  cases hreads with
  | complete =>
    cases h
    rfl
  | ended hended =>
    cases h
    exact absurd hcomplete (hended.resolve_left nofun)
  | value | colon =>
    cases h
    exact absurd hcomplete (wrap_not_complete (not_complete_gap _) _)
  | listStart | listItem | afterItem =>
    cases h
    exact absurd hcomplete (wrap_not_complete (not_complete_list (by decide)) _)
  | objectStart | objectKey | afterMember =>
    cases h
    exact absurd hcomplete (wrap_not_complete (not_complete_object (by decide)) _)

/-- A text spells a complete tree if and only if it is read as that tree. -/
theorem spelledBy_iff {n : Node} {text : String} :
    n.SpelledBy text ↔ n.Complete ∧ Document.ofString text = ⟨n, false⟩ := by
  unfold Document.ofString Document.ofChars
  constructor
  · rintro ⟨hcomplete, hlexed⟩
    rw [tokens_of_lexed hlexed hcomplete.apart]
    exact ⟨hcomplete, Document.ofTokens_tokens hcomplete⟩
  · rintro ⟨hcomplete, hread⟩
    have htokens := tokens_of_ofTokens hread hcomplete
    refine ⟨hcomplete, ?_⟩
    rw [← htokens]
    refine lexed_tokens ?_
    rw [htokens]
    exact hcomplete.whole

end BucketLifecycle.Json
