import BucketLifecycle.Toml.Reader
import Mathlib.Data.List.Nodup

/-!
# Keys of TOML tables

A document gives each key once.  `Value.Distinct` says so of a table and of the tables that its keys
lead to; a statement of a document keeps it (`distinct_add`), a value that is read has it
(`distinct_value`), and so has the table of a whole document (`distinct_read`).  Lists are not
looked into.
-/

set_option autoImplicit false

namespace BucketLifecycle.Toml

open Text (Reader)

/-- No key is given twice in a table, nor in the tables that its keys lead to. -/
inductive Value.Distinct : Value → Prop where
  | table {kind : TableKind} {ms : Members} (hkeys : (ms.map Prod.fst).Nodup)
      (hvalues : ∀ m ∈ ms, Value.Distinct m.2) : Value.Distinct (.table kind ms)
  | other {v : Value} (h : ∀ kind ms, v ≠ .table kind ms) : Value.Distinct v

/-- Members under different keys, whose values have this too. -/
structure Members.Distinct (ms : Members) : Prop where
  keys : (ms.map Prod.fst).Nodup
  values : ∀ m ∈ ms, m.2.Distinct

/-- A table has distinct keys when its members have. -/
theorem Value.distinct_table_iff {kind : TableKind} {ms : Members} :
    (Value.table kind ms).Distinct ↔ ms.Distinct := by
  constructor
  · intro h
    cases h with
    | table hkeys hvalues => exact ⟨hkeys, hvalues⟩
    | other h => exact absurd rfl (h kind ms)
  · exact fun h => .table h.keys h.values

namespace Members.Distinct

variable {ms : Members} {key : String} {v : Value}

/-- No members have no key twice. -/
theorem nil : Members.Distinct [] :=
  ⟨List.nodup_nil, fun _ hm => absurd hm List.not_mem_nil⟩

/-- What a key leads to has distinct keys. -/
theorem of_lookup (h : ms.Distinct) (hlookup : ms.lookup key = some v) : v.Distinct := by
  obtain ⟨before, after, rfl, -⟩ := List.lookup_eq_some_iff.1 hlookup
  exact h.values (key, v) (by simp)

/-- A member under a new key keeps keys distinct. -/
theorem append (h : ms.Distinct) (hnew : ms.lookup key = none) (hv : v.Distinct) :
    Members.Distinct (ms ++ [(key, v)]) := by
  constructor
  · have habsent := List.lookup_eq_none_iff.1 hnew
    rw [List.map_append, List.nodup_append]
    refine ⟨h.keys, List.nodup_singleton _, ?_⟩
    intro k hk k' hk' heq
    obtain ⟨m, hm, rfl⟩ := List.mem_map.1 hk
    have hkey : k' = key := List.mem_singleton.1 hk'
    have hne := habsent m hm
    simp [heq, hkey] at hne
  · intro m hm
    rcases List.mem_append.1 hm with hm | hm
    · exact h.values m hm
    · rw [List.mem_singleton.1 hm]
      exact hv

/-- Another value under the same key keeps keys distinct. -/
theorem replace (h : ms.Distinct) (hv : v.Distinct) : (ms.replace key v).Distinct := by
  have hkept : (ms.replace key v).map Prod.fst = ms.map Prod.fst := by
    unfold Members.replace
    rw [List.map_map]
    refine List.map_congr_left fun m _ => ?_
    by_cases hkey : m.1 = key <;> simp [hkey]
  constructor
  · rw [hkept]
    exact h.keys
  · intro m hm
    obtain ⟨m', hm', rfl⟩ := List.mem_map.1 hm
    split
    · exact hv
    · exact h.values m' hm'

end Members.Distinct

/-- A change at the end of a path keeps keys distinct if it does so where it is made. -/
theorem distinct_modifyAt {dotted : Bool} {change : TableKind → Members → Option Members}
    (hchange : ∀ kind ms ms', ms.Distinct → change kind ms = some ms' → ms'.Distinct)
    (path : List String) {kind : TableKind} {ms ms' : Members} (hms : ms.Distinct)
    (h : modifyAt dotted change path kind ms = some ms') : ms'.Distinct := by
  induction path generalizing kind ms ms' with
  | nil => exact hchange kind ms ms' hms h
  | cons key path ih =>
    unfold modifyAt at h
    split at h
    · next hnew =>
      obtain ⟨sub, hsub, h⟩ := Option.bind_eq_some_iff.1 h
      cases h
      exact hms.append hnew (Value.distinct_table_iff.2 (ih .nil hsub))
    · next kind' sub hlookup =>
      split at h
      · cases h
      · obtain ⟨sub', hsub, h⟩ := Option.bind_eq_some_iff.1 h
        cases h
        have hold := Value.distinct_table_iff.1 (hms.of_lookup hlookup)
        exact hms.replace (Value.distinct_table_iff.2 (ih hold hsub))
    · obtain ⟨last, -, h⟩ := Option.bind_eq_some_iff.1 h
      obtain ⟨sub', -, h⟩ := Option.bind_eq_some_iff.1 h
      cases h
      exact hms.replace (.other fun _ _ => nofun)
    · cases h

/-- An assignment keeps keys distinct. -/
theorem distinct_assign {path : List String} {key : String} {v : Value} (hv : v.Distinct)
    {kind : TableKind} {ms ms' : Members} (hms : ms.Distinct)
    (h : assign path key v kind ms = some ms') : ms'.Distinct := by
  refine distinct_modifyAt (fun kind' sub sub' hsub hadded => ?_) path hms h
  split at hadded
  · cases hadded
  · next hfree =>
    cases hadded
    have hnew : sub.lookup key = none := by
      rw [not_or, Option.not_isSome_iff_eq_none] at hfree
      exact hfree.2
    exact hsub.append hnew hv

/-- The header of a table keeps keys distinct. -/
theorem distinct_define {key : String} {kind : TableKind} {ms ms' : Members} (hms : ms.Distinct)
    (h : define key kind ms = some ms') : ms'.Distinct := by
  unfold define at h
  split at h
  · next hnew =>
    cases h
    exact hms.append hnew (Value.distinct_table_iff.2 .nil)
  · next sub hlookup =>
    cases h
    exact hms.replace
      (Value.distinct_table_iff.2 (Value.distinct_table_iff.1 (hms.of_lookup hlookup)))
  · cases h

/-- The header of an item of a list keeps keys distinct. -/
theorem distinct_defineItem {key : String} {kind : TableKind} {ms ms' : Members}
    (hms : ms.Distinct) (h : defineItem key kind ms = some ms') : ms'.Distinct := by
  unfold defineItem at h
  split at h
  · next hnew =>
    cases h
    exact hms.append hnew (.other fun _ _ => nofun)
  · cases h
    exact hms.replace (.other fun _ _ => nofun)
  · cases h

/-- The value that a statement gives, if it gives one, has distinct keys. -/
def Statement.Distinct : Statement → Prop
  | .assign _ _ v => v.Distinct
  | .header _ _ => True
  | .itemHeader _ _ => True

/-- A statement keeps the keys of a document distinct. -/
theorem distinct_add {d d' : Draft} {s : Statement} (hd : d.root.Distinct) (hs : s.Distinct)
    (h : d.add s = some d') : d'.root.Distinct := by
  cases s with
  | assign path key v =>
    obtain ⟨root, hroot, h⟩ := Option.bind_eq_some_iff.1 h
    cases h
    exact distinct_modifyAt (fun _ _ _ hms => distinct_assign hs hms) d.current hd hroot
  | header path key =>
    obtain ⟨root, hroot, h⟩ := Option.bind_eq_some_iff.1 h
    cases h
    exact distinct_modifyAt (fun _ _ _ hms => distinct_define hms) path hd hroot
  | itemHeader path key =>
    obtain ⟨root, hroot, h⟩ := Option.bind_eq_some_iff.1 h
    cases h
    exact distinct_modifyAt (fun _ _ _ hms => distinct_defineItem hms) path hd hroot

/-- Statements with distinct keys make up a table with distinct keys. -/
theorem distinct_ofStatements {ss : List Statement} {ms : Members} (hss : ∀ s ∈ ss, s.Distinct)
    (h : Members.ofStatements ss = some ms) : ms.Distinct := by
  obtain ⟨d, hd, rfl⟩ := Option.map_eq_some_iff.1 h
  clear h
  -- The induction is along the statements, for any document with distinct keys to begin with.
  suffices hkept : ∀ (d₀ : Draft), d₀.root.Distinct → ss.foldlM Draft.add d₀ = some d →
      d.root.Distinct from hkept ⟨[], []⟩ .nil hd
  clear hd
  induction ss with
  | nil =>
    rintro d₀ hd₀ ⟨⟩
    exact hd₀
  | cons s ss ih =>
    intro d₀ hd₀ hfold
    obtain ⟨hs, hss⟩ := List.forall_mem_cons.1 hss
    rw [List.foldlM_cons] at hfold
    obtain ⟨d₁, hadd, hrest⟩ := Option.bind_eq_some_iff.1 hfold
    exact ih hss d₁ (distinct_add hd₀ hs hadd) hrest

/-- A reader all of whose values have distinct keys. -/
def ReadsDistinct (item : Reader Value) : Prop :=
  ∀ cs v rest, item cs = some (v, rest) → v.Distinct

/-- The value of an assignment is one that its reader gives. -/
theorem distinct_assignment {item : Reader Value} (hitem : ReadsDistinct item) {cs rest : List Char}
    {key : List String × String} {v : Value} (h : assignment item cs = some ((key, v), rest)) :
    v.Distinct := by
  unfold assignment at h
  obtain ⟨⟨key', rest'⟩, -, h⟩ := Option.bind_eq_some_iff.1 h
  obtain ⟨rest₂, -, h⟩ := Option.bind_eq_some_iff.1 h
  obtain ⟨⟨v', rest₃⟩, hv, h⟩ := Option.bind_eq_some_iff.1 h
  cases h
  exact hitem _ _ _ hv

/-- Members between braces are read with distinct keys. -/
theorem distinct_inlineMembers {item : Reader Value} (hitem : ReadsDistinct item) (fuel : Nat)
    {ms ms' : Members} {cs rest : List Char} (hms : ms.Distinct)
    (h : inlineMembers item fuel ms cs = some (ms', rest)) : ms'.Distinct := by
  induction fuel generalizing ms cs with
  | zero => cases h
  | succ fuel ih =>
    unfold inlineMembers at h
    obtain ⟨⟨⟨⟨path, key⟩, v⟩, behind⟩, hassignment, h⟩ := Option.bind_eq_some_iff.1 h
    obtain ⟨ms₁, hassign, h⟩ := Option.bind_eq_some_iff.1 h
    have hms₁ := distinct_assign (distinct_assignment hitem hassignment) hms hassign
    split at h
    · exact ih hms₁ h
    · cases h
      exact hms₁
    · cases h

/-- A word is not a table. -/
theorem wordValue_ne_table (cs : List Char) (kind : TableKind) (ms : Members) :
    wordValue cs ≠ some (.table kind ms) := by
  unfold wordValue
  split
  · nofun
  split
  · nofun
  · simp [Option.or_eq_some_iff]

/-- Scalars have no keys. -/
theorem readsDistinct_scalar : ReadsDistinct scalar := by
  intro cs v rest h
  obtain ⟨w, hw, h⟩ := Option.map_eq_some_iff.1 h
  obtain ⟨rfl, -⟩ := Prod.mk.inj h
  exact .other fun kind ms hv => wordValue_ne_table _ kind ms (hv ▸ hw)

/-- What is read as something else than a table and then made a value has distinct keys. -/
theorem distinct_of_map {α : Type} (f : α → Value) (hf : ∀ a kind ms, f a ≠ .table kind ms)
    {read : Option (α × List Char)} {v : Value} {rest : List Char}
    (h : (read.map fun p => (f p.1, p.2)) = some (v, rest)) : v.Distinct := by
  obtain ⟨⟨a, rest'⟩, -, h⟩ := Option.map_eq_some_iff.1 h
  cases h
  exact .other (hf a)

/-- Values with room for some depth have distinct keys if those with less room have. -/
theorem readsDistinct_value_of_inner {room : Nat}
    (hinner : ∀ inner, room = inner + 1 → ReadsDistinct (value inner)) :
    ReadsDistinct (value room) := by
  intro cs v rest h
  rw [value.eq_def] at h
  dsimp only at h
  split at h
  · exact distinct_of_map (fun text => .string (String.ofList text)) (fun _ _ _ => nofun) h
  · exact distinct_of_map (fun text => .string (String.ofList text)) (fun _ _ _ => nofun) h
  · split at h
    · cases h
    · exact distinct_of_map Value.array (fun _ _ _ => nofun) h
  · split at h
    · cases h
    · next inner =>
      split at h
      · cases h
        exact Value.distinct_table_iff.2 .nil
      · obtain ⟨⟨ms, rest'⟩, hms, h⟩ := Option.map_eq_some_iff.1 h
        cases h
        exact Value.distinct_table_iff.2 (distinct_inlineMembers (hinner inner rfl) _ .nil hms)
  · exact readsDistinct_scalar _ _ _ h

/-- Values are read with distinct keys, however deep they may go. -/
theorem readsDistinct_value (room : Nat) : ReadsDistinct (value room) := by
  induction room with
  | zero => exact readsDistinct_value_of_inner nofun
  | succ room ih =>
    refine readsDistinct_value_of_inner fun inner hinner => ?_
    obtain rfl := Nat.succ.inj hinner
    exact ih

/-- A header is a statement with distinct keys. -/
theorem distinct_header {cs rest : List Char} {s : Statement} (h : header cs = some (s, rest)) :
    s.Distinct := by
  unfold header at h
  split at h
  · obtain ⟨⟨key, _⟩, -, h⟩ := Option.bind_eq_some_iff.1 h
    obtain ⟨_, -, h⟩ := Option.bind_eq_some_iff.1 h
    obtain ⟨_, -, h⟩ := Option.bind_eq_some_iff.1 h
    cases h
    trivial
  · obtain ⟨⟨key, _⟩, -, h⟩ := Option.bind_eq_some_iff.1 h
    obtain ⟨_, -, h⟩ := Option.bind_eq_some_iff.1 h
    cases h
    trivial

/-- A statement is read with distinct keys. -/
theorem distinct_statement {cs rest : List Char} {s : Statement}
    (h : statement cs = some (some s, rest)) : s.Distinct := by
  unfold statement at h
  split at h
  · cases h
  · cases h
  · cases h
  · cases h
  · obtain ⟨⟨s', _⟩, hs, h⟩ := Option.map_eq_some_iff.1 h
    cases h
    exact distinct_header hs
  · obtain ⟨⟨⟨key, v⟩, _⟩, hv, h⟩ := Option.map_eq_some_iff.1 h
    cases h
    exact distinct_assignment (readsDistinct_value depthLimit) hv

/-- All statements of a document are read with distinct keys. -/
theorem distinct_statements (fuel : Nat) {cs : List Char} {ss : List Statement}
    (h : statements fuel cs = some ss) : ∀ s ∈ ss, s.Distinct := by
  induction fuel generalizing cs ss with
  | zero => cases h
  | succ fuel ih =>
    unfold statements at h
    obtain ⟨⟨first, rest⟩, hfirst, h⟩ := Option.bind_eq_some_iff.1 h
    have hone : ∀ s ∈ first.toList, s.Distinct := by
      intro s hs
      obtain rfl := Option.mem_toList.1 hs
      exact distinct_statement hfirst
    dsimp only at h
    split at h
    · cases h
      exact hone
    · obtain ⟨after, -, h⟩ := Option.bind_eq_some_iff.1 h
      obtain ⟨later, hlater, h⟩ := Option.bind_eq_some_iff.1 h
      cases h
      intro s hs
      exact (List.mem_append.1 hs).elim (hone s) (ih hlater s)

/-- Settling the values of members keeps the keys, and keeps them distinct. -/
theorem Members.distinct_settle {ms ms' : Members}
    (hvalues : ∀ m ∈ ms, ∀ w, m.2.settle = some w → w.Distinct)
    (h : settleMembers ms = some ms') :
    ms'.map Prod.fst = ms.map Prod.fst ∧ ∀ m ∈ ms', m.2.Distinct := by
  induction ms generalizing ms' with
  | nil =>
    unfold settleMembers at h
    cases h
    exact ⟨rfl, fun _ hm => absurd hm List.not_mem_nil⟩
  | cons m ms ih =>
    obtain ⟨key, v⟩ := m
    obtain ⟨hv, hvalues⟩ := List.forall_mem_cons.1 hvalues
    unfold settleMembers at h
    obtain ⟨w, hw, h⟩ := Option.bind_eq_some_iff.1 h
    obtain ⟨rest, hrest, h⟩ := Option.bind_eq_some_iff.1 h
    cases h
    obtain ⟨hkeys, hdistinct⟩ := ih hvalues hrest
    exact ⟨congrArg (key :: ·) hkeys, List.forall_mem_cons.2 ⟨hv w hw, hdistinct⟩⟩

/-- Settling a value makes a date of a table or leaves its keys in place. -/
theorem Value.distinct_settle {v w : Value} (hv : v.Distinct) (h : v.settle = some w) :
    w.Distinct := by
  induction hv generalizing w with
  | @table kind ms hkeys _ ih =>
    unfold Value.settle at h
    cases ms with
    | nil =>
      unfold settleTable at h
      cases h
      exact distinct_table_iff.2 .nil
    | cons m rest =>
      obtain ⟨key, v⟩ := m
      unfold settleTable at h
      split at h
      · split at h
        · obtain ⟨text, -, rfl⟩ := Option.map_eq_some_iff.1 h
          exact .other fun _ _ => nofun
        · cases h
      · have hmembers : ∃ ms', settleMembers ((key, v) :: rest) = some ms' ∧
            Value.table kind ms' = w := by
          obtain ⟨v', hv', h⟩ := Option.bind_eq_some_iff.1 h
          obtain ⟨rest', hrest', h⟩ := Option.bind_eq_some_iff.1 h
          cases h
          exact ⟨(key, v') :: rest', by simp [settleMembers, hv', hrest'], rfl⟩
        obtain ⟨ms', hms', rfl⟩ := hmembers
        obtain ⟨hkept, hdistinct⟩ := Members.distinct_settle (fun m hm w => ih m hm) hms'
        exact .table (hkept ▸ hkeys) hdistinct
  | @other v hother =>
    refine .other fun kind ms hw => ?_
    subst hw
    cases v with
    | table kind' ms' => exact hother kind' ms' rfl
    | array items | tables items =>
      unfold Value.settle at h
      obtain ⟨_, -, h⟩ := Option.map_eq_some_iff.1 h
      cases h
    | string _ | integer _ | floating _ | boolean _ | moment _ =>
      unfold Value.settle at h
      cases h

/-- A document gives each key once, at the top and wherever its keys lead. -/
theorem distinct_read {cs : List Char} {v : Value} (h : read cs = some v) : v.Distinct := by
  obtain ⟨ss, hss, h⟩ := Option.bind_eq_some_iff.1 h
  obtain ⟨ms, hms, h⟩ := Option.bind_eq_some_iff.1 h
  have hdistinct := distinct_ofStatements (distinct_statements _ hss) hms
  have hsettled : (Value.table .defined ms).settle = some v := by
    unfold Value.settle
    exact h
  exact Value.distinct_settle (Value.distinct_table_iff.2 hdistinct) hsettled

end BucketLifecycle.Toml
