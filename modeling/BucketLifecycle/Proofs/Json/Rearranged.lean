import BucketLifecycle.Proofs.Json.Members

/-!
# Records that are rearranged

Of a record's text one may change the order of its members, put members among them that no field
asks for, and change the value of a field in a way that does not matter to its decoder.
`Rearranged` says what may be done to a record, given what may be done to the values of its fields;
it is the same for all records, and so is the reason why the record that is read stays the same
(`Rearranged.exists_takenFrom`).
-/

set_option autoImplicit false

namespace BucketLifecycle.Json

/-- The decoder reads the same from an altered value. -/
def Respects {α : Type} (alters : Node → Node → Prop) (d : Decoder α) : Prop :=
  ∀ v w a, alters v w → d v = .ok a → d w = .ok a

/-- A member that is left as it is, or has its value altered as its field allows. -/
def KeptAs (checks : List FieldCheck) (alters : String → Node → Node → Prop)
    (m m' : StringLit × Node) : Prop :=
  m'.1 = m.1 ∧
    (m'.2 = m.2 ∨ ∃ f ∈ checks, m.1.text = .ok f.name ∧ alters f.name m.2 m'.2)

/-- A member that no field asks for. -/
structure Unasked (checks : List FieldCheck) (m : StringLit × Node) : Prop where
  name : ∃ name, m.1.text = .ok name ∧ ∀ f ∈ checks, f.name ≠ name
  complete : m.2.Complete

/-- Items that are left as they are, or altered as the field at their place allows. -/
structure PlacesKept (checks : List FieldCheck) (alters : String → Node → Node → Prop)
    (items items' : List Node) : Prop where
  length_eq : items'.length = items.length
  kept : ∀ (i : Nat) (v w : Node), items[i]? = some v → items'[i]? = some w →
    w = v ∨ ∃ f : FieldCheck, checks[i]? = some f ∧ alters f.name v w

/-- A record with the values of its fields altered; where it is an object, with other members among
its own ones and all of them in any order. -/
inductive Rearranged (checks : List FieldCheck) (alters : String → Node → Node → Prop) :
    Node → Node → Prop
  | object {members kept added members' : List (StringLit × Node)}
      (hkept : List.Forall₂ (KeptAs checks alters) members kept)
      (hadded : ∀ m ∈ added, Unasked checks m) (hperm : (kept ++ added).Perm members') :
      Rearranged checks alters (.object members .closed) (.object members' .closed)
  | list {items items' : List Node} (hitems : PlacesKept checks alters items items') :
      Rearranged checks alters (.list items .closed) (.list items' .closed)

/-- A list with some of its items altered. -/
def ItemsAltered (alters : Node → Node → Prop) (v w : Node) : Prop :=
  ∃ items items', v = .list items .closed ∧ w = .list items' .closed ∧
    List.Forall₂ (fun item item' => item' = item ∨ alters item item') items items'

section

variable {checks : List FieldCheck} {alters : String → Node → Node → Prop}

/-- A member is kept as itself. -/
theorem keptAs_self (m : StringLit × Node) : KeptAs checks alters m m :=
  ⟨rfl, .inl rfl⟩

/-- A member of a field is kept where its value is altered as the field allows. -/
theorem keptAs_altered {name : String} {v w : Node} (hname : ∃ f ∈ checks, f.name = name)
    (haltered : alters name v w) :
    KeptAs checks alters (.ofString name, v) (.ofString name, w) := by
  obtain ⟨f, hf, rfl⟩ := hname
  exact ⟨rfl, .inr ⟨f, hf, StringLit.text_ofString _, haltered⟩⟩

/-- A complete value under a name that no field has is not asked for. -/
theorem unasked_ofString {name : String} {v : Node} (hname : ∀ f ∈ checks, f.name ≠ name)
    (hv : v.Complete) : Unasked checks (.ofString name, v) :=
  ⟨⟨name, StringLit.text_ofString _, hname⟩, hv⟩

/-- A list is read as before where some of its items are altered as its decoder allows. -/
theorem respects_list {α : Type} {alters : Node → Node → Prop} {d : Decoder α}
    (h : Respects alters d) : Respects (ItemsAltered alters) (Decoder.list d) := by
  have hitems {items items' : List Node} {as : List α}
      (haltered : List.Forall₂ (fun item item' => item' = item ∨ alters item item') items items')
      (hread : Decoder.items d items = .ok as) : Decoder.items d items' = .ok as := by
    induction haltered generalizing as with
    | nil => exact hread
    | @cons item item' rest rest' hitem _ ih =>
      obtain ⟨a, ha, hrest⟩ := exists_of_bind_eq_ok hread
      obtain ⟨later, hlater, hlist⟩ := exists_of_bind_eq_ok hrest
      have ha' : d item' = .ok a := by
        rcases hitem with rfl | hitem
        · exact ha
        · exact h _ _ _ hitem ha
      rw [Decoder.items, ha', ih hlater]
      exact hlist
  rintro _ _ as ⟨items, items', rfl, rfl, haltered⟩ hread
  obtain ⟨read, hread, hlist⟩ := exists_of_bind_eq_ok hread
  rw [Decoder.list, hitems haltered hread]
  exact hlist

/-! ### Objects -/

/-- What a record accepts, it accepts altered. -/
theorem KeptAs.accepts {m m' : StringLit × Node} (h : KeptAs checks alters m m')
    (halters : ∀ f ∈ checks, ∀ v w, alters f.name v w → f.check v = .ok () → f.check w = .ok ())
    (haccepts : Accepts checks m) : Accepts checks m' := by
  obtain ⟨key, v⟩ := m
  obtain ⟨key', w⟩ := m'
  obtain ⟨hsame, hvalue⟩ := h
  dsimp only at hsame hvalue
  subst hsame
  cases haccepts with
  | @field _ _ name f hkey hfind hcheck =>
    refine .field hkey hfind ?_
    rcases hvalue with rfl | ⟨g, -, hname, haltered⟩
    · exact hcheck
    · have hsame : g.name = f.name := by
        have hf : f.name = name := by simpa using List.find?_some hfind
        rw [hf, ← Except.ok.inj (hkey.symm.trans hname)]
      exact halters f (List.mem_of_find?_eq_some hfind) _ _ (hsame ▸ haltered) hcheck
  | other hkey hfind hcomplete =>
    refine .other hkey hfind ?_
    rcases hvalue with rfl | ⟨g, hg, hname, -⟩
    · exact hcomplete
    · exact absurd hname (name_ne_of_find?_eq_none hkey hfind g hg)

/-- Members that are kept have the names that they had, each field once. -/
theorem distinct_keptAs {members kept : List (StringLit × Node)}
    (hkept : List.Forall₂ (KeptAs checks alters) members kept)
    (h : members.Pairwise (Distinct checks)) : kept.Pairwise (Distinct checks) := by
  induction hkept with
  | nil => exact .nil
  | @cons m m' rest rest' hfirst hrest ih =>
    obtain ⟨hm, hmembers⟩ := List.pairwise_cons.1 h
    refine List.pairwise_cons.2 ⟨fun n' hn' => ?_, ih hmembers⟩
    obtain ⟨n, hn, hkey, -⟩ := (exists_of_forall₂ hrest).2 n' hn'
    unfold Distinct
    rw [hfirst.1, hkey]
    exact hm n hn

/-- Members that are kept are as admissible as before, where altered values still pass. -/
theorem Admissible.keptAs {members kept : List (StringLit × Node)} (h : Admissible checks members)
    (hkept : List.Forall₂ (KeptAs checks alters) members kept)
    (halters : ∀ f ∈ checks, ∀ v w, alters f.name v w → f.check v = .ok () → f.check w = .ok ()) :
    Admissible checks kept where
  accepts m' hm' := by
    obtain ⟨m, hm, hmember⟩ := (exists_of_forall₂ hkept).2 m' hm'
    exact hmember.accepts halters (h.accepts m hm)
  distinct := distinct_keptAs hkept h.distinct

/-- Members that no field asks for may be added. -/
theorem Admissible.append_unasked {members added : List (StringLit × Node)}
    (h : Admissible checks members) (hadded : ∀ m ∈ added, Unasked checks m) :
    Admissible checks (members ++ added) := by
  refine Admissible.perm ?_ List.perm_append_comm
  induction added with
  | nil => exact h
  | cons m rest ih =>
    obtain ⟨⟨⟨name, hname, hother⟩, hcomplete⟩, hrest⟩ := List.forall_mem_cons.1 hadded
    have hfind : (checks.find? fun f => f.name == name) = none := by
      simpa using hother
    exact (admissible_cons_other hname hfind).2 ⟨hcomplete, ih hrest⟩

/-! ### Fields -/

/-- An altered value passes the check of its field as before. -/
theorem Respects.check {α : Type} {f : RecordField α} (h : Respects (alters f.name) f.decode)
    (v w : Node) (haltered : alters f.toCheck.name v w) (hcheck : f.toCheck.check v = .ok ()) :
    f.toCheck.check w = .ok () := by
  obtain ⟨a, ha⟩ := check_eq_ok_iff.1 hcheck
  exact check_eq_ok_iff.2 ⟨a, h v w a haltered ha⟩

/-- Each field whose decoder respects what may be done to its value is read alike. -/
def Follows (checks : List FieldCheck) (alters : String → Node → Node → Prop)
    (fields fields' : Fields) : Prop :=
  ∀ {α : Type} (f : RecordField α), checks[f.place]? = some f.toCheck →
    Respects (alters f.name) f.decode → ∀ a, fields.get f = .ok a → fields'.get f = .ok a

/-- What a record takes from rearranged members follows what it took before. -/
theorem follows_byName {members kept added members' : List (StringLit × Node)}
    (hkept : List.Forall₂ (KeptAs checks alters) members kept)
    (hadded : ∀ m ∈ added, Unasked checks m) (hperm : (kept ++ added).Perm members')
    (hmembers' : Admissible checks members') :
    Follows checks alters (.byName members) (.byName members') := by
  intro α f hplace hrespects a h
  have hf : f.toCheck ∈ checks := List.mem_of_getElem? hplace
  rcases get_byName_eq_ok h with ⟨v, hfind, hdecode⟩ | ⟨hfind, habsent⟩
  · obtain ⟨key, hmem, hkey⟩ := hasMember_of_findMember hfind
    obtain ⟨⟨key', w⟩, hmem', rfl, hvalue⟩ := (exists_of_forall₂ hkept).1 _ hmem
    have hfind' : findMember f.name members' = some w :=
      (findMember_eq_some_iff hmembers'.distinct hf).2
        ⟨_, hperm.mem_iff.1 (List.mem_append_left _ hmem'), hkey⟩
    have hdecode' : f.decode w = .ok a := by
      rcases hvalue with rfl | ⟨g, -, hname, haltered⟩
      · exact hdecode
      · have hsame : f.name = g.name := Except.ok.inj (hkey.symm.trans hname)
        exact hrespects v w a (hsame ▸ haltered) hdecode
    simp only [Fields.get, hfind', hdecode']
  · have hfind' : findMember f.name members' = none := by
      refine findMember_eq_none_iff.2 fun m' hm' hname => ?_
      rcases List.mem_append.1 (hperm.mem_iff.2 hm') with hm' | hm'
      · obtain ⟨m, hm, hkey, -⟩ := (exists_of_forall₂ hkept).2 m' hm'
        exact findMember_eq_none_iff.1 hfind m hm (hkey ▸ hname)
      · obtain ⟨other, hother, hne⟩ := (hadded m' hm').name
        exact hne f.toCheck hf (Except.ok.inj (hname.symm.trans hother))
    simp only [Fields.get, hfind', habsent]

/-- What a record takes from altered items follows what it took before. -/
theorem follows_byPlace {items items' : List Node} {expected : String}
    (hitems : PlacesKept checks alters items items') :
    Follows checks alters (.byPlace items .closed expected) (.byPlace items' .closed expected) := by
  intro α f hplace hrespects a h
  unfold Fields.get at h ⊢
  dsimp only at h ⊢
  split at h
  · next v hv =>
    have hbound : f.place < items'.length := by
      rw [hitems.length_eq]
      exact (List.getElem?_eq_some_iff.1 hv).1
    have hw : items'[f.place]? = some items'[f.place] := List.getElem?_eq_getElem hbound
    rw [hw]
    rcases hitems.kept _ _ _ hv hw with hsame | ⟨g, hg, haltered⟩
    · rw [hsame]
      exact h
    · cases hplace.symm.trans hg
      exact hrespects _ _ _ haltered h
  · next hnone =>
    have hbound : items'.length ≤ f.place := by
      rw [hitems.length_eq]
      exact List.getElem?_eq_none_iff.1 hnone
    rw [List.getElem?_eq_none_iff.2 hbound]
    exact h

/-- What a record is read from may be rearranged. -/
theorem Rearranged.exists_takenFrom {record : String} {n n' : Node} {fields : Fields}
    (h : Rearranged checks alters n n')
    (halters : ∀ f ∈ checks, ∀ v w, alters f.name v w → f.check v = .ok () → f.check w = .ok ())
    (htaken : TakenFrom record checks n fields) :
    ∃ fields', TakenFrom record checks n' fields' ∧ Follows checks alters fields fields' := by
  cases h with
  | object hkept hadded hperm =>
    cases htaken with
    | object hmembers =>
      have hmembers' := ((hmembers.keptAs hkept halters).append_unasked hadded).perm hperm
      exact ⟨_, .object hmembers', follows_byName hkept hadded hperm hmembers'⟩
  | list hitems =>
    cases htaken with
    | list hexpected hfinish =>
      refine ⟨_, .list hexpected ?_, follows_byPlace hitems⟩
      rwa [Fields.finish, hitems.length_eq]

end

end BucketLifecycle.Json
