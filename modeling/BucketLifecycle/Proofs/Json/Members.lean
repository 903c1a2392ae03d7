import BucketLifecycle.Proofs.Json.Meaning

/-!
# Members in any order

The first pass over an object walks over the members as they stand, and yet what it accepts does not
depend on their order: it accepts each member by itself, and no field twice
(`checkMembers_eq_ok_iff`).  A member that no field asks for is skipped, and any value that leaves
the grammar nowhere can be (`Node.skip_eq_ok_iff`).

A record is then taken from the members by their names, or from the items of a list by their places
(`TakenFrom`).
-/

set_option autoImplicit false

namespace BucketLifecycle.Json

/-! ### Values that are skipped -/

/-- Only a fault fails. -/
theorem orFail_eq_ok_iff {e : Option GrammarError} : orFail e = .ok () ↔ e = none := by
  cases e <;> simp [orFail]

/-- Only a closed string has no fault. -/
theorem StringEnd.error?_eq_none_iff {e : StringEnd} : e.error? = none ↔ e = .closed := by
  cases e <;> decide

/-- Only a closed list is skipped without a fault. -/
theorem ListEnd.skipping_eq_none_iff {e : ListEnd} : e.skipping = none ↔ e = .closed := by
  cases e <;> decide

/-- Only a closed list is read without a fault. -/
theorem ListEnd.reading_eq_none_iff {e : ListEnd} : e.reading = none ↔ e = .closed := by
  cases e <;> decide

/-- Only a closed list is finished without a fault. -/
theorem ListEnd.finishing_eq_none_iff {e : ListEnd} : e.finishing = none ↔ e = .closed := by
  cases e <;> decide

/-- Only a closed object is skipped without a fault. -/
theorem ObjectEnd.skipping_eq_none_iff {e : ObjectEnd} : e.skipping = none ↔ e = .closed := by
  cases e <;> decide

/-- Only a closed object is read without a fault. -/
theorem ObjectEnd.reading_eq_none_iff {e : ObjectEnd} : e.reading = none ↔ e = .closed := by
  cases e <;> decide

/-- A check and what follows it succeed where both do. -/
theorem bind_unit_eq_ok_iff {ε α : Type} {x : Except ε Unit} {y : Except ε α} {a : α} :
    (x >>= fun _ => y) = .ok a ↔ x = .ok () ∧ y = .ok a := by
  cases x with
  | error e => exact ⟨nofun, nofun⟩
  | ok u => exact ⟨fun h => ⟨rfl, h⟩, fun h => h.2⟩

/-- A fault of the grammar is one of the decoder, and nothing else changes. -/
theorem liftGrammar_eq_ok_iff {α : Type} {x : Except GrammarError α} {a : α} :
    liftGrammar x = .ok a ↔ x = .ok a := by
  cases x with
  | error e => exact ⟨nofun, nofun⟩
  | ok b => exact ⟨fun h => congrArg Except.ok (Except.ok.inj h),
      fun h => congrArg Except.ok (Except.ok.inj h)⟩

mutual

/-- A value can be skipped exactly where it is complete. -/
theorem Node.skip_eq_ok_iff : (n : Node) → (n.skip = .ok () ↔ n.Complete)
  | .null => ⟨fun _ => .null, fun _ => rfl⟩
  | .bool b => ⟨fun _ => .bool b, fun _ => rfl⟩
  | .number lit => ⟨fun _ => .number lit, fun _ => rfl⟩
  | .string s => by
    rw [Node.skip, orFail_eq_ok_iff, StringEnd.error?_eq_none_iff, complete_string_iff]
  | .list items ending => by
    rw [Node.skip, bind_unit_eq_ok_iff, skipItems_eq_ok_iff items, orFail_eq_ok_iff,
      ListEnd.skipping_eq_none_iff, complete_list_iff]
  | .object members ending => by
    rw [Node.skip, bind_unit_eq_ok_iff, skipMembers_eq_ok_iff members, orFail_eq_ok_iff,
      ObjectEnd.skipping_eq_none_iff, complete_object_iff]
  | .gap g => ⟨nofun, nofun⟩

/-- Items can be skipped exactly where each is complete. -/
theorem skipItems_eq_ok_iff : (items : List Node) →
    (Node.skipItems items = .ok () ↔ ∀ item ∈ items, item.Complete)
  | [] => ⟨fun _ => nofun, fun _ => rfl⟩
  | item :: rest => by
    rw [Node.skipItems, bind_unit_eq_ok_iff, Node.skip_eq_ok_iff item,
      skipItems_eq_ok_iff rest, List.forall_mem_cons]

/-- Members can be skipped exactly where each name and each value is complete. -/
theorem skipMembers_eq_ok_iff : (members : List (StringLit × Node)) →
    (Node.skipMembers members = .ok () ↔
      ∀ member ∈ members, member.1.ending = .closed ∧ member.2.Complete)
  | [] => ⟨fun _ => nofun, fun _ => rfl⟩
  | (key, value) :: rest => by
    rw [Node.skipMembers, bind_unit_eq_ok_iff, bind_unit_eq_ok_iff, orFail_eq_ok_iff,
      StringEnd.error?_eq_none_iff, Node.skip_eq_ok_iff value, skipMembers_eq_ok_iff rest,
      List.forall_mem_cons, and_assoc]

end

/-! ### Members that are accepted -/

section

variable {checks : List FieldCheck}

/-- A member that a record accepts: the value of a field passes the field's check, and any other
value leaves the grammar nowhere. -/
inductive Accepts (checks : List FieldCheck) : StringLit × Node → Prop
  | field {key : StringLit} {value : Node} {name : String} {f : FieldCheck}
      (hkey : key.text = .ok name) (hfind : checks.find? (fun f => f.name == name) = some f)
      (hcheck : f.check value = .ok ()) : Accepts checks (key, value)
  | other {key : StringLit} {value : Node} {name : String} (hkey : key.text = .ok name)
      (hfind : checks.find? (fun f => f.name == name) = none) (hvalue : value.Complete) :
      Accepts checks (key, value)

/-- Two members are not values of one field. -/
def Distinct (checks : List FieldCheck) (m m' : StringLit × Node) : Prop :=
  ∀ f ∈ checks, ¬(m.1.text = .ok f.name ∧ m'.1.text = .ok f.name)

/-- The members of an object that a record can be taken from. -/
structure Admissible (checks : List FieldCheck) (members : List (StringLit × Node)) : Prop where
  accepts : ∀ member ∈ members, Accepts checks member
  distinct : members.Pairwise (Distinct checks)

variable {members : List (StringLit × Node)} {key : StringLit} {value : Node} {name : String}
  {f : FieldCheck}

/-- A member under the name of a field is accepted where the field's check passes. -/
theorem accepts_iff_of_field (hkey : key.text = .ok name)
    (hfind : checks.find? (fun f => f.name == name) = some f) :
    Accepts checks (key, value) ↔ f.check value = .ok () := by
  constructor
  · intro h
    cases h with
    | field hkey' hfind' hcheck =>
      cases hkey.symm.trans hkey'
      cases hfind.symm.trans hfind'
      exact hcheck
    | other hkey' hfind' =>
      cases hkey.symm.trans hkey'
      cases hfind.symm.trans hfind'
  · exact .field hkey hfind

/-- A member under any other name is accepted where its value is complete. -/
theorem accepts_iff_of_other (hkey : key.text = .ok name)
    (hfind : checks.find? (fun f => f.name == name) = none) :
    Accepts checks (key, value) ↔ value.Complete := by
  constructor
  · intro h
    cases h with
    | field hkey' hfind' =>
      cases hkey.symm.trans hkey'
      cases hfind.symm.trans hfind'
    | other _ _ hvalue => exact hvalue
  · exact .other hkey hfind

/-- The name of a member that no field asks for is that of no field. -/
theorem name_ne_of_find?_eq_none (hkey : key.text = .ok name)
    (hfind : checks.find? (fun f => f.name == name) = none) :
    ∀ f ∈ checks, key.text ≠ .ok f.name := by
  intro f hf hname
  have hne : f.name ≠ name := by simpa using List.find?_eq_none.1 hfind f hf
  exact hne (Except.ok.inj (hname.symm.trans hkey))

/-- A first member under another name is admissible where its value is complete. -/
theorem admissible_cons_other (hkey : key.text = .ok name)
    (hfind : checks.find? (fun f => f.name == name) = none) :
    Admissible checks ((key, value) :: members) ↔ value.Complete ∧ Admissible checks members := by
  rw [← accepts_iff_of_other hkey hfind]
  constructor
  · rintro ⟨haccepts, hdistinct⟩
    obtain ⟨hvalue, haccepts⟩ := List.forall_mem_cons.1 haccepts
    exact ⟨hvalue, haccepts, hdistinct.of_cons⟩
  · rintro ⟨hvalue, haccepts, hdistinct⟩
    refine ⟨List.forall_mem_cons.2 ⟨hvalue, haccepts⟩, hdistinct.cons ?_⟩
    rintro m - f hf ⟨hname, -⟩
    exact name_ne_of_find?_eq_none hkey hfind f hf hname

/-- A first member under the name of a field is admissible where its check passes and no other
member has that name. -/
theorem admissible_cons_field (hkey : key.text = .ok name)
    (hfind : checks.find? (fun f => f.name == name) = some f) :
    Admissible checks ((key, value) :: members) ↔
      f.check value = .ok () ∧ Admissible checks members ∧ ∀ m ∈ members, m.1.text ≠ .ok name := by
  have hf : f ∈ checks := List.mem_of_find?_eq_some hfind
  obtain rfl : f.name = name := by simpa using List.find?_some hfind
  rw [← accepts_iff_of_field hkey hfind]
  constructor
  · rintro ⟨haccepts, hdistinct⟩
    obtain ⟨hvalue, haccepts⟩ := List.forall_mem_cons.1 haccepts
    obtain ⟨hfirst, hrest⟩ := List.pairwise_cons.1 hdistinct
    exact ⟨hvalue, ⟨haccepts, hrest⟩, fun m hm hname => hfirst m hm f hf ⟨hkey, hname⟩⟩
  · rintro ⟨hvalue, ⟨haccepts, hdistinct⟩, hnew⟩
    refine ⟨List.forall_mem_cons.2 ⟨hvalue, haccepts⟩, hdistinct.cons ?_⟩
    rintro m hm g - ⟨hname, hname'⟩
    rw [hkey.symm.trans hname] at hnew
    exact hnew m hm hname'

/-- What follows a success of the grammar is all that counts. -/
theorem liftGrammar_ok_bind {α β : Type} (a : α) (next : α → Except DecodeError β) :
    (liftGrammar (.ok a) >>= next) = next a :=
  rfl

/-- A first member under the name of a field passes where that name is new and the field's check
passes. -/
theorem checkMembers_cons_field (hkey : key.text = .ok name)
    (hfind : checks.find? (fun f => f.name == name) = some f) (seen : List String) :
    checkMembers checks seen ((key, value) :: members) = .ok () ↔
      name ∉ seen ∧ f.check value = .ok () ∧
        checkMembers checks (name :: seen) members = .ok () := by
  rw [checkMembers, hkey, liftGrammar_ok_bind, hfind]
  by_cases hseen : name ∈ seen
  · simp [hseen]
  · simp [hseen, bind_unit_eq_ok_iff]

/-- A first member under another name passes where its value is complete. -/
theorem checkMembers_cons_other (hkey : key.text = .ok name)
    (hfind : checks.find? (fun f => f.name == name) = none) (seen : List String) :
    checkMembers checks seen ((key, value) :: members) = .ok () ↔
      value.Complete ∧ checkMembers checks seen members = .ok () := by
  rw [checkMembers, hkey, liftGrammar_ok_bind, hfind]
  dsimp only
  rw [bind_unit_eq_ok_iff, liftGrammar_eq_ok_iff, Node.skip_eq_ok_iff]

/-- The first pass accepts the members if it accepts each of them, no field is given twice, and none
has been seen before. -/
theorem checkMembers_eq_ok_iff_of_seen {seen : List String} :
    checkMembers checks seen members = .ok () ↔ Admissible checks members ∧
      ∀ member ∈ members, ∀ f ∈ checks, member.1.text = .ok f.name → f.name ∉ seen := by
  induction members generalizing seen with
  | nil => exact ⟨fun _ => ⟨⟨nofun, .nil⟩, nofun⟩, fun _ => rfl⟩
  | cons member rest ih =>
    obtain ⟨key, value⟩ := member
    rw [List.forall_mem_cons]
    cases hkey : key.text with
    | error e =>
      constructor
      · intro h
        rw [checkMembers, hkey] at h
        cases h
      · rintro ⟨⟨haccepts, -⟩, -⟩
        cases haccepts _ List.mem_cons_self with
        | field hkey' | other hkey' => cases hkey.symm.trans hkey'
    | ok name =>
      cases hfind : checks.find? fun f => f.name == name with
      | none =>
        rw [checkMembers_cons_other hkey hfind, ih, admissible_cons_other hkey hfind, and_assoc]
        have hother := name_ne_of_find?_eq_none hkey hfind
        rw [hkey] at hother
        exact ⟨fun ⟨hvalue, hrest, hseen⟩ =>
            ⟨hvalue, hrest, fun f hf hname => absurd hname (hother f hf), hseen⟩,
          fun ⟨hvalue, hrest, _, hseen⟩ => ⟨hvalue, hrest, hseen⟩⟩
      | some f =>
        have hf : f ∈ checks := List.mem_of_find?_eq_some hfind
        obtain rfl : f.name = name := by simpa using List.find?_some hfind
        rw [checkMembers_cons_field hkey hfind, ih, admissible_cons_field hkey hfind]
        constructor
        · rintro ⟨hnew, hvalue, hrest, hseen⟩
          refine ⟨⟨hvalue, hrest, fun m hm hname => ?_⟩, fun g _ hname => ?_,
            fun m hm g hg hname hold => hseen m hm g hg hname (List.mem_cons_of_mem _ hold)⟩
          · exact hseen m hm f hf hname List.mem_cons_self
          · rwa [← Except.ok.inj hname]
        · rintro ⟨⟨hvalue, hrest, hfirst⟩, hnew, hseen⟩
          refine ⟨hnew f hf rfl, hvalue, hrest, fun m hm g hg hname hold => ?_⟩
          rcases List.mem_cons.1 hold with heq | hold
          · rw [heq] at hname
            exact hfirst m hm hname
          · exact hseen m hm g hg hname hold

/-- The members of a record pass exactly where they are admissible. -/
theorem checkMembers_eq_ok_iff :
    checkMembers checks [] members = .ok () ↔ Admissible checks members := by
  rw [checkMembers_eq_ok_iff_of_seen]
  exact ⟨fun h => h.1, fun h => ⟨h, fun _ _ _ _ _ => List.not_mem_nil⟩⟩

/-- The order of the members does not count. -/
theorem Admissible.perm {members' : List (StringLit × Node)} (h : Admissible checks members)
    (hperm : members.Perm members') : Admissible checks members' where
  accepts member hmember := h.accepts member (hperm.mem_iff.2 hmember)
  distinct := by
    refine (hperm.pairwise_iff fun {m m'} hdistinct f hf hnames => ?_).1 h.distinct
    exact hdistinct f hf hnames.symm

/-- A field is read from the one member with its name. -/
theorem findMember_eq_some_iff (h : members.Pairwise (Distinct checks)) (hf : f ∈ checks) :
    findMember f.name members = some value ↔ HasMember members f.name value := by
  refine ⟨hasMember_of_findMember, fun hmember => ?_⟩
  induction members with
  | nil =>
    obtain ⟨key, hmem, -⟩ := hmember
    exact absurd hmem List.not_mem_nil
  | cons member rest ih =>
    obtain ⟨key, first⟩ := member
    obtain ⟨hfirst, hrest⟩ := List.pairwise_cons.1 h
    rcases hasMember_cons.1 hmember with ⟨rfl, hname⟩ | ⟨other, hmem, hname⟩
    · rw [findMember_cons_of_text hname, if_pos rfl]
    · rw [findMember_cons_of_ne fun hkey => hfirst _ hmem f hf ⟨hkey, hname⟩]
      exact ih hrest ⟨other, hmem, hname⟩

end

/-! ### Fields -/

/-- The check of a field passes exactly where the field can be read. -/
theorem check_eq_ok_iff {α : Type} {f : RecordField α} {n : Node} :
    f.toCheck.check n = .ok () ↔ ∃ a, f.decode n = .ok a := by
  constructor
  · intro h
    obtain ⟨a, ha, -⟩ := exists_of_map_eq_ok h
    exact ⟨a, ha⟩
  · rintro ⟨a, ha⟩
    show (f.decode n).map _ = _
    rw [ha]
    rfl

/-- A name is looked up in the first members, and then in the others. -/
theorem findMember_append (name : String) (members more : List (StringLit × Node)) :
    findMember name (members ++ more) = (findMember name members).or (findMember name more) := by
  induction members with
  | nil => rfl
  | cons member rest ih =>
    by_cases hkey : member.1.text = .ok name
    · rw [List.cons_append, findMember_cons_of_text hkey, findMember_cons_of_text hkey, if_pos rfl,
        if_pos rfl]
      rfl
    · rw [List.cons_append, findMember_cons_of_ne hkey, findMember_cons_of_ne hkey, ih]

/-- A name is not found exactly where no member has it. -/
theorem findMember_eq_none_iff {name : String} {members : List (StringLit × Node)} :
    findMember name members = none ↔ ∀ m ∈ members, m.1.text ≠ .ok name := by
  induction members with
  | nil => exact ⟨fun _ => nofun, fun _ => rfl⟩
  | cons member rest ih =>
    rw [List.forall_mem_cons, ← ih]
    by_cases hkey : member.1.text = .ok name
    · rw [findMember_cons_of_text hkey, if_pos rfl]
      exact ⟨nofun, fun h => absurd hkey h.1⟩
    · rw [findMember_cons_of_ne hkey]
      exact (and_iff_right hkey).symm

/-- A field is read alike from objects in which it is given alike. -/
theorem get_byName_congr {α : Type} {f : RecordField α} {members members' : List (StringLit × Node)}
    (h : findMember f.name members = findMember f.name members') :
    Fields.get f (.byName members) = Fields.get f (.byName members') := by
  simp only [Fields.get, h]

/-- What the fields of a record that has been read were taken from: an object with members that can
be accepted, or a list with no more items than there are fields. -/
inductive TakenFrom (record : String) (checks : List FieldCheck) : Node → Fields → Prop
  | object {members : List (StringLit × Node)} (h : Admissible checks members) :
      TakenFrom record checks (.object members .closed) (.byName members)
  | list {items : List Node} {ending : ListEnd} {expected : String}
      (hexpected : expected = "struct " ++ record ++ " with " ++ elementCount checks.length)
      (hfinish : (Fields.byPlace items ending expected).finish checks.length = .ok ()) :
      TakenFrom record checks (.list items ending) (.byPlace items ending expected)

/-- A record is read from the fields that are taken from the value, and from them alone. -/
theorem record_eq_ok_iff {α : Type} {record : String} {checks : List FieldCheck}
    {build : Fields → Except DecodeError α} {n : Node} {a : α} :
    Decoder.record record checks build n = .ok a ↔
      ∃ fields, TakenFrom record checks n fields ∧ build fields = .ok a := by
  constructor
  · intro h
    unfold Decoder.record at h
    split at h
    · next members ending =>
      rw [bind_unit_eq_ok_iff, bind_unit_eq_ok_iff, checkMembers_eq_ok_iff, liftGrammar_eq_ok_iff,
        orFail_eq_ok_iff, ObjectEnd.reading_eq_none_iff] at h
      obtain ⟨hmembers, rfl, hbuild⟩ := h
      exact ⟨_, .object hmembers, hbuild⟩
    · next items ending =>
      obtain ⟨b, hbuild, h⟩ := exists_of_bind_eq_ok h
      rw [bind_unit_eq_ok_iff] at h
      obtain ⟨hfinish, hb⟩ := h
      cases hb
      exact ⟨_, .list rfl hfinish, hbuild⟩
    · exact absurd h (unexpected_ne_ok _ _ _)
  · rintro ⟨fields, htaken, hbuild⟩
    cases htaken with
    | object hmembers =>
      rw [Decoder.record, bind_unit_eq_ok_iff, bind_unit_eq_ok_iff, checkMembers_eq_ok_iff]
      exact ⟨hmembers, rfl, hbuild⟩
    | list hexpected hfinish =>
      subst hexpected
      rw [Decoder.record, hbuild]
      exact bind_unit_eq_ok_iff.2 ⟨hfinish, rfl⟩

end BucketLifecycle.Json
