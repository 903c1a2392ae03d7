import BucketLifecycle.Proofs.Json.Record
import BucketLifecycle.Proofs.Text.Numeral

/-!
# What values say

A value says the same as another one that is spelled differently: a text with escapes, a number
with zeros in front or written as a text, an object with its members in another order.  What a value
says is told here from its tree alone, and a decoder is `Sound` if it finds only what values say.

The members of an object that a record is read from are told apart by their names, and a field is
read from the first member with its name.
-/

set_option autoImplicit false

namespace BucketLifecycle.Json

/-! ### Single values -/

/-- A literal that spells a text. -/
def Node.IsText (n : Node) (s : String) : Prop :=
  ∃ lit, n = .string lit ∧ lit.text = .ok s

/-- A whole number, written as a number or as a text. -/
inductive Node.IsWhole : Node → Int → Prop
  | natural {ds : List Char} : IsWhole (.number ⟨false, ds, none, none⟩) (Text.digitsValue ds)
  | negative {ds : List Char} : IsWhole (.number ⟨true, ds, none, none⟩) (-Text.digitsValue ds)
  | text {lit : StringLit} {cs : List Char} {k : Int} (hchars : lit.chars = .ok cs)
      (hspells : Text.SpellsInt cs k) : IsWhole (.string lit) k

/-- A whole number of 64 bits as it is read from a value: digits, with a minus sign in front unless
they are those of zero, or a text of a whole number. -/
inductive Node.IsInt64 : Node → Int64 → Prop
  | natural {ds : List Char} {k : Int64} (hdigits : k.toInt = Text.digitsValue ds) :
      IsInt64 (.number ⟨false, ds, none, none⟩) k
  | negative {ds : List Char} {k : Int64} (hdigits : k.toInt = -Text.digitsValue ds)
      (hzero : k ≠ 0) : IsInt64 (.number ⟨true, ds, none, none⟩) k
  | text {lit : StringLit} {cs : List Char} {k : Int64} (hchars : lit.chars = .ok cs)
      (hspells : Text.SpellsInt cs k.toInt) : IsInt64 (.string lit) k

/-- A value that says nothing. -/
def Node.Vacuous (n : Node) : Prop :=
  n = .null ∨ ∃ ending, n = .object [] ending

/-- Both values say the same thing. -/
def Agree {α : Type} (means : Node → α → Prop) (v w : Node) : Prop :=
  ∃ a, means v a ∧ means w a

/-- The decoder finds in a value only what the value says. -/
def Sound {α : Type} (d : Decoder α) (means : Node → α → Prop) : Prop :=
  ∀ n a, d n = .ok a → means n a

section

variable {α : Type} {d : Decoder α} {n : Node}

/-- A value that is not expected is never read. -/
theorem unexpected_ne_ok (expected : String) (n : Node) (a : α) :
    n.unexpected expected ≠ .ok a := by
  intro h
  cases n with
  | number lit | string lit =>
    obtain ⟨_, -, herror⟩ := exists_of_bind_eq_ok h
    cases herror
  | null | bool | list | object | gap => cases h

/-- What is read as a text in some form is a text of that form. -/
theorem textAs_eq_ok {expected : String} {read : String → Except String α} {a : α}
    (h : Decoder.textAs expected read n = .ok a) : ∃ s, n.IsText s ∧ read s = .ok a := by
  unfold Decoder.textAs at h
  split at h
  · next lit =>
    obtain ⟨s, hs, hread⟩ := exists_of_bind_eq_ok h
    exact ⟨s, ⟨lit, rfl, eq_ok_of_mapError hs⟩, eq_ok_of_mapError hread⟩
  · exact absurd h (unexpected_ne_ok expected _ a)

/-- What is read as a text is the text that the value says. -/
theorem sound_string : Sound Decoder.string Node.IsText := by
  intro n s h
  obtain ⟨t, htext, hread⟩ := textAs_eq_ok h
  cases hread
  exact htext

/-- A value that may be missing is null, or is read as one that is there. -/
theorem option_eq_ok {value : Option α} (h : Decoder.option d n = .ok value) :
    n = .null ∧ value = none ∨ ∃ a, d n = .ok a ∧ value = some a := by
  unfold Decoder.option at h
  split at h
  · cases h
    exact .inl ⟨rfl, rfl⟩
  · obtain ⟨a, ha, rfl⟩ := exists_of_map_eq_ok h
    exact .inr ⟨a, ha, rfl⟩

/-- A floating-point number is read as no other kind of number. -/
theorem float_ne_ok {lit : NumberLit} {v : Number} (hv : ∀ x, v ≠ .floating x) :
    lit.float.map .floating ≠ .ok v := by
  intro h
  obtain ⟨x, -, rfl⟩ := exists_of_map_eq_ok h
  exact hv x rfl

/-- What is read as a number that is not a floating-point one has neither a fraction nor an
exponent. -/
theorem whole_of_value {lit : NumberLit} {v : Number} (h : lit.value = .ok v)
    (hv : ∀ x, v ≠ .floating x) : ∃ negative ds, lit = ⟨negative, ds, none, none⟩ := by
  obtain ⟨negative, ds, fraction, exponent⟩ := lit
  unfold NumberLit.value at h
  dsimp only at h
  split at h
  · exact absurd h (float_ne_ok hv)
  next hwhole =>
  obtain ⟨rfl, rfl⟩ : fraction = none ∧ exponent = none := by simpa using hwhole
  exact ⟨negative, ds, rfl⟩

/-- The value of a literal without a fraction and an exponent. -/
theorem value_whole (negative : Bool) (ds : List Char) :
    NumberLit.value ⟨negative, ds, none, none⟩ =
      if negative then
        if 0 < Text.digitsValue ds ∧ Text.digitsValue ds ≤ Text.int64Limit then
          .ok (.negative (Int64.ofInt (-Text.digitsValue ds)))
        else (NumberLit.float ⟨negative, ds, none, none⟩).map .floating
      else if Text.digitsValue ds < UInt64.size then
        .ok (.natural (UInt64.ofNat (Text.digitsValue ds)))
      else (NumberLit.float ⟨negative, ds, none, none⟩).map .floating :=
  rfl

/-- The literals that are read as natural numbers. -/
theorem value_eq_natural_iff {lit : NumberLit} {u : UInt64} :
    lit.value = .ok (.natural u) ↔
      ∃ ds, lit = ⟨false, ds, none, none⟩ ∧ Text.digitsValue ds = u.toNat := by
  constructor
  · intro h
    obtain ⟨negative, ds, rfl⟩ := whole_of_value h nofun
    rw [value_whole] at h
    split at h
    · split at h
      · cases h
      · exact absurd h (float_ne_ok nofun)
    next hnegative =>
    obtain rfl : negative = false := by simpa using hnegative
    split at h
    · next hsize =>
      cases h
      exact ⟨ds, rfl, (UInt64.toNat_ofNat_of_lt' hsize).symm⟩
    · exact absurd h (float_ne_ok nofun)
  · rintro ⟨ds, rfl, hvalue⟩
    have hsize : Text.digitsValue ds < UInt64.size := hvalue ▸ u.toNat_lt
    have hword : UInt64.ofNat (Text.digitsValue ds) = u := by rw [hvalue, UInt64.ofNat_toNat]
    simp [NumberLit.value, hsize, hword]

/-- The literals that are read as negative numbers. -/
theorem value_eq_negative_iff {lit : NumberLit} {k : Int64} :
    lit.value = .ok (.negative k) ↔
      ∃ ds, lit = ⟨true, ds, none, none⟩ ∧ k ≠ 0 ∧ k.toInt = -Text.digitsValue ds := by
  have hlimit : Text.int64Limit = 9223372036854775808 := rfl
  constructor
  · intro h
    obtain ⟨negative, ds, rfl⟩ := whole_of_value h nofun
    rw [value_whole] at h
    split at h
    · next hnegative =>
      subst hnegative
      split at h
      · next hsize =>
        cases h
        have hvalue : (Int64.ofInt (-(Text.digitsValue ds : Int))).toInt = -Text.digitsValue ds :=
          Int64.toInt_ofInt_of_le (by omega) (by omega)
        refine ⟨ds, rfl, fun hzero => ?_, hvalue⟩
        rw [hzero, Int64.toInt_zero] at hvalue
        omega
      · exact absurd h (float_ne_ok nofun)
    · split at h
      · cases h
      · exact absurd h (float_ne_ok nofun)
  · rintro ⟨ds, rfl, hzero, hvalue⟩
    have hne : k.toInt ≠ 0 := fun h => hzero (Int64.toInt_inj.1 (h.trans Int64.toInt_zero.symm))
    have hlow := Int64.le_toInt k
    have hsize : 0 < Text.digitsValue ds ∧ Text.digitsValue ds ≤ Text.int64Limit := by omega
    have hword : Int64.ofInt (-(Text.digitsValue ds : Int)) = k := by
      rw [← hvalue, Int64.ofInt_toInt]
    simp [NumberLit.value, hsize, hword]

/-- A text is read as a number of 64 bits if it spells that number. -/
theorem readInt64_eq_ok_iff_spellsInt {cs : List Char} {k : Int64} :
    Text.readInt64 cs = .ok k.toInt ↔ Text.SpellsInt cs k.toInt := by
  constructor
  · exact fun h => (Text.spellsInt_of_readBounded (by decide) (by decide) h).1
  · exact fun h => Text.readBounded_of_spellsInt h (by decide) (Int64.le_toInt k)
      (Int.le_sub_one_of_lt (Int64.toInt_lt k))

/-- What is read as a number of 64 bits is one, as a number or as a text. -/
theorem isInt64_of_int64Text {depth : Nat} {k : Int64} (h : Decoder.int64Text depth n = .ok k) :
    n.IsInt64 k := by
  obtain ⟨-, -, h⟩ := exists_of_bind_eq_ok h
  split at h
  · next lit =>
    obtain ⟨cs, hchars, h⟩ := exists_of_bind_eq_ok h
    split at h
    · next v hread =>
      cases h
      obtain ⟨hspells, hlo, hhi⟩ := Text.spellsInt_of_readBounded (by decide) (by decide) hread
      refine .text (eq_ok_of_mapError hchars) ?_
      rwa [Int64.toInt_ofInt_of_le hlo (Int.lt_of_le_sub_one hhi)]
    · cases h
  · next lit =>
    obtain ⟨v, hvalue, hnumber⟩ := exists_of_bind_eq_ok h
    cases v with
    | natural u =>
      obtain ⟨ds, rfl, hdigits⟩ := value_eq_natural_iff.1 (eq_ok_of_mapError hvalue)
      dsimp only at hnumber
      split at hnumber
      · next hsize =>
        cases hnumber
        refine .natural ?_
        rw [Int64.toInt_ofNat_of_lt hsize, hdigits]
      · cases hnumber
    | negative i =>
      obtain ⟨ds, rfl, hzero, hdigits⟩ := value_eq_negative_iff.1 (eq_ok_of_mapError hvalue)
      cases hnumber
      exact .negative hdigits hzero
    | floating x => cases hnumber
  · cases h

/-- A number of 64 bits is read, as a number or as a text. -/
theorem Node.IsInt64.int64Text {k : Int64} (h : n.IsInt64 k) (depth : Nat) :
    Decoder.int64Text depth n = .ok k := by
  cases h with
  | @natural ds k hdigits =>
    have hhigh := Int64.toInt_lt k
    have hsize : Text.digitsValue ds < UInt64.size := by
      have hsize : UInt64.size = 18446744073709551616 := rfl
      omega
    have hword : (UInt64.ofNat (Text.digitsValue ds)).toNat = Text.digitsValue ds :=
      UInt64.toNat_ofNat_of_lt' hsize
    have hvalue := value_eq_natural_iff.2 ⟨ds, rfl, hword.symm⟩
    have hroom : Text.digitsValue ds < Text.int64Limit := by
      have hlimit : Text.int64Limit = 9223372036854775808 := rfl
      omega
    have hk : Int64.ofNat (Text.digitsValue ds) = k := by
      rw [← Int64.toInt_inj, Int64.toInt_ofNat_of_lt hroom, hdigits]
    simp [Decoder.int64Text, Node.readAny, hvalue, hword, hroom, hk, liftGrammar, Except.map,
      Except.mapError, bind, Except.bind, pure, Except.pure]
  | @negative ds k hdigits hzero =>
    have hvalue := value_eq_negative_iff.2 ⟨ds, rfl, hzero, hdigits⟩
    simp [Decoder.int64Text, Node.readAny, hvalue, liftGrammar, Except.map, Except.mapError, bind,
      Except.bind, pure, Except.pure]
  | text hchars hspells =>
    have hread := readInt64_eq_ok_iff_spellsInt.2 hspells
    simp [Decoder.int64Text, Node.readAny, StringLit.text, hchars, hread, liftGrammar, Except.map,
      Except.mapError, bind, Except.bind, pure, Except.pure]

/-- A value is read as a number of 64 bits exactly where it says one. -/
theorem int64Text_eq_ok_iff {depth : Nat} {k : Int64} :
    Decoder.int64Text depth n = .ok k ↔ n.IsInt64 k :=
  ⟨isInt64_of_int64Text, fun h => h.int64Text depth⟩

/-- A number of 64 bits is a whole number. -/
theorem Node.IsInt64.isWhole {k : Int64} (h : n.IsInt64 k) : n.IsWhole k.toInt := by
  cases h with
  | natural hdigits =>
    rw [hdigits]
    exact .natural
  | negative hdigits =>
    rw [hdigits]
    exact .negative
  | text hchars hspells => exact .text hchars hspells

/-- What is read as a number of 64 bits is the whole number that the value says. -/
theorem sound_int64Text (depth : Nat) :
    Sound (Decoder.int64Text depth) fun n (k : Int64) => n.IsWhole k.toInt :=
  fun _ _ h => (int64Text_eq_ok_iff.1 h).isWhole

end

/-! ### Objects -/

/-- The object has a member with the name and the value. -/
def HasMember (members : List (StringLit × Node)) (name : String) (value : Node) : Prop :=
  ∃ key, (key, value) ∈ members ∧ key.text = .ok name

/-- The value of the last member with the name. -/
def lastMember (name : String) (members : List (StringLit × Node)) : Option Node :=
  findMember name members.reverse

/-- An object whose members are texts; where a name is given more than once, its last member
counts. -/
def Node.HasEntries (n : Node) (entries : String → Option String) : Prop :=
  ∃ members ending, n = .object members ending ∧
    ∀ name, Option.Rel Node.IsText (lastMember name members) (entries name)

section

variable {members : List (StringLit × Node)} {name : String} {value : Node}

/-- A member of an object is its first one or one of the others. -/
theorem hasMember_cons {key : StringLit} {first : Node} :
    HasMember ((key, first) :: members) name value ↔
      (first = value ∧ key.text = .ok name) ∨ HasMember members name value := by
  unfold HasMember
  constructor
  · rintro ⟨found, hmem, hname⟩
    rcases List.mem_cons.1 hmem with heq | hmem
    · cases heq
      exact .inl ⟨rfl, hname⟩
    · exact .inr ⟨found, hmem, hname⟩
  · rintro (⟨rfl, hname⟩ | ⟨found, hmem, hname⟩)
    · exact ⟨key, List.mem_cons_self, hname⟩
    · exact ⟨found, List.mem_cons_of_mem _ hmem, hname⟩

/-- A name is found at the first member where that has it, and among the others elsewhere. -/
theorem findMember_cons_of_text {key : StringLit} {k : String} (h : key.text = .ok k)
    (first : Node) (members : List (StringLit × Node)) :
    findMember name ((key, first) :: members) =
      if k = name then some first else findMember name members := by
  rw [findMember, h]

/-- A member of another name is passed over. -/
theorem findMember_cons_of_ne {key : StringLit} (h : key.text ≠ .ok name) (first : Node)
    (members : List (StringLit × Node)) :
    findMember name ((key, first) :: members) = findMember name members := by
  cases hkey : key.text with
  | error e => rw [findMember, hkey]
  | ok k =>
    rw [findMember_cons_of_text hkey]
    exact if_neg fun heq => h (hkey.trans (congrArg Except.ok heq))

/-- A member that is found is there. -/
theorem hasMember_of_findMember (h : findMember name members = some value) :
    HasMember members name value := by
  induction members with
  | nil => cases h
  | cons member rest ih =>
    obtain ⟨key, first⟩ := member
    rw [hasMember_cons]
    cases hkey : key.text with
    | error e =>
      rw [findMember, hkey] at h
      exact .inr (ih h)
    | ok k =>
      rw [findMember_cons_of_text hkey] at h
      split at h
      · next hname =>
        subst hname
        exact .inl ⟨Option.some.inj h, rfl⟩
      · exact .inr (ih h)

/-- A field that was read has its value from the member with its name, or is absent. -/
theorem get_byName_eq_ok {α : Type} {f : RecordField α} {a : α}
    (h : Fields.get f (.byName members) = .ok a) :
    (∃ v, findMember f.name members = some v ∧ f.decode v = .ok a) ∨
      findMember f.name members = none ∧ f.absent = some a := by
  unfold Fields.get at h
  dsimp only at h
  split at h
  · next v hv => exact .inl ⟨v, hv, h⟩
  · next hnone =>
    split at h
    · next habsent =>
      cases h
      exact .inr ⟨hnone, habsent⟩
    · cases h

/-- The members of an object, one by one with what they are read as. -/
def ReadAs {α : Type} (d : Decoder α) : List (StringLit × Node) → List (String × α) → Prop :=
  List.Forall₂ fun member kv => member.1.text = .ok kv.1 ∧ d member.2 = .ok kv.2

/-- The entries that are read are those of the members, each read as its value. -/
theorem members_eq_ok {α : Type} {d : Decoder α} {kvs : List (String × α)}
    (h : Decoder.members d members = .ok kvs) : ReadAs d members kvs := by
  induction members generalizing kvs with
  | nil =>
    cases h
    exact .nil
  | cons member rest ih =>
    obtain ⟨k, hk, h⟩ := exists_of_bind_eq_ok h
    obtain ⟨v, hv, h⟩ := exists_of_bind_eq_ok h
    obtain ⟨later, hlater, h⟩ := exists_of_bind_eq_ok h
    cases h
    exact .cons ⟨eq_ok_of_mapError hk, hv⟩ (ih hlater)

/-- Entries are read from an object, member by member. -/
theorem entries_eq_ok {α : Type} {d : Decoder α} {n : Node} {kvs : List (String × α)}
    (h : Decoder.entries d n = .ok kvs) :
    ∃ members ending, n = .object members ending ∧ ReadAs d members kvs := by
  unfold Decoder.entries at h
  split at h
  · next members ending =>
    obtain ⟨kvs, hkvs, h⟩ := exists_of_bind_eq_ok h
    obtain ⟨-, -, h⟩ := exists_of_bind_eq_ok h
    cases h
    exact ⟨members, ending, rfl, members_eq_ok hkvs⟩
  · exact absurd h (unexpected_ne_ok _ _ _)

/-- Lists that are related element by element have a partner for each of their elements. -/
theorem exists_of_forall₂ {α β : Type} {R : α → β → Prop} {xs : List α} {ys : List β}
    (h : List.Forall₂ R xs ys) :
    (∀ x ∈ xs, ∃ y ∈ ys, R x y) ∧ ∀ y ∈ ys, ∃ x ∈ xs, R x y := by
  induction h with
  | nil => exact ⟨nofun, nofun⟩
  | @cons x y xs ys hfirst hrest ih =>
    refine ⟨List.forall_mem_cons.2 ⟨⟨y, List.mem_cons_self, hfirst⟩, fun a ha => ?_⟩,
      List.forall_mem_cons.2 ⟨⟨x, List.mem_cons_self, hfirst⟩, fun b hb => ?_⟩⟩
    · obtain ⟨b, hb, hab⟩ := ih.1 a ha
      exact ⟨b, List.mem_cons_of_mem _ hb, hab⟩
    · obtain ⟨a, ha, hab⟩ := ih.2 b hb
      exact ⟨a, List.mem_cons_of_mem _ ha, hab⟩

/-- What a member is read as is found under its name. -/
theorem ReadAs.rel_findMember {kvs : List (String × String)}
    (h : ReadAs Decoder.string members kvs) (name : String) :
    Option.Rel Node.IsText (findMember name members)
      ((kvs.find? fun kv => kv.1 == name).map Prod.snd) := by
  induction h with
  | nil => exact .none
  | @cons member kv members kvs hmember hrest ih =>
    obtain ⟨hkey, hvalue⟩ := hmember
    rw [findMember_cons_of_text hkey]
    by_cases hname : kv.1 = name
    · rw [if_pos hname, List.find?_cons_of_pos (by simpa using hname)]
      exact .some (sound_string _ _ hvalue)
    · rw [if_neg hname, List.find?_cons_of_neg (by simpa using hname)]
      exact ih

end

end BucketLifecycle.Json
