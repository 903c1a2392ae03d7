import BucketLifecycle.Proofs.Settings.Places
import BucketLifecycle.Proofs.Text.Characters
import BucketLifecycle.Settings.Environment
import Mathlib.Data.List.TakeWhile

/-!
# Names of settings

The name that an environment variable gives has no capital letters, and two steps of a path show in
it as they stand there, with a period between them.  So a setting has one name
(`leadsTo_single_iff`, `leadsTo_pair_iff`).  A key of a file that is made of small letters, digits
and underscores is a path of one step.
-/

set_option autoImplicit false

namespace BucketLifecycle

open SettingTree

/-- Capital letters of ASCII and the sign of the kelvin are the characters with another small form.
-/
theorem smallLetter_eq_self_iff {c : Char} :
    smallLetter c = c ↔ c.toNat ≠ 0x212A ∧ ¬(65 ≤ c.toNat ∧ c.toNat ≤ 90) := by
  unfold smallLetter
  split
  · next h => simp [h]
  · next h =>
    rw [← Char.toNat_inj] at h
    have hkelvin : c.toNat ≠ 0x212A := h
    rw [← Char.toNat_inj, toNat_toLower]
    split <;> omega

/-- Small letters stay as they are. -/
theorem smallLetter_idem (c : Char) : smallLetter (smallLetter c) = smallLetter c := by
  rw [smallLetter_eq_self_iff]
  unfold smallLetter
  split
  · decide
  · next h =>
    rw [← Char.toNat_inj] at h
    have hkelvin : c.toNat ≠ 0x212A := h
    rw [toNat_toLower]
    split <;> omega

/-- A name stays as it is where all its letters are small. -/
theorem settingName_eq_self_iff {key : String} :
    settingName key = key ↔ ∀ c ∈ key.toList, smallLetter c = c := by
  unfold settingName
  rw [← String.toList_inj, String.toList_ofList]
  constructor
  · intro h
    exact List.map_inj_left.1 (h.trans (List.map_id key.toList).symm)
  · intro h
    exact (List.map_congr_left h).trans (List.map_id key.toList)

/-- A name in two parts is made small part by part. -/
theorem settingName_append (a b : String) :
    settingName (a ++ b) = settingName a ++ settingName b := by
  unfold settingName
  rw [← String.toList_inj]
  simp

/-- Dividing a name adds nothing but points. -/
theorem mem_dividedName {c : Char} {cs : List Char} (h : c ∈ dividedName cs) :
    c = '.' ∨ c ∈ cs := by
  fun_induction dividedName cs with
  | case1 rest ih =>
    rcases List.mem_cons.1 h with rfl | h
    · exact .inl rfl
    · exact (ih h).imp_right fun hmem => List.mem_cons_of_mem _ (List.mem_cons_of_mem _ hmem)
  | case2 d rest _ ih =>
    rcases List.mem_cons.1 h with rfl | h
    · exact .inr List.mem_cons_self
    · exact (ih h).imp_right (List.mem_cons_of_mem _)
  | case3 => cases h

/-- The name that a variable gives is looked up as it is. -/
theorem settingName_of_settingKey? {name key : String} (h : settingKey? name = some key) :
    settingName key = key := by
  obtain ⟨rest, hrest, rfl⟩ := Option.map_eq_some_iff.1 h
  rw [Text.dropStart?_eq_some_iff] at hrest
  rw [settingName_eq_self_iff, String.toList_ofList]
  intro c hc
  rcases mem_dividedName hc with rfl | hc
  · rfl
  · have hmem : c ∈ name.toList.map smallLetter := hrest ▸ List.mem_append_right _ hc
    obtain ⟨d, -, rfl⟩ := List.mem_map.1 hmem
    exact smallLetter_idem d

/-- What the steps behind the first name may begin with. -/
theorem furtherSteps_cases {fuel : Nat} {cs : List Char} {steps : List SettingStep}
    (h : furtherSteps fuel cs = some steps) :
    (cs = [] ∧ steps = []) ∨
    (∃ fuel' step rest steps', cs = '.' :: (step ++ rest) ∧
      steps = .name (String.ofList step) :: steps' ∧ furtherSteps fuel' rest = some steps') ∨
    ∃ place steps', steps = .index place :: steps' := by
  unfold furtherSteps at h
  split at h
  · cases h
    exact .inl ⟨rfl, rfl⟩
  · cases h
  · next fuel' cs =>
    dsimp only at h
    split at h
    · cases h
    · obtain ⟨steps', hsteps, rfl⟩ := Option.map_eq_some_iff.1 h
      refine .inr (.inl ⟨fuel', cs.takeWhile isStepChar, _, steps', ?_, rfl, hsteps⟩)
      rw [append_drop_takeWhile]
  · next fuel' cs =>
    obtain ⟨⟨place, rest⟩, -, h⟩ := Option.bind_eq_some_iff.1 h
    obtain ⟨steps', -, h⟩ := Option.bind_eq_some_iff.1 h
    cases h
    exact .inr (.inr ⟨place, steps', rfl⟩)
  · cases h

/-- A name is no path, or begins with the name of its first step. -/
theorem settingPath_cases (key : String) :
    settingPath key = [.name key] ∨ ∃ first rest steps fuel, key.toList = first ++ rest ∧
      settingPath key = .name (String.ofList first) :: steps ∧
      furtherSteps fuel rest = some steps := by
  unfold settingPath settingPath?
  dsimp only
  split
  · exact .inl rfl
  · cases hsteps : furtherSteps key.toList.length
      (key.toList.drop (key.toList.takeWhile isStepChar).length) with
    | none => exact .inl rfl
    | some steps =>
      exact .inr ⟨_, _, steps, _, (append_drop_takeWhile isStepChar _).symm, rfl, hsteps⟩

/-- A path of one step is spelled by that step alone. -/
theorem eq_of_settingPath_eq_single {key a : String} (h : settingPath key = [.name a]) :
    key = a := by
  rcases settingPath_cases key with hsame | ⟨first, rest, steps, fuel, hkey, hpath, hsteps⟩
  · rw [hsame] at h
    cases h
    rfl
  · rw [hpath] at h
    cases h
    rcases furtherSteps_cases hsteps with ⟨rfl, -⟩ | ⟨_, _, _, _, -, h, -⟩ | ⟨_, _, h⟩
    · rw [← String.toList_inj, hkey, String.toList_ofList, List.append_nil]
    · cases h
    · cases h

/-- A path of two steps is spelled by them with a point between. -/
theorem eq_of_settingPath_eq_pair {key a b : String} (h : settingPath key = [.name a, .name b]) :
    key = a ++ "." ++ b := by
  rcases settingPath_cases key with hsame | ⟨first, rest, steps, fuel, hkey, hpath, hsteps⟩
  · rw [hsame] at h
    cases h
  · rw [hpath] at h
    cases h
    rcases furtherSteps_cases hsteps with ⟨-, h⟩ | ⟨_, step, rest', _, hrest, h, hlast⟩ | ⟨_, _, h⟩
    · cases h
    · cases h
      rcases furtherSteps_cases hlast with ⟨rfl, -⟩ | ⟨_, _, _, _, -, h, -⟩ | ⟨_, _, h⟩
      · rw [← String.toList_inj, hkey, hrest]
        simp
      · cases h
      · cases h
    · cases h

/-- The path of a name that is looked up as it is begins with such a name. -/
theorem exists_first_of_settingName {key : String} (h : settingName key = key) :
    ∃ first steps, settingPath key = .name first :: steps ∧ settingName first = first := by
  rcases settingPath_cases key with hsame | ⟨first, rest, steps, fuel, hkey, hpath, -⟩
  · exact ⟨key, [], hsame, h⟩
  · refine ⟨String.ofList first, steps, hpath, ?_⟩
    rw [settingName_eq_self_iff] at h ⊢
    rw [String.toList_ofList]
    exact fun c hc => h c (hkey ▸ List.mem_append_left _ hc)

/-- A setting at the top has one name. -/
theorem leadsTo_single_iff {key a : String} (hkey : settingName key = key)
    (ha : settingPath a = [.name a]) : LeadsTo (settingPath key) [a] ↔ key = a := by
  constructor
  · rintro ⟨keys, hpath, hkeys⟩
    obtain ⟨b, rfl, rfl⟩ := List.map_eq_singleton_iff.1 hkeys
    obtain rfl := eq_of_settingPath_eq_single hpath
    exact hkey.symm
  · rintro rfl
    exact ⟨[key], ha, congrArg ([·]) hkey⟩

/-- A setting in a table at the top has one name. -/
theorem leadsTo_pair_iff {key a b : String} (hkey : settingName key = key)
    (hname : settingPath (a ++ "." ++ b) = [.name a, .name b]) (ha : settingName a = a)
    (hb : settingName b = b) : LeadsTo (settingPath key) [a, b] ↔ key = a ++ "." ++ b := by
  constructor
  · rintro ⟨keys, hpath, hkeys⟩
    obtain ⟨c, rest, rfl, rfl, hrest⟩ := List.map_eq_cons_iff.1 hkeys
    obtain ⟨d, rfl, rfl⟩ := List.map_eq_singleton_iff.1 hrest
    have heq := eq_of_settingPath_eq_pair hpath
    rw [← hkey, heq, settingName_append, settingName_append]
    rfl
  · rintro rfl
    exact ⟨[a, b], hname, by rw [List.map_cons, List.map_cons, ha, hb]; rfl⟩

/-- A key made of small letters, digits and underscores. -/
def PlainKey (key : String) : Prop :=
  ∀ c ∈ key.toList, SmallAlphanumeric c ∨ c = '_'

instance (key : String) : Decidable (PlainKey key) :=
  List.decidableBAll (fun c => SmallAlphanumeric c ∨ c = '_') key.toList

/-- A plain key is in small letters. -/
theorem PlainKey.settingName_eq {key : String} (h : PlainKey key) : settingName key = key := by
  rw [settingName_eq_self_iff]
  intro c hc
  rw [smallLetter_eq_self_iff]
  rcases h c hc with halphanumeric | rfl
  · have hbounds := halphanumeric.toNat_bounds
    omega
  · decide

/-- A plain key has only what a step may have. -/
theorem PlainKey.all_isStepChar {key : String} (h : PlainKey key) :
    ∀ c ∈ key.toList, isStepChar c = true := by
  intro c hc
  rcases h c hc with halphanumeric | rfl
  · simp [isStepChar, halphanumeric.isAlphanum]
  · rfl

/-- A plain key is a path of one step. -/
theorem PlainKey.settingPath_eq {key : String} (h : PlainKey key) :
    settingPath key = [.name key] := by
  have hfirst : key.toList.takeWhile isStepChar = key.toList :=
    List.takeWhile_eq_self_iff.2 h.all_isStepChar
  unfold settingPath settingPath?
  dsimp only
  rw [hfirst]
  split
  · rfl
  · rw [List.drop_length, furtherSteps, String.ofList_toList]
    rfl

end BucketLifecycle
