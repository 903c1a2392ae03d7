import BucketLifecycle.Settings.Layer

/-!
# Places in a tree of settings

`SettingTree.at?` is the value at a path of names.  Putting a single value at the end of some steps
reaches that place, makes a table or a list of it, or leaves it alone, where the steps spare it
(`Spares`): they follow the path to its end, or part from it at a name.  So a layer of single values
decides on a place by the one that it has for it, and leaves the place alone if it has none
(`at?_addLayer`).
-/

set_option autoImplicit false

namespace BucketLifecycle

/-- A member under another key is passed over. -/
theorem lookup_cons_of_ne {α : Type} {key k : String} (h : key ≠ k) (v : α)
    (ms : List (String × α)) : ((key, v) :: ms).lookup k = ms.lookup k := by
  rw [List.lookup_cons, beq_false_of_ne (Ne.symm h)]

/-- A key that no member has is not found. -/
theorem lookup_eq_none_of_notMem {α : Type} {key : String} {ms : List (String × α)}
    (h : key ∉ ms.map Prod.fst) : ms.lookup key = none := by
  rw [List.lookup_eq_none_iff]
  intro m hm
  have hne : key ≠ m.1 := fun heq => h (heq ▸ List.mem_map_of_mem hm)
  simp [hne]

namespace SettingTree

/-- A table or a list. -/
def isNested : SettingTree → Bool
  | .scalar _ _ => false
  | .list _ _ => true
  | .table _ _ => true

/-- A tree that is not nested is a single value. -/
theorem exists_scalar_of_isNested {t : SettingTree} (h : t.isNested = false) :
    ∃ o x, t = .scalar o x := by
  cases t with
  | scalar o x => exact ⟨o, x, rfl⟩
  | list | table => cases h

/-- The value at the end of a path of names. -/
def at? : List String → SettingTree → Option SettingTree
  | [], t => some t
  | key :: path, t => (t.member? key).bind (at? path)

/-- One step down is the member under that key. -/
theorem at?_single (key : String) (t : SettingTree) : at? [key] t = t.member? key := by
  unfold at?
  cases t.member? key <;> rfl

/-- Two steps down is the member of a member, where that is a table. -/
theorem at?_of_table {t : SettingTree} {outer key : String} {o : Option Origin}
    {ms : List (String × SettingTree)} (h : t.member? outer = some (.table o ms)) :
    at? [outer, key] t = ms.lookup key := by
  rw [at?, h]
  exact at?_single key (.table o ms)

/-- A member that is set is found under its key. -/
theorem lookup_setMember_self (key : String) (v : SettingTree) (ms : List (String × SettingTree)) :
    (setMember key v ms).lookup key = some v := by
  induction ms with
  | nil => simp [setMember]
  | cons m ms ih =>
    obtain ⟨k, w⟩ := m
    unfold setMember
    split
    · simp
    · next hne => rw [lookup_cons_of_ne hne, ih]

/-- Setting a member leaves those under other keys. -/
theorem lookup_setMember_of_ne {key k : String} (h : key ≠ k) (v : SettingTree)
    (ms : List (String × SettingTree)) : (setMember key v ms).lookup k = ms.lookup k := by
  induction ms with
  | nil => simp [setMember, Ne.symm h]
  | cons m ms ih =>
    obtain ⟨k', w⟩ := m
    unfold setMember
    split
    · next heq => rw [lookup_cons_of_ne h, lookup_cons_of_ne (heq ▸ h)]
    · rw [List.lookup_cons, List.lookup_cons, ih]

/-- A tree with a member has it under its key. -/
@[simp] theorem member?_withMember_self (t : SettingTree) (key : String) (v : SettingTree) :
    (t.withMember key v).member? key = some v :=
  lookup_setMember_self key v t.members

/-- A tree with a member has the others as before. -/
theorem member?_withMember_of_ne {key k : String} (h : key ≠ k) (t v : SettingTree) :
    (t.withMember key v).member? k = t.member? k :=
  lookup_setMember_of_ne h v t.members

/-- Nothing has no members. -/
@[simp] theorem member?_nothing (key : String) : nothing.member? key = none :=
  rfl

/-- What stands at the end of some steps when a single value has been put there. -/
def placed (t v : SettingTree) : List SettingStep → SettingTree
  | [] => v
  | step :: steps => t.putAt v (step :: steps)

/-- Putting a value below a name puts it into the member under that name. -/
theorem putAt_name (t : SettingTree) (o : Option Origin) (x : Scalar) (key : String)
    (steps : List SettingStep) :
    t.putAt (.scalar o x) (.name key :: steps) = t.withMember (settingName key)
      (placed ((t.member? (settingName key)).getD nothing) (.scalar o x) steps) := by
  cases steps with
  | nil =>
    rw [putAt, put]
    rfl
  | cons step steps =>
    rw [putAt]
    · rfl
    · nofun

/-- A tree with a value put below it is nested. -/
theorem isNested_putAt (t : SettingTree) (o : Option Origin) (x : Scalar) (step : SettingStep)
    (steps : List SettingStep) : (t.putAt (.scalar o x) (step :: steps)).isNested = true := by
  cases step with
  | name key =>
    rw [putAt_name]
    rfl
  | index place => cases steps <;> rfl

/-- Steps that leave a place in the tree: they lead along the path to its end and perhaps beyond, or
away from it at a name. -/
inductive Spares : List SettingStep → List String → Prop where
  | reaches : Spares [] []
  | passes {step : SettingStep} {steps : List SettingStep} : Spares (step :: steps) []
  | parts {key k : String} {steps : List SettingStep} {path : List String}
      (h : settingName key ≠ k) : Spares (.name key :: steps) (k :: path)
  | follows {key k : String} {steps : List SettingStep} {path : List String}
      (hkey : settingName key = k) (h : Spares steps path) :
      Spares (.name key :: steps) (k :: path)

/-- The steps lead to the end of a path and no further. -/
def LeadsTo (steps : List SettingStep) (path : List String) : Prop :=
  ∃ keys : List String, steps = keys.map .name ∧ keys.map settingName = path

/-- A single value comes to stand at a place, beyond it, or elsewhere. -/
theorem at?_placed {steps : List SettingStep} {path : List String} (h : Spares steps path)
    (t : SettingTree) (o : Option Origin) (x : Scalar) :
    (LeadsTo steps path ∧ at? path (placed t (.scalar o x) steps) = some (.scalar o x)) ∨
    (¬LeadsTo steps path ∧
      ∃ w, at? path (placed t (.scalar o x) steps) = some w ∧ w.isNested = true) ∨
    (¬LeadsTo steps path ∧ path ≠ [] ∧
      at? path (placed t (.scalar o x) steps) = at? path t) := by
  induction h generalizing t with
  | reaches => exact .inl ⟨⟨[], rfl, rfl⟩, rfl⟩
  | @passes step steps =>
    refine .inr (.inl ⟨?_, _, rfl, isNested_putAt t o x step steps⟩)
    rintro ⟨keys, hsteps, hkeys⟩
    rw [List.map_eq_nil_iff] at hkeys
    subst hkeys
    cases hsteps
  | @parts key k steps path hne =>
    refine .inr (.inr ⟨?_, List.cons_ne_nil _ _, ?_⟩)
    · rintro ⟨keys, hsteps, hkeys⟩
      cases keys with
      | nil => cases hsteps
      | cons key' keys =>
        cases hsteps
        exact hne (List.cons.inj hkeys).1
    · rw [placed, putAt_name, at?, at?, member?_withMember_of_ne hne]
  | @follows key k steps path hkey hspares ih =>
    have hleads : LeadsTo (.name key :: steps) (k :: path) ↔ LeadsTo steps path := by
      constructor
      · rintro ⟨keys, hsteps, hkeys⟩
        cases keys with
        | nil => cases hsteps
        | cons key' keys =>
          obtain ⟨-, rfl⟩ := List.cons.inj hsteps
          exact ⟨keys, rfl, (List.cons.inj hkeys).2⟩
      · rintro ⟨keys, rfl, rfl⟩
        exact ⟨key :: keys, rfl, by rw [List.map_cons, hkey]⟩
    have hdown : at? (k :: path) (placed t (.scalar o x) (.name key :: steps)) =
        at? path (placed ((t.member? k).getD nothing) (.scalar o x) steps) := by
      rw [placed, putAt_name, at?, hkey, member?_withMember_self]
      rfl
    rw [hleads, hdown]
    rcases ih ((t.member? k).getD nothing) with hreaches | hpasses | ⟨hno, hpath, hsame⟩
    · exact .inl hreaches
    · exact .inr (.inl hpasses)
    · refine .inr (.inr ⟨hno, List.cons_ne_nil _ _, hsame.trans ?_⟩)
      cases hmember : t.member? k with
      | some sub => simp [at?, hmember]
      | none =>
        cases path with
        | nil => exact absurd rfl hpath
        | cons k' path => simp [at?, hmember]

end SettingTree

open SettingTree

/-- A path has at least one step. -/
theorem settingPath_ne_nil (key : String) : settingPath key ≠ [] := by
  unfold settingPath settingPath?
  dsimp only
  split
  · nofun
  · cases furtherSteps key.toList.length
      (key.toList.drop (key.toList.takeWhile isStepChar).length) <;> nofun

/-- A setting has at least one step, so its value does not replace the whole tree. -/
theorem putAt_settingPath (t v : SettingTree) (key : String) :
    t.putAt v (settingPath key) = placed t v (settingPath key) := by
  cases hpath : settingPath key with
  | nil => exact absurd hpath (settingPath_ne_nil key)
  | cons step steps => rfl

/-- A layer of single values, none of which takes a place away. -/
structure Layer.Spares (layer : Layer) (path : List String) : Prop where
  single : ∀ m ∈ layer, m.2.isNested = false
  spares : ∀ m ∈ layer, SettingTree.Spares (settingPath m.1) path

/-- A layer of single values with different names decides on a place by the value that it has for
it; if that is not what stands there, then there is a table or a list. -/
theorem SettingTree.at?_addLayer {layer : Layer} {path : List String} {name : String}
    (hlayer : layer.Spares path) (hdistinct : (layer.map Prod.fst).Nodup)
    (hname : ∀ m ∈ layer, LeadsTo (settingPath m.1) path ↔ m.1 = name) (t : SettingTree) :
    (∃ w, at? path (t.addLayer layer) = some w ∧ w.isNested = true) ∨
      at? path (t.addLayer layer) = (layer.lookup name).or (at? path t) := by
  induction layer generalizing t with
  | nil => exact .inr rfl
  | cons m layer ih =>
    obtain ⟨key, v⟩ := m
    obtain ⟨hsingle, hsingles⟩ := List.forall_mem_cons.1 hlayer.single
    obtain ⟨hspares, hsparing⟩ := List.forall_mem_cons.1 hlayer.spares
    obtain ⟨hkey, hkeys⟩ := List.forall_mem_cons.1 hname
    obtain ⟨hnew, hdistinct⟩ := List.nodup_cons.1 hdistinct
    have hrest := ih ⟨hsingles, hsparing⟩ hdistinct hkeys (t.putAt v (settingPath key))
    have hfold : t.addLayer ((key, v) :: layer) = (t.putAt v (settingPath key)).addLayer layer :=
      rfl
    rw [hfold]
    obtain ⟨o, x, rfl⟩ := exists_scalar_of_isNested hsingle
    rw [putAt_settingPath] at hrest ⊢
    rcases at?_placed hspares t o x with ⟨hleads, hput⟩ | ⟨hno, w, hput, hw⟩ | ⟨hno, -, hput⟩
    · obtain rfl := hkey.1 hleads
      rw [hput, lookup_eq_none_of_notMem hnew] at hrest
      rw [List.lookup_cons_self]
      exact hrest
    · rw [lookup_cons_of_ne fun heq => hno (hkey.2 heq)]
      rw [hput] at hrest
      rcases hrest with hnested | hsame
      · exact .inl hnested
      · cases hlookup : layer.lookup name with
        | none => exact .inl ⟨w, by rw [hsame, hlookup]; rfl, hw⟩
        | some u => exact .inr (by rw [hsame, hlookup]; rfl)
    · rw [lookup_cons_of_ne fun heq => hno (hkey.2 heq)]
      rw [hput] at hrest
      exact hrest

/-- A name of the layer leads to a member of the tree or below it. -/
def Layer.enters (layer : Layer) (key : String) : Bool :=
  layer.any fun m => (settingPath m.1).head? == some (.name key)

/-- A layer whose names lead to names in a member makes a table of it, or leaves it alone where it
has no such name. -/
theorem SettingTree.member?_addLayer {layer : Layer} {key : String}
    (hsingle : ∀ m ∈ layer, m.2.isNested = false)
    (hfirst : ∀ m ∈ layer, ∃ first steps, settingPath m.1 = .name first :: steps ∧
      settingName first = first)
    (hsteps : ∀ m ∈ layer, ∀ steps, settingPath m.1 = .name key :: steps →
      ∃ next rest, steps = .name next :: rest)
    (t : SettingTree) :
    (layer.enters key = true ∧ ∃ o ms, (t.addLayer layer).member? key = some (.table o ms)) ∨
      (layer.enters key = false ∧ (t.addLayer layer).member? key = t.member? key) := by
  induction layer generalizing t with
  | nil => exact .inr ⟨rfl, rfl⟩
  | cons m layer ih =>
    obtain ⟨name, v⟩ := m
    obtain ⟨hone, hsingles⟩ := List.forall_mem_cons.1 hsingle
    obtain ⟨⟨first, steps, hpath, hfolded⟩, hfirsts⟩ := List.forall_mem_cons.1 hfirst
    obtain ⟨hnext, hnexts⟩ := List.forall_mem_cons.1 hsteps
    have hrest := ih hsingles hfirsts hnexts (t.putAt v (settingPath name))
    have hfold : t.addLayer ((name, v) :: layer) =
        (t.putAt v (settingPath name)).addLayer layer :=
      rfl
    rw [hfold]
    obtain ⟨o, x, rfl⟩ := exists_scalar_of_isNested hone
    have hput : (t.putAt (.scalar o x) (settingPath name)) = t.withMember first
        (placed ((t.member? first).getD nothing) (.scalar o x) steps) := by
      rw [hpath, putAt_name, hfolded]
    rw [hput] at hrest ⊢
    by_cases hkey : first = key
    · subst hkey
      have henters : Layer.enters ((name, .scalar o x) :: layer) first = true := by
        simp [Layer.enters, hpath]
      refine .inl ⟨henters, ?_⟩
      rcases hrest with ⟨-, htable⟩ | ⟨-, hsame⟩
      · exact htable
      · obtain ⟨next, rest, rfl⟩ := hnext steps hpath
        rw [hsame, member?_withMember_self, placed, putAt_name]
        exact ⟨_, _, rfl⟩
    · have henters : Layer.enters ((name, .scalar o x) :: layer) key = Layer.enters layer key := by
        simp [Layer.enters, hpath, hkey]
      rw [member?_withMember_of_ne hkey] at hrest
      rw [henters]
      exact hrest

/-- What a member becomes in a tree where there is nothing under its name. -/
def SettingTree.rebuilt : SettingTree → SettingTree
  | .table _ ms => putAll emptyTable ms
  | t => t

/-- Members that are put into a table make a table. -/
theorem SettingTree.exists_putAll_eq_table (o : Option Origin)
    (ms₀ ms : List (String × SettingTree)) :
    ∃ o' ms', (SettingTree.table o ms₀).putAll ms = .table o' ms' := by
  induction ms generalizing o ms₀ with
  | nil => exact ⟨o, ms₀, by rw [putAll]⟩
  | cons m ms ih =>
    obtain ⟨key, v⟩ := m
    obtain ⟨o₁, ms₁, hput⟩ : ∃ o₁ ms₁, (SettingTree.table o ms₀).put key v = .table o₁ ms₁ := by
      cases v <;> rw [put] <;> exact ⟨_, _, rfl⟩
    rw [putAll, hput]
    exact ih o₁ ms₁

/-- A tree that is rebuilt to a single value was that value. -/
theorem SettingTree.rebuilt_of_single {t : SettingTree} (h : t.rebuilt.isNested = false) :
    t.rebuilt = t := by
  cases t with
  | scalar | list => rfl
  | table o ms =>
    obtain ⟨o', ms', htable⟩ := exists_putAll_eq_table none [] ms
    have hrebuilt : (SettingTree.table o ms).rebuilt = .table o' ms' := htable
    rw [hrebuilt] at h
    cases h

/-- Members under different names that are looked up as they are written. -/
structure Regular (ms : List (String × SettingTree)) : Prop where
  keys : (ms.map Prod.fst).Nodup
  folded : ∀ m ∈ ms, settingName m.1 = m.1

/-- Putting a value under a name leaves the members under other names. -/
theorem SettingTree.member?_put_of_ne {key k : String} (h : settingName key ≠ k)
    (t v : SettingTree) : (t.put key v).member? k = t.member? k := by
  cases v <;> rw [put] <;> exact member?_withMember_of_ne h t _

/-- Where there was no member the value that is put is there, rebuilt. -/
theorem SettingTree.member?_put_of_none {key : String} {t : SettingTree}
    (h : t.member? (settingName key) = none) (v : SettingTree) :
    (t.put key v).member? (settingName key) = some v.rebuilt := by
  cases v with
  | scalar | list =>
    rw [put, member?_withMember_self]
    rfl
  | table o ms =>
    rw [put, member?_withMember_self, h]
    rfl

/-- Putting new members into a tree adds them to those that it has. -/
theorem SettingTree.member?_putAll {ms : List (String × SettingTree)} (hms : Regular ms)
    {t : SettingTree} (hnew : ∀ m ∈ ms, t.member? m.1 = none) (key : String) :
    (t.putAll ms).member? key = ((ms.lookup key).map rebuilt).or (t.member? key) := by
  induction ms generalizing t with
  | nil =>
    rw [putAll]
    rfl
  | cons m ms ih =>
    obtain ⟨k, v⟩ := m
    obtain ⟨habsent, hkeys⟩ := List.nodup_cons.1 hms.keys
    obtain ⟨hk, hfolded⟩ := List.forall_mem_cons.1 hms.folded
    obtain ⟨hnone, hnew⟩ := List.forall_mem_cons.1 hnew
    dsimp only at hk hnone habsent
    have hstill : ∀ m ∈ ms, (t.put k v).member? m.1 = none := by
      intro m hm
      have hne : settingName k ≠ m.1 := by
        rw [hk]
        exact fun heq => habsent (heq ▸ List.mem_map_of_mem hm)
      rw [member?_put_of_ne hne]
      exact hnew m hm
    rw [putAll, ih ⟨hkeys, hfolded⟩ hstill]
    by_cases heq : k = key
    · subst heq
      rw [lookup_eq_none_of_notMem habsent, List.lookup_cons_self]
      have hput := member?_put_of_none (hk.symm ▸ hnone) v
      rw [hk] at hput
      rw [hput]
      rfl
    · rw [lookup_cons_of_ne heq, member?_put_of_ne (hk.symm ▸ heq)]

end BucketLifecycle
