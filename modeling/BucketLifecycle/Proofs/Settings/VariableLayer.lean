import BucketLifecycle.Proofs.Settings.Provision

/-!
# The layer of the variables

A layer of variables decides on each setting by the variable for it, or leaves the setting to what
stands below (`SeparateVariables.at?_addLayer`).  A variable for all retry settings at once, or for
a place in a list of them, would take those below it away; such variables are left out here.
-/

set_option autoImplicit false

namespace BucketLifecycle

open SettingTree

/-- Variables with different names, none of which leads to all retry settings at once or to a place
in a list of them. -/
structure SeparateVariables (vars : Variables) : Prop where
  distinct : (vars.filterMap fun v => settingKey? v.1).Nodup
  entersByName : ∀ v ∈ vars, ∀ key steps, settingKey? v.1 = some key →
    settingPath key = .name "retry" :: steps → ∃ next rest, steps = .name next :: rest

/-- Each setting from variables comes from one of them and is a single value. -/
theorem exists_of_mem_ofVariables {vars : Variables} {m : String × SettingTree}
    (h : m ∈ Layer.ofVariables vars) :
    ∃ v ∈ vars, settingKey? v.1 = some m.1 ∧
      m.2 = .scalar (some .environment) (readScalar v.2) := by
  obtain ⟨v, hv, hm⟩ := List.mem_filterMap.1 h
  obtain ⟨key, hkey, rfl⟩ := Option.map_eq_some_iff.1 hm
  exact ⟨v, hv, hkey, rfl⟩

/-- The keys of the layer are those of the variables, in order. -/
theorem map_fst_ofVariables (vars : Variables) :
    (Layer.ofVariables vars).map Prod.fst = vars.filterMap fun v => settingKey? v.1 := by
  unfold Layer.ofVariables
  rw [List.map_filterMap]
  refine congrArg (List.filterMap · vars) (funext fun v => ?_)
  rw [Option.map_map]
  exact Option.map_id'

/-- The setting of a first variable comes before those of the others. -/
theorem Layer.ofVariables_cons (name value : String) (vars : Variables) :
    Layer.ofVariables ((name, value) :: vars) =
      ((settingKey? name).map fun key =>
        (key, SettingTree.scalar (some .environment) (readScalar value))).toList ++
          Layer.ofVariables vars := by
  unfold Layer.ofVariables
  rw [List.filterMap_cons]
  dsimp only
  cases settingKey? name <;> rfl

/-- The layer of variables has what the environment gives for a setting. -/
theorem Setting.lookup_ofVariables (k : Setting) (vars : Variables) :
    (Layer.ofVariables vars).lookup k.name =
      (k.inEnvironment? vars).map fun text => .scalar (some .environment) (readScalar text) := by
  induction vars with
  | nil => rfl
  | cons v vars ih =>
    obtain ⟨name, value⟩ := v
    unfold inEnvironment? at ih ⊢
    rw [Layer.ofVariables_cons, List.find?_cons]
    cases hkey : settingKey? name with
    | none => exact ih
    | some key =>
      by_cases heq : key = k.name
      · subst heq
        simp
      · have hne : (some key == some k.name) = false := by simpa using heq
        rw [hne]
        exact (lookup_cons_of_ne heq _ _).trans ih

/-- A key leads to the place of a setting exactly where it is the setting's name. -/
theorem Setting.leadsTo_path_iff (k : Setting) {key : String} (hkey : settingName key = key) :
    LeadsTo (settingPath key) k.path ↔ key = k.name := by
  rcases k.path_cases with ⟨a, hpath, -, hname, ha⟩ | ⟨b, _, hpath, -, hname, hpair, hb⟩
  · rw [hpath, hname]
    exact leadsTo_single_iff hkey ha
  · rw [hpath, hname]
    exact leadsTo_pair_iff hkey hpair (by decide) hb

/-- A path below one name spares what stands under another. -/
theorem SettingTree.spares_single (first key : String) (steps : List SettingStep) :
    Spares (.name first :: steps) [key] := by
  by_cases h : settingName first = key
  · refine .follows h ?_
    cases steps with
    | nil => exact .reaches
    | cons step steps => exact .passes
  · exact .parts h

/-- Each key of the layer begins with a name in small letters. -/
theorem Layer.exists_first {vars : Variables} : ∀ m ∈ Layer.ofVariables vars, ∃ first steps,
    settingPath m.1 = .name first :: steps ∧ settingName first = first := by
  intro m hm
  obtain ⟨v, -, hkey, -⟩ := exists_of_mem_ofVariables hm
  exact exists_first_of_settingName (settingName_of_settingKey? hkey)

/-- Variables give single values only. -/
theorem Layer.isNested_ofVariables {vars : Variables} :
    ∀ m ∈ Layer.ofVariables vars, m.2.isNested = false := by
  intro m hm
  obtain ⟨v, -, -, hvalue⟩ := exists_of_mem_ofVariables hm
  rw [hvalue]
  rfl

section

variable {vars : Variables} (hvars : SeparateVariables vars)

include hvars

/-- A variable that enters the retry settings names one of them. -/
theorem SeparateVariables.next : ∀ m ∈ Layer.ofVariables vars, ∀ steps,
    settingPath m.1 = .name "retry" :: steps → ∃ next rest, steps = .name next :: rest := by
  intro m hm steps hsteps
  obtain ⟨v, hv, hkey, -⟩ := exists_of_mem_ofVariables hm
  exact hvars.entersByName v hv m.1 steps hkey hsteps

/-- The variables take no setting away. -/
theorem SeparateVariables.spares (k : Setting) : (Layer.ofVariables vars).Spares k.path where
  single := Layer.isNested_ofVariables
  spares := by
    intro m hm
    obtain ⟨first, steps, hpath, hfirst⟩ := Layer.exists_first m hm
    rw [hpath]
    rcases k.path_cases with ⟨a, hk, -⟩ | ⟨b, _, hk, -⟩
    · rw [hk]
      exact spares_single first a steps
    · rw [hk]
      by_cases hretry : first = "retry"
      · subst hretry
        obtain ⟨next, rest, rfl⟩ := hvars.next m hm steps hpath
        exact .follows hfirst (spares_single next b rest)
      · exact .parts (hfirst.symm ▸ hretry)

/-- The variables give a setting, or leave it as it is; otherwise it is a table or a list. -/
theorem SeparateVariables.at?_addLayer (k : Setting) (t : SettingTree) :
    (∃ w, at? k.path (t.addLayer (Layer.ofVariables vars)) = some w ∧ w.isNested = true) ∨
      at? k.path (t.addLayer (Layer.ofVariables vars)) =
        ((k.inEnvironment? vars).map fun text =>
          .scalar (some .environment) (readScalar text)).or (at? k.path t) := by
  rw [← k.lookup_ofVariables vars]
  refine SettingTree.at?_addLayer (hvars.spares k) ?_ (fun m hm => ?_) t
  · rw [map_fst_ofVariables]
    exact hvars.distinct
  · obtain ⟨v, -, hkey, -⟩ := exists_of_mem_ofVariables hm
    exact k.leadsTo_path_iff (settingName_of_settingKey? hkey)

/-- The variables make a table of the retry settings, or leave them as they are. -/
theorem SeparateVariables.member?_retry (t : SettingTree) :
    ((Layer.ofVariables vars).enters "retry" = true ∧
        ∃ o ms, (t.addLayer (Layer.ofVariables vars)).member? "retry" = some (.table o ms)) ∨
      ((Layer.ofVariables vars).enters "retry" = false ∧
        (t.addLayer (Layer.ofVariables vars)).member? "retry" = t.member? "retry") :=
  member?_addLayer Layer.isNested_ofVariables Layer.exists_first hvars.next t

end

/-- The variable for a retry setting leads to one. -/
theorem Setting.inEnvironment?_eq_none {k : Setting} {key : String} {vars : Variables}
    (hname : settingPath k.name = [.name "retry", .name key])
    (h : (Layer.ofVariables vars).enters "retry" = false) : k.inEnvironment? vars = none := by
  cases hvariable : k.inEnvironment? vars with
  | none => rfl
  | some text =>
    have hlookup := k.lookup_ofVariables vars
    rw [hvariable, Option.map_some] at hlookup
    obtain ⟨before, after, hlayer, -⟩ := List.lookup_eq_some_iff.1 hlookup
    rw [Layer.enters, hlayer, List.any_append, List.any_cons, hname] at h
    simp at h

end BucketLifecycle
