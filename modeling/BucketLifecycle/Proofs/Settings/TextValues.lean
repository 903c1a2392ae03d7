import BucketLifecycle.Proofs.Decimal.Grammar
import BucketLifecycle.Proofs.Settings.Layering

/-!
# Texts from variables

The endpoint, the project and the access token are texts, but the value of a variable is read as a
truth value or a number first and becomes a text again only when the setting is read.  `Arrives`
says what is left of it: a truth value is in small letters, a number in its standard spelling, and
any other value is as it was.  `textSetting_arrives` says that this is the setting, whatever other
variables and files there are.
-/

set_option autoImplicit false

namespace BucketLifecycle

open SettingTree

/-! ### What a value arrives as -/

/-- The word for a truth value. -/
def truthWord (b : Bool) : String :=
  if b then "true" else "false"

/-- A 64-bit number with a sign. -/
def FitsInt64 (n : Int) : Prop :=
  -(Text.int64Limit : Int) ≤ n ∧ n < Text.int64Limit

instance (n : Int) : Decidable (FitsInt64 n) :=
  inferInstanceAs (Decidable (_ ∧ _))

/-- What the value of a variable arrives as where a text is wanted. -/
inductive Arrives (v : String) : String → Prop
  | truth {b : Bool} (h : Decimal.inSmallLetters v.toList = truthWord b) : Arrives v (truthWord b)
  | whole {n : Int} (h : Text.SpellsInt v.toList n) (hfits : FitsInt64 n) :
    Arrives v (String.ofList (Text.writeInt n))
  | real {x : Float} (hwhole : ∀ n, Text.SpellsInt v.toList n → ¬FitsInt64 n)
      (h : Decimal.SpellsReal v.toList x) : Arrives v (Decimal.FloatStyle.plain.write x)
  | itself (htruth : ∀ b, Decimal.inSmallLetters v.toList ≠ truthWord b)
      (hnumber : ∀ x, ¬Decimal.SpellsReal v.toList x) : Arrives v v

/-- A text is read as a number of 64 bits exactly where it spells one that fits. -/
theorem readInt64_eq_ok_iff {cs : List Char} {n : Int} :
    Text.readInt64 cs = .ok n ↔ Text.SpellsInt cs n ∧ FitsInt64 n := by
  unfold Text.readInt64 FitsInt64
  constructor
  · intro h
    obtain ⟨hspells, hlo, hhi⟩ := Text.spellsInt_of_readBounded (by decide) (by decide) h
    exact ⟨hspells, hlo, by omega⟩
  · rintro ⟨hspells, hlo, hhi⟩
    exact Text.readBounded_of_spellsInt hspells (by decide) hlo (by omega)

/-- A number that fits 64 bits is kept in them. -/
theorem toInt_ofInt_of_fits {n : Int} (h : FitsInt64 n) : (Int64.ofInt n).toInt = n := by
  obtain ⟨hlo, hhi⟩ := h
  unfold Text.int64Limit at hlo hhi
  exact Int64.toInt_ofInt_of_le (by omega) (by omega)

/-- A number is no word for a truth value. -/
theorem ne_truthWord_of_spellsReal {cs : List Char} {x : Float} (h : Decimal.SpellsReal cs x)
    (b : Bool) : Decimal.inSmallLetters cs ≠ truthWord b := by
  cases b
  · exact h.ne_word rfl (by decide)
  · exact h.ne_word rfl (by decide)

section

variable {v : String}

/-- A word of truth in any case of letters is read as a truth value. -/
theorem readScalar_of_truth {b : Bool} (h : Decimal.inSmallLetters v.toList = truthWord b) :
    readScalar v = .boolean b := by
  unfold Decimal.inSmallLetters at h
  unfold readScalar
  rw [h]
  cases b <;> rfl

/-- A value that is no word of truth is a whole number, another number or a text. -/
theorem readScalar_of_other (h : ∀ b, Decimal.inSmallLetters v.toList ≠ truthWord b) :
    readScalar v = match Text.readInt64 v.toList with
      | .ok n => .integer (Int64.ofInt n)
      | .error _ => match Decimal.readFloat v.toList with
        | some x => .floating x
        | none => .text v := by
  have htrue : String.ofList (v.toList.map Char.toLower) ≠ "true" := h true
  have hfalse : String.ofList (v.toList.map Char.toLower) ≠ "false" := h false
  unfold readScalar
  exact (if_neg htrue).trans (if_neg hfalse)

/-- A whole number that fits is read as that number. -/
theorem readScalar_of_whole {n : Int} (h : Text.SpellsInt v.toList n) (hfits : FitsInt64 n) :
    readScalar v = .integer (Int64.ofInt n) := by
  obtain ⟨x, hx⟩ := Decimal.exists_spellsReal_of_spellsInt h
  rw [readScalar_of_other (ne_truthWord_of_spellsReal hx), readInt64_eq_ok_iff.2 ⟨h, hfits⟩]

/-- A text that spells no fitting whole number is not read as one. -/
theorem readInt64_of_other (h : ∀ n, Text.SpellsInt v.toList n → ¬FitsInt64 n) :
    ∃ e, Text.readInt64 v.toList = .error e := by
  cases hread : Text.readInt64 v.toList with
  | error e => exact ⟨e, rfl⟩
  | ok n =>
    obtain ⟨hspells, hfits⟩ := readInt64_eq_ok_iff.1 hread
    exact absurd hfits (h n hspells)

/-- Another number is read as a floating-point one. -/
theorem readScalar_of_real {x : Float} (hwhole : ∀ n, Text.SpellsInt v.toList n → ¬FitsInt64 n)
    (h : Decimal.SpellsReal v.toList x) : readScalar v = .floating x := by
  obtain ⟨e, he⟩ := readInt64_of_other hwhole
  rw [readScalar_of_other (ne_truthWord_of_spellsReal h), he]
  dsimp only
  rw [Decimal.readFloat_eq_some_iff.2 h]

/-- A value that is neither a truth value nor a number is read as its text. -/
theorem readScalar_of_itself (htruth : ∀ b, Decimal.inSmallLetters v.toList ≠ truthWord b)
    (hnumber : ∀ x, ¬Decimal.SpellsReal v.toList x) : readScalar v = .text v := by
  have hwhole (n : Int) (hn : Text.SpellsInt v.toList n) : ¬FitsInt64 n := by
    obtain ⟨x, hx⟩ := Decimal.exists_spellsReal_of_spellsInt hn
    exact absurd hx (hnumber x)
  obtain ⟨e, he⟩ := readInt64_of_other hwhole
  have hread : Decimal.readFloat v.toList = none := by
    rw [Option.eq_none_iff_forall_ne_some]
    exact fun x hx => hnumber x (Decimal.readFloat_eq_some_iff.1 hx)
  rw [readScalar_of_other htruth, he]
  dsimp only
  rw [hread]

/-- A value is a truth value, a whole number, another number, or neither. -/
theorem exists_arrives (v : String) : ∃ w, Arrives v w := by
  by_cases htruth : ∃ b, Decimal.inSmallLetters v.toList = truthWord b
  · obtain ⟨b, hb⟩ := htruth
    exact ⟨_, .truth hb⟩
  · by_cases hwhole : ∃ n, Text.SpellsInt v.toList n ∧ FitsInt64 n
    · obtain ⟨n, hn, hfits⟩ := hwhole
      exact ⟨_, .whole hn hfits⟩
    · by_cases hreal : ∃ x, Decimal.SpellsReal v.toList x
      · obtain ⟨x, hx⟩ := hreal
        exact ⟨_, .real (fun n hn hfits => hwhole ⟨n, hn, hfits⟩) hx⟩
      · exact ⟨v, .itself (not_exists.1 htruth) (not_exists.1 hreal)⟩

/-- What a value arrives as is the text that is read of it. -/
theorem Arrives.text_eq {w : String} (h : Arrives v w) (o : Option Origin) :
    SettingTree.text (.scalar o (readScalar v)) = .ok w := by
  cases h with
  | truth h =>
    rw [readScalar_of_truth h]
    rfl
  | whole h hfits =>
    rw [readScalar_of_whole h hfits, SettingTree.text, toInt_ofInt_of_fits hfits]
  | real hwhole h =>
    rw [readScalar_of_real hwhole h]
    rfl
  | itself htruth hnumber =>
    rw [readScalar_of_itself htruth hnumber]
    rfl

/-- Read as a text, a variable gives what its value arrives as. -/
theorem text_readScalar_iff {o : Option Origin} {w : String} :
    SettingTree.text (.scalar o (readScalar v)) = .ok w ↔ Arrives v w := by
  refine ⟨fun h => ?_, fun h => h.text_eq o⟩
  obtain ⟨w', hw'⟩ := exists_arrives v
  obtain rfl : w' = w := Except.ok.inj ((hw'.text_eq o).symm.trans h)
  exact hw'

end

/-! ### The last variable for a setting -/

/-- A layer of single values that spares a place and has none for it leaves the single value there
as it is, or makes a table or a list of it. -/
theorem SettingTree.at?_addLayer_of_passed {layer : Layer} {path : List String}
    (hlayer : layer.Spares path) (hother : ∀ m ∈ layer, ¬LeadsTo (settingPath m.1) path)
    {t u : SettingTree} (hu : at? path t = some u) :
    ∃ w, at? path (t.addLayer layer) = some w ∧ (w = u ∨ w.isNested = true) := by
  -- A value that is put next to the place may make a table of it, which then stays one.
  induction layer generalizing t u with
  | nil => exact ⟨u, hu, .inl rfl⟩
  | cons m layer ih =>
    obtain ⟨key, v⟩ := m
    obtain ⟨hsingle, hsingles⟩ := List.forall_mem_cons.1 hlayer.single
    obtain ⟨hspares, hsparing⟩ := List.forall_mem_cons.1 hlayer.spares
    obtain ⟨hkey, hkeys⟩ := List.forall_mem_cons.1 hother
    obtain ⟨o, x, rfl⟩ := exists_scalar_of_isNested hsingle
    have hfold : t.addLayer ((key, .scalar o x) :: layer) =
        (t.putAt (.scalar o x) (settingPath key)).addLayer layer :=
      rfl
    rw [hfold, putAt_settingPath]
    rcases at?_placed hspares t o x with ⟨hleads, -⟩ | ⟨-, w, hw, hnested⟩ | ⟨-, -, hsame⟩
    · exact absurd hleads hkey
    · obtain ⟨w', hw', heq | hnested'⟩ := ih ⟨hsingles, hsparing⟩ hkeys hw
      · exact ⟨w', hw', .inr (heq ▸ hnested)⟩
      · exact ⟨w', hw', .inr hnested'⟩
    · exact ih ⟨hsingles, hsparing⟩ hkeys (hsame.trans hu)

/-- Variables take no setting away that stands at the top. -/
theorem Layer.spares_ofVariables (vars : Variables) (key : String) :
    (Layer.ofVariables vars).Spares [key] where
  single := Layer.isNested_ofVariables
  spares := by
    intro m hm
    obtain ⟨first, steps, hpath, -⟩ := Layer.exists_first m hm
    rw [hpath]
    exact spares_single first key steps

/-- The setting of a variable stands between those of the variables around it. -/
theorem Layer.ofVariables_append_cons {before after : Variables} {name v key : String}
    (hvariable : settingKey? name = some key) :
    Layer.ofVariables (before ++ (name, v) :: after) = Layer.ofVariables before ++
      (key, .scalar (some .environment) (readScalar v)) :: Layer.ofVariables after := by
  rw [Layer.ofVariables, List.filterMap_append]
  refine congrArg (Layer.ofVariables before ++ ·) ?_
  show Layer.ofVariables ((name, v) :: after) = _
  rw [Layer.ofVariables_cons, hvariable]
  rfl

/-- The last variable for a setting at the top gives it, unless another one makes a table or a list
of it. -/
theorem Setting.member?_addLayer_ofVariables {k : Setting} {key : String} (hpath : k.path = [key])
    (hname : k.name = key) {before after : Variables} {name v : String}
    (hvariable : settingKey? name = some k.name)
    (hlast : ∀ w ∈ after, settingKey? w.1 ≠ some k.name) (t : SettingTree) :
    ∃ w, (t.addLayer (Layer.ofVariables (before ++ (name, v) :: after))).member? key = some w ∧
      (w = .scalar (some .environment) (readScalar v) ∨ w.isNested = true) := by
  have hsingle : settingPath k.name = [.name key] := by
    rcases k.path_cases with ⟨a, ha, -, haname, hsteps⟩ | ⟨b, _, hb, -⟩
    · rw [hpath] at ha
      cases ha
      rw [haname, hsteps]
    · rw [hpath] at hb
      cases hb
  have hother : ∀ m ∈ Layer.ofVariables after, ¬LeadsTo (settingPath m.1) [key] := by
    intro m hm hleads
    obtain ⟨w, hw, hkey, -⟩ := exists_of_mem_ofVariables hm
    rw [← hpath, k.leadsTo_path_iff (settingName_of_settingKey? hkey)] at hleads
    exact hlast w hw (hleads ▸ hkey)
  have hput : at? [key] ((t.addLayer (Layer.ofVariables before)).putAt
      (.scalar (some .environment) (readScalar v)) (settingPath k.name)) =
        some (.scalar (some .environment) (readScalar v)) := by
    have hfolded : settingName key = key := hname ▸ settingName_of_settingKey? hvariable
    rw [hsingle, at?_single, putAt_name, hfolded]
    exact member?_withMember_self _ _ _
  rw [← at?_single, Layer.ofVariables_append_cons hvariable, SettingTree.addLayer,
    List.foldl_append, List.foldl_cons]
  exact SettingTree.at?_addLayer_of_passed (Layer.spares_ofVariables after key) hother hput

/-! ### The settings that are texts -/

/-- The settings that are texts. -/
inductive TextSetting where
  | endpoint
  | project
  | accessToken
  deriving DecidableEq

namespace TextSetting

def toSetting : TextSetting → Setting
  | .endpoint => .endpoint
  | .project => .project
  | .accessToken => .accessToken

def get : TextSetting → Settings → Option String
  | .endpoint, s => some s.endpoint
  | .project, s => s.project
  | .accessToken, s => s.accessToken

/-- What is given beside the command. -/
def flag? : TextSetting → Invocation → Option String
  | .endpoint, i => i.endpoint
  | .project, i => i.project
  | .accessToken, i => i.accessToken

/-- The variable for the setting. -/
def variableName : TextSetting → String
  | .endpoint => "STEWARD_ENDPOINT"
  | .project => "STEWARD_PROJECT"
  | .accessToken => "STEWARD_ACCESS_TOKEN"

/-- The variable of a setting is for its name. -/
theorem settingKey?_variableName (k : TextSetting) :
    settingKey? k.variableName = some k.toSetting.name := by
  cases k <;> decide +kernel

/-- A text setting is read as a text. -/
theorem reading_environment (k : TextSetting) (v : String) (s : Settings)
    (h : k.toSetting.reading (.scalar (some .environment) (readScalar v)) =
      .ok (k.toSetting.get s)) :
    ∃ w, k.get s = some w ∧
      SettingTree.text (.scalar (some .environment) (readScalar v)) = .ok w := by
  have hoptional {text : Option String}
      (h : optionalText (.scalar (some .environment) (readScalar v)) = .ok text) :
      ∃ w, text = some w ∧
        SettingTree.text (.scalar (some .environment) (readScalar v)) = .ok w := by
    obtain ⟨w, hw⟩ := exists_arrives v
    have hw := hw.text_eq (some .environment)
    unfold optionalText at h
    split at h
    · next hnull =>
      rw [hnull] at hw
      cases hw
    · rw [hw] at h
      cases h
      exact ⟨w, rfl, hw⟩
  cases k with
  | endpoint => exact ⟨_, rfl, h⟩
  | project => exact hoptional h
  | accessToken => exact hoptional h

/-- A text setting of a tree that has it from a variable. -/
theorem get_of_found {k : TextSetting} {t : SettingTree} {s : Settings} {v : String}
    {w : SettingTree} (hread : Settings.ofTree t = .ok s) (hfound : k.toSetting.found? t = some w)
    (hw : w = .scalar (some .environment) (readScalar v) ∨ w.isNested = true) :
    ∃ text, k.get s = some text ∧ Arrives v text := by
  have hsetting := Setting.readFrom_of_ofTree hread k.toSetting
  rw [hfound] at hsetting
  rcases hw with rfl | hnested
  · rcases hsetting with ⟨hnone, -⟩ | ⟨u, hu, hreading⟩
    · cases hnone
    · cases hu
      obtain ⟨text, hget, htext⟩ := k.reading_environment v s hreading
      exact ⟨text, hget, text_readScalar_iff.1 htext⟩
  · exact absurd hsetting (Setting.not_readFrom_of_isNested hnested)

end TextSetting

/-- A value arrives as one text. -/
theorem Arrives.unique {v w w' : String} (h : Arrives v w) (h' : Arrives v w') : w = w' :=
  Except.ok.inj ((h.text_eq none).symm.trans (h'.text_eq none))

/-- A setting that is not on the command line is left. -/
theorem TextSetting.get_override {k : TextSetting} {i : Invocation} (h : k.flag? i = none)
    (s : Settings) : k.get (i.override s) = k.get s := by
  cases k <;> unfold flag? at h <;> simp [get, Invocation.override, h]

/-- The tree of a file that may be named, with the layer of the variables above it. -/
theorem Settings.exists_tree_of_load {file : Option Path} {vars : Variables} {files : FileTree}
    {s : Settings} (h : Settings.load file vars files = .ok s) :
    ∃ t : SettingTree, Settings.ofTree (t.addLayer (Layer.ofVariables vars)) = .ok s := by
  obtain ⟨layers, -, hread⟩ := exists_of_bind_eq_ok h
  have htree : SettingTree.ofLayers (layers ++ [Layer.ofVariables vars]) =
      (SettingTree.ofLayers layers).addLayer (Layer.ofVariables vars) :=
    List.foldl_append
  rw [htree] at hread
  exact ⟨_, eq_ok_of_mapError hread⟩

/-- A text setting that no flag gives is what the value of its last variable arrives as, in every
file and among all other variables.  So it is the value itself where that is neither a truth value
nor a number. -/
theorem textSetting_arrives (k : TextSetting) {i : Invocation} {files : FileTree}
    {before after : Variables} {name v : String} {s : Settings} (hflag : k.flag? i = none)
    (hname : settingKey? name = some k.toSetting.name)
    (hlast : ∀ w ∈ after, settingKey? w.1 ≠ some k.toSetting.name)
    (hresolve : i.resolve (before ++ (name, v) :: after) files = .ok s) :
    (∀ w, k.get s = some w ↔ Arrives v w) ∧
      ((∀ b, Decimal.inSmallLetters v.toList ≠ truthWord b) →
        (∀ x, ¬Decimal.SpellsReal v.toList x) → k.get s = some v) := by
  obtain ⟨lower, hload, rfl⟩ := exists_of_map_eq_ok hresolve
  obtain ⟨t, hread⟩ := Settings.exists_tree_of_load hload
  obtain ⟨key, hpath, hplace, hkey⟩ : ∃ key, k.toSetting.path = [key] ∧
      k.toSetting.place? = none ∧ k.toSetting.name = key := by
    cases k <;> exact ⟨_, rfl, rfl, by decide⟩
  obtain ⟨w, hw, hvalue⟩ := Setting.member?_addLayer_ofVariables hpath hkey hname hlast t
  have hfound := (Setting.found?_of_single hpath hplace).trans hw
  obtain ⟨text, hget, harrives⟩ := TextSetting.get_of_found hread hfound hvalue
  rw [TextSetting.get_override hflag]
  have harrival (w : String) : k.get lower = some w ↔ Arrives v w := by
    rw [hget, Option.some.injEq]
    exact ⟨fun h => h ▸ harrives, harrives.unique⟩
  exact ⟨harrival, fun htruth hnumber => (harrival v).2 (.itself htruth hnumber)⟩

/-- A command without flags. -/
def plainCommand : Invocation :=
  ⟨none, none, none, none, none, false, .expire "gs://ci-artifacts" 30 none none⟩

/-- A project that is a number with zeros in front. -/
def paddedVariables : Variables :=
  [("STEWARD_PROJECT", "007"), ("STEWARD_ACCESS_TOKEN", "TRUE")]

/-- The zeros in front of a number do not arrive. -/
theorem arrives_of_padded_number :
    ∃ s, plainCommand.resolve paddedVariables .empty = .ok s ∧
      TextSetting.project.flag? plainCommand = none ∧
      settingKey? "STEWARD_PROJECT" = some Setting.project.name ∧
      (∀ w ∈ [("STEWARD_ACCESS_TOKEN", "TRUE")], settingKey? w.1 ≠ some Setting.project.name) ∧
      s.project = some "7" := by
  have hresolved : (plainCommand.resolve paddedVariables .empty).toOption.isSome = true := by
    decide +kernel
  have hname : settingKey? "STEWARD_PROJECT" = some Setting.project.name :=
    TextSetting.settingKey?_variableName .project
  have hlast : ∀ w ∈ [("STEWARD_ACCESS_TOKEN", "TRUE")],
      settingKey? w.1 ≠ some Setting.project.name := by
    decide +kernel
  obtain ⟨s, hs⟩ := Option.isSome_iff_exists.1 hresolved
  have hresolve : plainCommand.resolve ([] ++ ("STEWARD_PROJECT", "007") ::
      [("STEWARD_ACCESS_TOKEN", "TRUE")]) .empty = .ok s :=
    toOption_eq_some hs
  obtain ⟨harrives, -⟩ := textSetting_arrives .project rfl hname hlast hresolve
  have hseven : Arrives "007" "7" := .whole (.digits (by decide)) (by decide +kernel)
  exact ⟨s, toOption_eq_some hs, rfl, hname, hlast, (harrives "7").2 hseven⟩

/-- A file with the same project. -/
def paddedFile : String := "project = \"007\"\n"

/-- Variables change a project and a token that no flag gives.  A flag and a file leave the same
project as it is. -/
theorem altered_of_variables :
    plainCommand.project = none ∧ plainCommand.accessToken = none ∧
      (plainCommand.resolve paddedVariables .empty).toOption.map
        (fun s => (s.project, s.accessToken)) = some (some "7", some "true") ∧
      ({ plainCommand with project := some "007" }.resolve paddedVariables .empty).toOption.map
        Settings.project = some (some "007") ∧
      ({ plainCommand with file := pipelineCommand.file }.resolve []
        (settingsDirectory paddedFile)).toOption.map Settings.project = some (some "007") :=
  ⟨rfl, rfl, by decide +kernel, by decide +kernel, by decide +kernel⟩

end BucketLifecycle
