import BucketLifecycle.Proofs.Settings.FileLayer
import BucketLifecycle.Proofs.Settings.VariableLayer
import Mathlib

/-!
# Layers of settings

The tree that settings are read from has the layer of the variables above that of the file, and what
is given beside a command stands above both.  Each setting comes from the highest of these layers
that has it (`resolve_layers`), whatever becomes of the others.
-/

set_option autoImplicit false

namespace BucketLifecycle

open SettingTree

/-! ### One layer above another -/

namespace Setting

variable {k : Setting} {vars : Variables} {ms : Toml.Members} {x : k.Value}

/-- A setting is never read from a list or a table. -/
theorem not_readFrom_of_isNested {t : SettingTree} (h : t.isNested = true) :
    ¬k.ReadFrom (some t) x := by
  rintro (⟨hnone, -⟩ | ⟨u, hsome, hread⟩)
  · cases hnone
  · cases hsome
    obtain ⟨o, y, rfl, -⟩ := k.takesSingle t x hread
    cases h

/-- A setting that is read from a rebuilt value is read from the value itself. -/
theorem readFrom_of_rebuilt {o : Origin} {v? : Option Toml.Value}
    (h : k.ReadFrom (v?.map fun v => (ofToml o v).rebuilt) x) :
    k.ReadFrom (v?.map (ofToml o)) x := by
  cases v? with
  | none => exact h
  | some v =>
    cases hnested : (ofToml o v).rebuilt.isNested with
    | true => exact absurd h (not_readFrom_of_isNested hnested)
    | false =>
      rw [Option.map_some, rebuilt_of_single hnested] at h
      exact h

/-- What a setting is read from in a file gives it, or it has its standard value. -/
theorem gives_of_readFrom (o : Origin) (v? : Option Toml.Value)
    (h : k.ReadFrom (v?.map (ofToml o)) x) :
    (v?.elim .standard .file : Provision k.Value).Gives k x := by
  cases v? with
  | none =>
    rcases h with ⟨-, hx⟩ | ⟨t, ht, -⟩
    · exact hx
    · cases ht
  | some v =>
    rcases h with ⟨hnone, -⟩ | ⟨t, ht, hread⟩
    · cases hnone
    · cases ht
      obtain ⟨o', y, heq, hother⟩ := k.takesSingle _ x hread
      intro o''
      have hsame : ofToml o'' v = .scalar (some o'') y := by
        cases v <;> cases heq <;> rfl
      rw [hsame]
      exact hother (some o'')

/-- A variable stands above whatever is below it. -/
theorem gives_of_above (hvars : SeparateVariables vars) {t : SettingTree}
    (h : k.ReadFrom (at? k.path (t.addLayer (Layer.ofVariables vars))) x)
    (hbelow : k.ReadFrom (at? k.path t) x →
      ((k.inFile? vars ms).elim .standard .file : Provision k.Value).Gives k x) :
    (k.lowerProvision vars ms).Gives k x := by
  rcases hvars.at?_addLayer k t with ⟨w, hw, hnested⟩ | hsame
  · rw [hw] at h
    exact absurd h (not_readFrom_of_isNested hnested)
  · rw [hsame] at h
    unfold lowerProvision
    cases hvariable : k.inEnvironment? vars with
    | none =>
      rw [hvariable] at h
      exact hbelow h
    | some text =>
      rw [hvariable] at h
      rcases h with ⟨hnone, -⟩ | ⟨u, hu, hread⟩
      · cases hnone
      · cases hu
        exact hread

/-- A setting without steps within stands in the file under its key. -/
theorem inFile?_of_single {key : String} (hpath : k.path = [key]) :
    k.inFile? vars ms = ms.lookup key := by
  unfold inFile?
  rw [hpath]

/-- Where a variable enters the retry settings, the file's count only as a table. -/
theorem inFile?_of_entered {key : String} (hpath : k.path = ["retry", key])
    (h : (Layer.ofVariables vars).enters "retry" = true) :
    k.inFile? vars ms = innerMember? ms key := by
  unfold inFile? innerMember?
  rw [hpath]
  cases hvalue : ms.lookup "retry" with
  | none => simp [hvalue]
  | some v =>
    cases v with
    | array items => simp [hvalue, h]
    | table _ _ | string _ | integer _ | floating _ | boolean _ | moment _ | tables _ =>
      simp [hvalue]

/-- The value for a retry setting in what a file gives for all of them. -/
def retryItem? (key : String) (place : Nat) : Toml.Value → Option Toml.Value
  | .table _ sub => sub.lookup key
  | .array items => items[place]?
  | _ => none

/-- Where no variable enters the retry settings, the file's count as a table or as a list. -/
theorem inFile?_of_left {key : String} {place : Nat} (hpath : k.path = ["retry", key])
    (hplace : k.place? = some place) (h : (Layer.ofVariables vars).enters "retry" = false) :
    k.inFile? vars ms = (ms.lookup "retry").bind (retryItem? key place) := by
  unfold inFile?
  rw [hpath, hplace]
  cases hvalue : ms.lookup "retry" with
  | none => simp [hvalue]
  | some v =>
    cases v with
    | array items => simp [hvalue, h, retryItem?]
    | table _ _ | string _ | integer _ | floating _ | boolean _ | moment _ | tables _ =>
      simp [hvalue, retryItem?]

/-- Where no variable leads to a retry setting, those of the file are read as they are. -/
theorem gives_of_retry (hplain : PlainKeys ms) (hdistinct : ms.Distinct) {key : String}
    {place : Nat} (hpath : k.path = ["retry", key]) (hplace : k.place? = some place) {o : Origin}
    {v : Toml.Value} (hvalue : ms.lookup "retry" = some v) {t : SettingTree}
    (hretry : t.member? "retry" = some (ofToml o v).rebuilt) (h : k.ReadFrom (k.found? t) x) :
    ((retryItem? key place v).elim .standard .file : Provision k.Value).Gives k x := by
  cases v with
  | table kind sub =>
    obtain ⟨o', ms', htable⟩ := exists_putAll_eq_table none [] (ofToml.ofMembers o sub)
    have hsub := Toml.Value.distinct_table_iff.1 (hdistinct.of_lookup hvalue)
    have hmember := member?_putAll_ofMembers (hplain.of_lookup hvalue) hsub.keys o key
    rw [ofToml, rebuilt, emptyTable, htable] at hretry
    rw [emptyTable, htable] at hmember
    have hlookup : ms'.lookup key = (sub.lookup key).map fun v => (ofToml o v).rebuilt := hmember
    rw [found?_of_table hpath hretry, hlookup] at h
    exact gives_of_readFrom o _ (readFrom_of_rebuilt h)
  | array items =>
    have hlist : t.member? "retry" = some (.list (some o) (ofToml.ofItems o items)) := by
      rw [hretry, ofToml]
      rfl
    rw [found?_of_list hplace hlist, getElem?_ofItems] at h
    exact gives_of_readFrom o _ h
  | tables items =>
    have hlist : t.member? "retry" = some (.list (some o) (ofToml.ofTables o items)) := by
      rw [hretry, ofToml]
      rfl
    rw [found?_of_list hplace hlist] at h
    cases hitem : (ofToml.ofTables o items)[place]? with
    | none =>
      rw [hitem] at h
      exact gives_of_readFrom o none h
    | some u =>
      rw [hitem] at h
      exact absurd h (not_readFrom_of_isNested (isNested_of_getElem?_ofTables hitem))
  | string _ | integer _ | floating _ | boolean _ | moment _ =>
    have hnone : k.found? t = none := by
      rw [ofToml] at hretry
      exact found?_of_scalar hpath hretry
    rw [hnone] at h
    exact gives_of_readFrom o none h

/-- What a setting is read from, in a file below variables, is what the layers provide. -/
theorem gives_of_found (hplain : PlainKeys ms) (hdistinct : ms.Distinct)
    (hvars : SeparateVariables vars) (o : Origin)
    (h : k.ReadFrom (k.found? ((fileTree o ms).addLayer (Layer.ofVariables vars))) x) :
    (k.lowerProvision vars ms).Gives k x := by
  rcases k.path_cases with ⟨key, hpath, hplace, -⟩ | ⟨key, place, hpath, hplace, hname, hpair, -⟩
  · rw [found?_of_single hpath hplace, ← at?_single, ← hpath] at h
    refine gives_of_above hvars h fun hfile => ?_
    rw [hpath, at?_single, member?_fileTree hplain hdistinct] at hfile
    rw [inFile?_of_single hpath]
    exact gives_of_readFrom o _ (readFrom_of_rebuilt hfile)
  · rcases hvars.member?_retry (fileTree o ms) with ⟨hentered, o', ms', htable⟩ | ⟨hleft, hretry⟩
    · rw [found?_of_table hpath htable, ← at?_of_table htable, ← hpath] at h
      refine gives_of_above hvars h fun hfile => ?_
      rw [hpath, at?_fileTree_retry hplain hdistinct] at hfile
      rw [inFile?_of_entered hpath hentered]
      exact gives_of_readFrom o _ (readFrom_of_rebuilt hfile)
    · rw [member?_fileTree hplain hdistinct] at hretry
      unfold lowerProvision
      rw [inEnvironment?_eq_none (hname ▸ hpair) hleft, inFile?_of_left hpath hplace hleft]
      dsimp only
      cases hvalue : ms.lookup "retry" with
      | none =>
        rw [hvalue] at hretry
        rw [found?_of_none hpath hretry] at h
        exact gives_of_readFrom o none h
      | some v =>
        rw [hvalue] at hretry
        exact gives_of_retry hplain hdistinct hpath hplace hvalue hretry h

end Setting

/-! ### The layers of a command -/

section

variable {files : FileTree} {vars : Variables} {ms : Toml.Members}

/-- The settings of a file and of variables are those of one tree. -/
theorem FileTable.exists_ofTree {file : Option Path} (hfile : FileTable files file ms)
    {s : Settings} (h : Settings.load file vars files = .ok s) :
    ∃ o, Settings.ofTree ((fileTree o ms).addLayer (Layer.ofVariables vars)) = .ok s := by
  obtain ⟨o, layers, hlayers, htree⟩ := hfile.exists_layers
  refine ⟨o, ?_⟩
  unfold Settings.load at h
  rw [hlayers] at h
  have htree' : SettingTree.ofLayers (layers ++ [Layer.ofVariables vars]) =
      (fileTree o ms).addLayer (Layer.ofVariables vars) := by
    rw [← htree]
    exact List.foldl_append
  have hread := eq_ok_of_mapError h
  rwa [htree'] at hread

/-- A setting on the command line replaces that of the settings, and one that is not there does not.
-/
theorem Setting.get_override (k : Setting) (i : Invocation) (s : Settings) :
    k.get (i.override s) = (k.flag? i).getD (k.get s) := by
  cases k with
  | project => cases hflag : i.project <;> simp [get, Invocation.override, flag?, hflag]
  | accessToken => cases hflag : i.accessToken <;> simp [get, Invocation.override, flag?, hflag]
  | endpoint | timeoutSecs | maxRetries | baseDelay | maxDelay | maxConflictCycles
  | deadlineSecs => rfl

/-- Layers in which each setting stands for itself. -/
structure PlainLayers (files : FileTree) (file : Option Path) (vars : Variables)
    (ms : Toml.Members) : Prop where
  table : FileTable files file ms
  keys : PlainKeys ms
  separate : SeparateVariables vars

/-- Whatever a setting is provided by gives its value. -/
theorem PlainLayers.gives {i : Invocation} {s : Settings} (h : PlainLayers files i.file vars ms)
    (hresolve : i.resolve vars files = .ok s) (k : Setting) :
    (k.provision i vars ms).Gives k (k.get s) := by
  obtain ⟨lower, hload, rfl⟩ := exists_of_map_eq_ok hresolve
  rw [k.get_override]
  unfold Setting.provision
  cases hflag : k.flag? i with
  | some x => rfl
  | none =>
    obtain ⟨o, htree⟩ := h.table.exists_ofTree hload
    exact Setting.gives_of_found h.keys h.table.distinct h.separate o
      (Setting.readFrom_of_ofTree htree k)

/-- A provision gives one value. -/
theorem Provision.Gives.unique {k : Setting} {p : Provision k.Value} {x y : k.Value}
    (hx : p.Gives k x) (hy : p.Gives k y) : x = y := by
  cases p with
  | flag z => exact hx.trans hy.symm
  | environment text => exact Except.ok.inj (hx.symm.trans hy)
  | file v => exact Except.ok.inj ((hx .environment).symm.trans (hy .environment))
  | standard => exact hx.trans hy.symm

/-- A variable that is not the one for a setting does not change what provides it. -/
theorem Setting.provision_cons {k : Setting} {v : String × String}
    (hother : settingKey? v.1 ≠ some k.name)
    (hlist : ∀ items, ms.lookup "retry" ≠ some (.array items)) (i : Invocation) :
    k.provision i (v :: vars) ms = k.provision i vars ms := by
  have hvariable : k.inEnvironment? (v :: vars) = k.inEnvironment? vars := by
    unfold inEnvironment?
    rw [List.find?_cons, beq_false_of_ne hother]
  have hfile : k.inFile? (v :: vars) ms = k.inFile? vars ms := by
    rcases k.path_cases with ⟨key, hpath, -⟩ | ⟨key, place, hpath, -⟩
    · rw [inFile?_of_single hpath, inFile?_of_single hpath]
    · unfold inFile?
      rw [hpath]
      cases hvalue : ms.lookup "retry" with
      | none => simp [hvalue]
      | some u =>
        cases u with
        | array items => exact absurd hvalue (hlist items)
        | table _ _ | string _ | integer _ | floating _ | boolean _ | moment _ | tables _ =>
          simp [hvalue]
  unfold provision lowerProvision
  rw [hvariable, hfile]

/-- A command that gets settings takes each of them from the highest layer that has it.  So a
setting is the same wherever the same provides it, whatever the layers below say and whatever comes
of the other settings, and another variable leaves it to the layers that it is left to. -/
theorem resolve_layers {i : Invocation} {s : Settings} (h : PlainLayers files i.file vars ms)
    (hresolve : i.resolve vars files = .ok s) :
    (∀ k : Setting, (k.provision i vars ms).Gives k (k.get s)) ∧
    (∀ {i' : Invocation} {files' : FileTree} {vars' : Variables} {ms' : Toml.Members}
      {s' : Settings}, PlainLayers files' i'.file vars' ms' → i'.resolve vars' files' = .ok s' →
      ∀ k : Setting, k.provision i vars ms = k.provision i' vars' ms' → k.get s = k.get s') ∧
    (∀ {v : String × String} {s' : Settings}, PlainLayers files i.file (v :: vars) ms →
      i.resolve (v :: vars) files = .ok s' →
      (∀ items, ms.lookup "retry" ≠ some (.array items)) →
      ∀ k : Setting, settingKey? v.1 ≠ some k.name → k.get s' = k.get s) := by
  refine ⟨h.gives hresolve, fun h' hresolve' k hsame => ?_,
    fun h' hresolve' hlist k hother => ?_⟩
  · have hgives := h.gives hresolve k
    rw [hsame] at hgives
    exact hgives.unique (h'.gives hresolve' k)
  · have hgives := h'.gives hresolve' k
    rw [Setting.provision_cons hother hlist] at hgives
    exact hgives.unique (h.gives hresolve k)

end

/-- A settings file of a build pipeline. -/
def pipelineFile : String :=
  "[retry]\nmax_retries = 7\nbase_delay = 10\n"

def pipelineTable : Toml.Members :=
  [("retry", .table .defined [("max_retries", .integer 7), ("base_delay", .integer 10)])]

/-- A directory with a settings file. -/
def settingsDirectory (content : String) : FileTree :=
  ⟨[([Text.utf8Bytes "steward.toml"], .file (Text.utf8Bytes content))], []⟩

/-- A command that names the settings file and a project. -/
def pipelineCommand : Invocation :=
  ⟨some (Text.utf8Bytes "steward.toml"), none, some "build", none, none, false,
    .expire "gs://ci-artifacts" 30 none none⟩

def pipelineVariables : Variables :=
  [("STEWARD_RETRY__MAX_RETRIES", "5"), ("STEWARD_PROJECT", "ci")]

/-- The variables of the pipeline do not get in each other's way. -/
theorem separate_pipelineVariables : SeparateVariables pipelineVariables := by
  have hretry : settingKey? "STEWARD_RETRY__MAX_RETRIES" = some "retry.max_retries" ∧
      settingPath "retry.max_retries" = [.name "retry", .name "max_retries"] := by
    decide +kernel
  have hproject : settingKey? "STEWARD_PROJECT" = some "project" ∧
      settingPath "project" = [.name "project"] := by
    decide +kernel
  refine ⟨by decide +kernel, fun v hv key steps hkey hsteps => ?_⟩
  simp only [pipelineVariables, List.mem_cons, List.not_mem_nil, or_false] at hv
  rcases hv with rfl | rfl
  · rw [hretry.1] at hkey
    cases hkey
    rw [hretry.2] at hsteps
    cases hsteps
    exact ⟨_, _, rfl⟩
  · rw [hproject.1] at hkey
    cases hkey
    rw [hproject.2] at hsteps
    simp at hsteps

/-- The layers of the pipeline are plain. -/
theorem plainLayers_pipeline :
    PlainLayers (settingsDirectory pipelineFile) pipelineCommand.file pipelineVariables
      pipelineTable := by
  have hfound : findSettings (settingsDirectory pipelineFile) (Text.utf8Bytes "steward.toml") =
      .ok (Text.utf8Bytes "steward.toml", .toml) := by
    decide +kernel
  have hread : (settingsDirectory pipelineFile).read (Text.utf8Bytes "steward.toml") =
      .ok (Text.utf8Bytes pipelineFile) := by
    decide +kernel
  have htext : Text.utf8Text? (Text.utf8Bytes pipelineFile) = some pipelineFile := by
    decide +kernel
  have htable : Toml.read pipelineFile.toList = some (.table .defined pipelineTable) := by cbv
  exact ⟨.some hfound hread htext htable, ⟨by decide, by decide⟩, separate_pipelineVariables⟩

/-- A flag stands above a variable, a variable above a key of the file, and what none of them gives
has its standard value.  Without the file, what stood above it is the same. -/
theorem resolve_of_pipeline :
    ∃ s s', pipelineCommand.resolve pipelineVariables (settingsDirectory pipelineFile) = .ok s ∧
      s.project = some "build" ∧ s.retry.maxRetries = 5 ∧
      s.retry.baseDelay = Duration.ofMillis 10 ∧
      s.retry.maxDelay = RetryPolicy.standard.maxDelay ∧
      { pipelineCommand with file := none }.resolve pipelineVariables .empty = .ok s' ∧
      s.retry.maxRetries = s'.retry.maxRetries := by
  have hboth : (pipelineCommand.resolve pipelineVariables
        (settingsDirectory pipelineFile)).toOption.isSome = true ∧
      ({ pipelineCommand with file := none }.resolve pipelineVariables
        .empty).toOption.isSome = true := by
    decide +kernel
  obtain ⟨s, hs⟩ := Option.isSome_iff_exists.1 hboth.1
  obtain ⟨s', hs'⟩ := Option.isSome_iff_exists.1 hboth.2
  have hwithout : PlainLayers .empty none pipelineVariables [] :=
    ⟨.none, ⟨nofun, nofun⟩, separate_pipelineVariables⟩
  obtain ⟨hgives, hsame, -⟩ := resolve_layers plainLayers_pipeline (toOption_eq_some hs)
  refine ⟨s, s', toOption_eq_some hs, hgives .project, ?_, ?_, hgives .maxDelay,
    toOption_eq_some hs', ?_⟩
  · exact Except.ok.inj ((hgives .maxRetries).symm.trans rfl)
  · exact Except.ok.inj ((hgives .baseDelay .environment).symm.trans rfl)
  · have hprovision : Setting.maxRetries.provision pipelineCommand pipelineVariables pipelineTable =
        Setting.maxRetries.provision { pipelineCommand with file := none } pipelineVariables [] :=
      rfl
    exact hsame hwithout (toOption_eq_some hs') .maxRetries hprovision

/-- A file with a list of retry settings. -/
def positionalFile : String := "retry = [7]\n"

/-- A file with one retry setting. -/
def keyedFile : String := "retry.base_delay = 10\n"

/-- A list in the file gives a number of retries although there is no key for it, and a variable for
all retry settings at once takes away a key of the file that it does not name. -/
theorem unlayered_of_whole_retry :
    Toml.read positionalFile.toList =
        some (.table .defined [("retry", .array [.integer 7])]) ∧
      (pipelineCommand.resolve [] (settingsDirectory positionalFile)).toOption.map
        (fun s => s.retry.maxRetries) = some 7 ∧
      RetryPolicy.standard.maxRetries = 3 ∧
      Toml.read keyedFile.toList =
        some (.table .defined [("retry", .table .dotted [("base_delay", .integer 10)])]) ∧
      (pipelineCommand.resolve [("STEWARD_RETRY", "none"), ("STEWARD_RETRY__MAX_RETRIES", "5")]
        (settingsDirectory keyedFile)).toOption.map
          (fun s => s.retry.baseDelay) = some RetryPolicy.standard.baseDelay ∧
      RetryPolicy.standard.baseDelay ≠ Duration.ofMillis 10 := by
  refine ⟨by cbv, by decide +kernel, by decide, by cbv, by decide +kernel, by decide⟩

end BucketLifecycle
