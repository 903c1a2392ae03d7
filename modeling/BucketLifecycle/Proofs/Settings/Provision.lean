import BucketLifecycle.Command.Basic
import BucketLifecycle.Proofs.Settings.Names

/-!
# What provides a setting

A command takes each of its settings from the highest layer that has it: what is given beside the
command, an environment variable, the settings file, or the standard value.  `Setting.provision`
says which, one setting at a time, and `Provision.Gives` what a layer makes of it.  At the other end
stands the tree that settings are read from: each is read from the value at its own place
(`Setting.readFrom_of_ofTree`), and only single values are read (`Setting.takesSingle`).

The retry settings have two places.  In a table they stand under their keys and in a list one behind
another.  The list of a file is gone as soon as a variable leads to one of them.
-/

set_option autoImplicit false

namespace BucketLifecycle

open SettingTree

/-- The settings of a command, one by one. -/
inductive Setting where
  | endpoint
  | project
  | accessToken
  | timeoutSecs
  | maxRetries
  | baseDelay
  | maxDelay
  | maxConflictCycles
  | deadlineSecs
  deriving DecidableEq

namespace Setting

abbrev Value : Setting → Type
  | .endpoint => String
  | .project => Option String
  | .accessToken => Option String
  | .timeoutSecs => UInt64
  | .maxRetries => UInt32
  | .baseDelay => Duration
  | .maxDelay => Duration
  | .maxConflictCycles => UInt32
  | .deadlineSecs => UInt64

def get : (k : Setting) → Settings → k.Value
  | .endpoint, s => s.endpoint
  | .project, s => s.project
  | .accessToken, s => s.accessToken
  | .timeoutSecs, s => s.timeoutSecs
  | .maxRetries, s => s.retry.maxRetries
  | .baseDelay, s => s.retry.baseDelay
  | .maxDelay, s => s.retry.maxDelay
  | .maxConflictCycles, s => s.maxConflictCycles
  | .deadlineSecs, s => s.deadlineSecs

/-- How a value is read as the setting. -/
def reading : (k : Setting) → Reading k.Value
  | .endpoint => SettingTree.text
  | .project => optionalText
  | .accessToken => optionalText
  | .timeoutSecs => uint64
  | .maxRetries => uint32
  | .baseDelay => millis
  | .maxDelay => millis
  | .maxConflictCycles => uint32
  | .deadlineSecs => uint64

/-- What is given beside the command. -/
def flag? : (k : Setting) → Invocation → Option k.Value
  | .endpoint, i => i.endpoint
  | .project, i => i.project.map some
  | .accessToken, i => i.accessToken.map some
  | .maxRetries, i => i.retries
  | .maxConflictCycles, i => i.command.maxConflictCycles?
  | .deadlineSecs, i => i.command.deadlineSecs?
  | .timeoutSecs, _ => none
  | .baseDelay, _ => none
  | .maxDelay, _ => none

/-- The keys that lead to the setting in a file. -/
def path : Setting → List String
  | .endpoint => ["endpoint"]
  | .project => ["project"]
  | .accessToken => ["access_token"]
  | .timeoutSecs => ["timeout_secs"]
  | .maxRetries => ["retry", "max_retries"]
  | .baseDelay => ["retry", "base_delay"]
  | .maxDelay => ["retry", "max_delay"]
  | .maxConflictCycles => ["max_conflict_cycles"]
  | .deadlineSecs => ["deadline_secs"]

/-- The name of the setting, as a variable gives it. -/
def name (k : Setting) : String :=
  ".".intercalate k.path

/-- The place of a retry setting in a list of them. -/
def place? : Setting → Option Nat
  | .maxRetries => some 0
  | .baseDelay => some 1
  | .maxDelay => some 2
  | _ => none

/-- The text of the variable for the setting. -/
def inEnvironment? (k : Setting) (vars : Variables) : Option String :=
  (vars.find? fun v => settingKey? v.1 == some k.name).map Prod.snd

/-- The value of a settings file for the setting.  A list of retry settings counts unless a variable
leads to one of them. -/
def inFile? (k : Setting) (vars : Variables) (ms : Toml.Members) : Option Toml.Value :=
  match k.path with
  | [key] => ms.lookup key
  | [outer, key] =>
    match ms.lookup outer with
    | some (.table _ sub) => sub.lookup key
    | some (.array items) =>
      if (Layer.ofVariables vars).enters outer then none
      else k.place?.bind fun place => items[place]?
    | _ => none
  | _ => none

end Setting

/-- Which layer provides a setting, and how it gives it. -/
inductive Provision (α : Type) where
  | flag (x : α)
  | environment (text : String)
  | file (v : Toml.Value)
  | standard

/-- The layers below what is given beside a command. -/
def Setting.lowerProvision (k : Setting) (vars : Variables) (ms : Toml.Members) :
    Provision k.Value :=
  match k.inEnvironment? vars with
  | some text => .environment text
  | none => (k.inFile? vars ms).elim .standard .file

/-- The highest layer that has a setting. -/
def Setting.provision (k : Setting) (i : Invocation) (vars : Variables) (ms : Toml.Members) :
    Provision k.Value :=
  match k.flag? i with
  | some x => .flag x
  | none => k.lowerProvision vars ms

/-- A layer gives a setting this value. -/
def Provision.Gives (k : Setting) : Provision k.Value → k.Value → Prop
  | .flag x, y => y = x
  | .environment text, y => k.reading (.scalar (some .environment) (readScalar text)) = .ok y
  | .file v, y => ∀ o, k.reading (.ofToml o v) = .ok y
  | .standard, y => y = k.get .standard

/-! ### Reading a setting -/

/-- Only single values are read, wherever they were given. -/
def SettingTree.Reading.TakesSingle {α : Type} (read : Reading α) : Prop :=
  ∀ t y, read t = .ok y → ∃ o x, t = .scalar o x ∧ ∀ o', read (.scalar o' x) = .ok y

/-- Texts are read from single values only. -/
theorem takesSingle_text : Reading.TakesSingle SettingTree.text := by
  intro t y h
  cases t with
  | scalar o x => cases x <;> first | exact ⟨_, _, rfl, fun _ => h⟩ | cases h
  | list | table => cases h

/-- Texts that may be missing are read from single values only. -/
theorem takesSingle_optionalText : Reading.TakesSingle optionalText := by
  intro t y h
  unfold optionalText at h
  split at h
  · cases h
    exact ⟨_, _, rfl, fun _ => rfl⟩
  · next hvalue =>
    obtain ⟨s, hs, rfl⟩ := exists_of_map_eq_ok h
    obtain ⟨o, x, rfl, hother⟩ := takesSingle_text t s hs
    refine ⟨o, x, rfl, fun o' => ?_⟩
    unfold optionalText
    split
    · next hnull =>
      cases hnull
      exact absurd rfl (hvalue o)
    · rw [hother o']
      rfl

/-- Numbers of 64 bits are read from single values only. -/
theorem takesSingle_uint64 : Reading.TakesSingle uint64 := by
  intro t y h
  cases t with
  | scalar o x =>
    refine ⟨o, x, rfl, fun o' => ?_⟩
    cases x with
    | null => cases h
    | boolean | floating => exact h
    | integer n =>
      dsimp only [uint64] at h ⊢
      split at h
      · next hsign => rw [if_pos hsign, h]
      · cases h
    | text s =>
      dsimp only [uint64] at h ⊢
      cases hs : numberOfText? s with
      | none =>
        rw [hs] at h
        cases h
      | some n =>
        rw [hs] at h
        rw [← h]
  | list | table => cases h

/-- Numbers of 32 bits are read from single values only. -/
theorem takesSingle_uint32 : Reading.TakesSingle uint32 := by
  intro t y h
  obtain ⟨n, hn, hsmall⟩ := exists_of_bind_eq_ok h
  obtain ⟨o, x, rfl, hother⟩ := takesSingle_uint64 t n hn
  refine ⟨o, x, rfl, fun o' => ?_⟩
  unfold uint32
  rw [hother o']
  exact hsmall

/-- Waits are read from single values only. -/
theorem takesSingle_millis : Reading.TakesSingle millis := by
  intro t y h
  obtain ⟨n, hn, rfl⟩ := exists_of_map_eq_ok h
  obtain ⟨o, x, rfl, hother⟩ := takesSingle_uint64 t n hn
  refine ⟨o, x, rfl, fun o' => ?_⟩
  unfold millis
  rw [hother o']
  rfl

/-- Every setting is read from single values only. -/
theorem Setting.takesSingle (k : Setting) : Reading.TakesSingle k.reading := by
  cases k
  · exact takesSingle_text
  · exact takesSingle_optionalText
  · exact takesSingle_optionalText
  · exact takesSingle_uint64
  · exact takesSingle_uint32
  · exact takesSingle_millis
  · exact takesSingle_millis
  · exact takesSingle_uint32
  · exact takesSingle_uint64

/-! ### Where the settings of a tree are found -/

/-- The value that is read as a setting. -/
def Setting.found? (k : Setting) (t : SettingTree) : Option SettingTree :=
  match k.place?, t.member? "retry" with
  | some place, some (.list _ items) => items[place]?
  | _, _ => at? k.path t

/-- A setting is read from its value, or has its standard value where there is none. -/
def Setting.ReadFrom (k : Setting) (value : Option SettingTree) (x : k.Value) : Prop :=
  (value = none ∧ x = k.get .standard) ∨ ∃ t, value = some t ∧ k.reading t = .ok x

/-- A setting that was read or defaulted is read from what there is. -/
theorem Setting.readFrom_of_settingOr {k : Setting} {x : k.Value} {step : SettingStep}
    {value : Option SettingTree}
    (h : settingOr (k.get .standard) step k.reading value = .ok x) : k.ReadFrom value x := by
  cases value with
  | none =>
    cases h
    exact .inl ⟨rfl, rfl⟩
  | some t => exact .inr ⟨t, rfl, eq_ok_of_mapError h⟩

namespace Setting

variable {k : Setting} {t : SettingTree} {key : String}

/-- A setting without steps within is the member under its key. -/
theorem found?_of_single (hpath : k.path = [key]) (hplace : k.place? = none) :
    k.found? t = t.member? key := by
  unfold found?
  rw [hplace, hpath]
  exact at?_single key t

/-- Without retry settings none of them is found. -/
theorem found?_of_none (hpath : k.path = ["retry", key]) (h : t.member? "retry" = none) :
    k.found? t = none := by
  unfold found?
  rw [hpath, h, at?, h]
  cases k.place? <;> rfl

/-- In a table a retry setting is found under its key. -/
theorem found?_of_table {o : Option Origin} {ms : List (String × SettingTree)}
    (hpath : k.path = ["retry", key]) (h : t.member? "retry" = some (.table o ms)) :
    k.found? t = ms.lookup key := by
  rw [← SettingTree.at?_of_table h, ← hpath]
  unfold found?
  rw [h]
  cases k.place? <;> rfl

/-- In a single value no retry setting is found. -/
theorem found?_of_scalar {o : Option Origin} {x : Scalar} (hpath : k.path = ["retry", key])
    (h : t.member? "retry" = some (.scalar o x)) : k.found? t = none := by
  unfold found?
  rw [hpath, h, at?, h]
  cases k.place? <;> rfl

/-- In a list a retry setting is found at its place. -/
theorem found?_of_list {o : Option Origin} {items : List SettingTree} {place : Nat}
    (hplace : k.place? = some place) (h : t.member? "retry" = some (.list o items)) :
    k.found? t = items[place]? := by
  unfold found?
  rw [hplace, h]

end Setting

/-- A retry policy is read setting by setting. -/
theorem SettingTree.retryPolicy_eq_ok {t : SettingTree} {p : RetryPolicy}
    (h : retryPolicy t = .ok p) :
    (∃ o items, t = .list o items ∧
      settingOr RetryPolicy.standard.maxRetries (.index 0) uint32 items[0]? = .ok p.maxRetries ∧
      settingOr RetryPolicy.standard.baseDelay (.index 1) millis items[1]? = .ok p.baseDelay ∧
      settingOr RetryPolicy.standard.maxDelay (.index 2) millis items[2]? = .ok p.maxDelay) ∨
    ∃ o ms, t = .table o ms ∧
      settingOr RetryPolicy.standard.maxRetries (.name "max_retries") uint32
        (ms.lookup "max_retries") = .ok p.maxRetries ∧
      settingOr RetryPolicy.standard.baseDelay (.name "base_delay") millis
        (ms.lookup "base_delay") = .ok p.baseDelay ∧
      settingOr RetryPolicy.standard.maxDelay (.name "max_delay") millis
        (ms.lookup "max_delay") = .ok p.maxDelay := by
  cases t with
  | scalar o x => cases h
  | list o items =>
    obtain ⟨maxRetries, hretries, h⟩ := exists_of_bind_eq_ok h
    obtain ⟨baseDelay, hbase, h⟩ := exists_of_bind_eq_ok h
    obtain ⟨maxDelay, hmax, h⟩ := exists_of_bind_eq_ok h
    cases h
    exact .inl ⟨o, items, rfl, hretries, hbase, hmax⟩
  | table o ms =>
    obtain ⟨maxRetries, hretries, h⟩ := exists_of_bind_eq_ok h
    obtain ⟨baseDelay, hbase, h⟩ := exists_of_bind_eq_ok h
    obtain ⟨maxDelay, hmax, h⟩ := exists_of_bind_eq_ok h
    cases h
    exact .inr ⟨o, ms, rfl, hretries, hbase, hmax⟩

/-- A retry setting of a tree is read from where it is found. -/
theorem Setting.readFrom_of_retry {t : SettingTree} {p : RetryPolicy}
    (h : settingOr RetryPolicy.standard (.name "retry") retryPolicy (t.member? "retry") = .ok p) :
    Setting.maxRetries.ReadFrom (Setting.maxRetries.found? t) p.maxRetries ∧
      Setting.baseDelay.ReadFrom (Setting.baseDelay.found? t) p.baseDelay ∧
      Setting.maxDelay.ReadFrom (Setting.maxDelay.found? t) p.maxDelay := by
  cases hretry : t.member? "retry" with
  | none =>
    rw [hretry] at h
    cases h
    exact ⟨.inl ⟨found?_of_none rfl hretry, rfl⟩, .inl ⟨found?_of_none rfl hretry, rfl⟩,
      .inl ⟨found?_of_none rfl hretry, rfl⟩⟩
  | some u =>
    rw [hretry] at h
    rcases retryPolicy_eq_ok (eq_ok_of_mapError h) with
      ⟨o, items, rfl, hretries, hbase, hmax⟩ | ⟨o, ms, rfl, hretries, hbase, hmax⟩
    · rw [found?_of_list rfl hretry, found?_of_list rfl hretry, found?_of_list rfl hretry]
      exact ⟨readFrom_of_settingOr hretries, readFrom_of_settingOr hbase,
        readFrom_of_settingOr hmax⟩
    · rw [found?_of_table rfl hretry, found?_of_table rfl hretry, found?_of_table rfl hretry]
      exact ⟨readFrom_of_settingOr hretries, readFrom_of_settingOr hbase,
        readFrom_of_settingOr hmax⟩

/-- Every setting of a tree is read from where it is found. -/
theorem Setting.readFrom_of_ofTree {t : SettingTree} {s : Settings}
    (h : Settings.ofTree t = .ok s) (k : Setting) : k.ReadFrom (k.found? t) (k.get s) := by
  unfold Settings.ofTree at h
  dsimp only at h
  obtain ⟨endpoint, hendpoint, h⟩ := exists_of_bind_eq_ok h
  obtain ⟨project, hproject, h⟩ := exists_of_bind_eq_ok h
  obtain ⟨accessToken, haccessToken, h⟩ := exists_of_bind_eq_ok h
  obtain ⟨timeoutSecs, htimeoutSecs, h⟩ := exists_of_bind_eq_ok h
  obtain ⟨retry, hretry, h⟩ := exists_of_bind_eq_ok h
  obtain ⟨maxConflictCycles, hmaxConflictCycles, h⟩ := exists_of_bind_eq_ok h
  obtain ⟨deadlineSecs, hdeadlineSecs, h⟩ := exists_of_bind_eq_ok h
  cases h
  obtain ⟨hmaxRetries, hbaseDelay, hmaxDelay⟩ := readFrom_of_retry hretry
  have htop : ∀ {k : Setting} {key : String} {x : k.Value}, k.path = [key] → k.place? = none →
      settingOr (k.get .standard) (.name key) k.reading (t.member? key) = .ok x →
        k.ReadFrom (k.found? t) x := by
    intro k key x hpath hplace hread
    rw [found?_of_single hpath hplace]
    exact readFrom_of_settingOr hread
  cases k with
  | endpoint => exact htop rfl rfl hendpoint
  | project => exact htop rfl rfl hproject
  | accessToken => exact htop rfl rfl haccessToken
  | timeoutSecs => exact htop rfl rfl htimeoutSecs
  | maxRetries => exact hmaxRetries
  | baseDelay => exact hbaseDelay
  | maxDelay => exact hmaxDelay
  | maxConflictCycles => exact htop rfl rfl hmaxConflictCycles
  | deadlineSecs => exact htop rfl rfl hdeadlineSecs

/-- A setting stands at the top, or is one of the retry settings. -/
theorem Setting.path_cases (k : Setting) :
    (∃ key, k.path = [key] ∧ k.place? = none ∧ k.name = key ∧ settingPath key = [.name key]) ∨
    ∃ key place, k.path = ["retry", key] ∧ k.place? = some place ∧
      k.name = "retry" ++ "." ++ key ∧
      settingPath ("retry" ++ "." ++ key) = [.name "retry", .name key] ∧ settingName key = key := by
  cases k with
  | endpoint => exact .inl ⟨"endpoint", by decide⟩
  | project => exact .inl ⟨"project", by decide⟩
  | accessToken => exact .inl ⟨"access_token", by decide⟩
  | timeoutSecs => exact .inl ⟨"timeout_secs", by decide⟩
  | maxRetries => exact .inr ⟨"max_retries", 0, by decide⟩
  | baseDelay => exact .inr ⟨"base_delay", 1, by decide⟩
  | maxDelay => exact .inr ⟨"max_delay", 2, by decide⟩
  | maxConflictCycles => exact .inl ⟨"max_conflict_cycles", by decide⟩
  | deadlineSecs => exact .inl ⟨"deadline_secs", by decide⟩

end BucketLifecycle
