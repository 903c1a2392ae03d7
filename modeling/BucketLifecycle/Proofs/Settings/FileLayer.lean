import BucketLifecycle.Proofs.Settings.Names
import BucketLifecycle.Proofs.Toml.DistinctKeys
import BucketLifecycle.Settings.Load

/-!
# The layer of a settings file

A table with plain keys comes to stand in the empty tree as it is, and so do the tables in it
(`member?_fileTree`, `at?_fileTree_retry`).  Only that each key of a document is given once makes
this so: a second value for a key would be merged into the first.
-/

set_option autoImplicit false

namespace BucketLifecycle

open SettingTree

/-- The keys of a table are made of small letters, digits and underscores. -/
def PlainInside : Toml.Value → Prop
  | .table _ ms => ∀ m ∈ ms, PlainKey m.1
  | _ => True

instance (v : Toml.Value) : Decidable (PlainInside v) :=
  match v with
  | .table _ ms => List.decidableBAll (fun m : String × Toml.Value => PlainKey m.1) ms
  | .string _ | .integer _ | .floating _ | .boolean _ | .moment _ | .array _ | .tables _ =>
    .isTrue trivial

/-- The keys of some members, and of the tables among them, are made of small letters, digits and
underscores. -/
structure PlainKeys (ms : Toml.Members) : Prop where
  top : ∀ m ∈ ms, PlainKey m.1
  inside : ∀ m ∈ ms, PlainInside m.2

/-- The keys of a table in a table with plain keys are plain. -/
theorem PlainKeys.of_lookup {ms sub : Toml.Members} {key : String} {kind : Toml.TableKind}
    (h : PlainKeys ms) (hlookup : ms.lookup key = some (.table kind sub)) :
    ∀ m ∈ sub, PlainKey m.1 := by
  obtain ⟨before, after, rfl, -⟩ := List.lookup_eq_some_iff.1 hlookup
  exact h.inside (key, .table kind sub) (by simp)

/-- Under a key of a tree stands what stands there in the document. -/
theorem SettingTree.lookup_ofMembers (o : Origin) (ms : Toml.Members) (key : String) :
    (ofToml.ofMembers o ms).lookup key = (ms.lookup key).map (ofToml o) := by
  induction ms with
  | nil => rw [ofToml.ofMembers]; rfl
  | cons m ms ih =>
    obtain ⟨k, v⟩ := m
    rw [ofToml.ofMembers]
    by_cases heq : k = key
    · subst heq
      simp
    · rw [lookup_cons_of_ne heq, lookup_cons_of_ne heq, ih]

/-- The keys of a tree are those of the document. -/
theorem SettingTree.map_fst_ofMembers (o : Origin) (ms : Toml.Members) :
    (ofToml.ofMembers o ms).map Prod.fst = ms.map Prod.fst := by
  induction ms with
  | nil => rw [ofToml.ofMembers]; rfl
  | cons m ms ih =>
    obtain ⟨k, v⟩ := m
    rw [ofToml.ofMembers, List.map_cons, List.map_cons, ih]

/-- At a place of a list stands what stands there in the document. -/
theorem SettingTree.getElem?_ofItems (o : Origin) (items : List Toml.Value) (place : Nat) :
    (ofToml.ofItems o items)[place]? = items[place]?.map (ofToml o) := by
  induction items generalizing place with
  | nil => rw [ofToml.ofItems]; rfl
  | cons v items ih =>
    rw [ofToml.ofItems]
    cases place with
    | zero => rfl
    | succ place => exact ih place

/-- A tree has plain keys where the document has. -/
theorem SettingTree.plainKey_ofMembers {ms : Toml.Members} (h : ∀ m ∈ ms, PlainKey m.1)
    (o : Origin) : ∀ m ∈ ofToml.ofMembers o ms, PlainKey m.1 := by
  intro m hm
  have hmem : m.1 ∈ ms.map Prod.fst := map_fst_ofMembers o ms ▸ List.mem_map_of_mem hm
  obtain ⟨m', hm', heq⟩ := List.mem_map.1 hmem
  exact heq ▸ h m' hm'

/-- The tables of a list are no single values. -/
theorem SettingTree.isNested_of_getElem?_ofTables {o : Origin}
    {items : List (List (String × Toml.Value))} {place : Nat} {t : SettingTree}
    (h : (ofToml.ofTables o items)[place]? = some t) : t.isNested = true := by
  induction items generalizing place with
  | nil =>
    rw [ofToml.ofTables] at h
    cases h
  | cons ms items ih =>
    rw [ofToml.ofTables] at h
    cases place with
    | zero =>
      cases h
      rfl
    | succ place => exact ih h

/-- Members with plain keys come to stand in an empty table as they are. -/
theorem SettingTree.member?_putAll_ofMembers {ms : Toml.Members} (hplain : ∀ m ∈ ms, PlainKey m.1)
    (hdistinct : (ms.map Prod.fst).Nodup) (o : Origin) (key : String) :
    (emptyTable.putAll (ofToml.ofMembers o ms)).member? key =
      (ms.lookup key).map fun v => (ofToml o v).rebuilt := by
  have hregular : Regular (ofToml.ofMembers o ms) :=
    ⟨map_fst_ofMembers o ms ▸ hdistinct,
      fun m hm => (plainKey_ofMembers hplain o m hm).settingName_eq⟩
  rw [member?_putAll hregular (fun _ _ => rfl), lookup_ofMembers, Option.map_map]
  exact Option.or_none

/-- A layer with plain keys is added by putting its members. -/
theorem SettingTree.addLayer_eq_putAll {layer : Layer} (h : ∀ m ∈ layer, PlainKey m.1)
    (t : SettingTree) : t.addLayer layer = t.putAll layer := by
  induction layer generalizing t with
  | nil => rw [putAll]; rfl
  | cons m layer ih =>
    obtain ⟨key, v⟩ := m
    obtain ⟨hkey, hkeys⟩ := List.forall_mem_cons.1 h
    have hput : t.putAt v (settingPath key) = t.put key v := by
      rw [hkey.settingPath_eq, putAt]
    rw [putAll, ← hput, ← ih hkeys]
    rfl

/-- The tree of a settings file. -/
def fileTree (o : Origin) (ms : Toml.Members) : SettingTree :=
  emptyTable.addLayer (SettingTree.ofToml.ofMembers o ms)

/-- Under a key of the file stands the value that the document has there. -/
theorem member?_fileTree {ms : Toml.Members} (hplain : PlainKeys ms) (hdistinct : ms.Distinct)
    (o : Origin) (key : String) :
    (fileTree o ms).member? key = (ms.lookup key).map fun v => (ofToml o v).rebuilt := by
  rw [fileTree, addLayer_eq_putAll (plainKey_ofMembers hplain.top o)]
  exact member?_putAll_ofMembers hplain.top hdistinct.keys o key

/-- The value of a retry setting in a table of them. -/
def innerMember? (ms : Toml.Members) (key : String) : Option Toml.Value :=
  match ms.lookup "retry" with
  | some (.table _ sub) => sub.lookup key
  | _ => none

/-- Within the retry settings of the file stands the value that the document has there. -/
theorem at?_fileTree_retry {ms : Toml.Members} (hplain : PlainKeys ms) (hdistinct : ms.Distinct)
    (o : Origin) (key : String) :
    at? ["retry", key] (fileTree o ms) =
      (innerMember? ms key).map fun v => (ofToml o v).rebuilt := by
  rw [at?, member?_fileTree hplain hdistinct]
  unfold innerMember?
  cases hretry : ms.lookup "retry" with
  | none => rfl
  | some v =>
    cases v with
    | table kind sub =>
      have hsub := Toml.Value.distinct_table_iff.1 (hdistinct.of_lookup hretry)
      rw [← member?_putAll_ofMembers (hplain.of_lookup hretry) hsub.keys, ← at?_single]
      rfl
    | string _ | integer _ | floating _ | boolean _ | moment _ | array _ | tables _ => rfl

/-- The table of a settings file; without a file it is empty. -/
inductive FileTable (files : FileTree) : Option Path → Toml.Members → Prop where
  | none : FileTable files none []
  | some {name path : Path} {content : Bytes} {text : String} {kind : Toml.TableKind}
      {ms : Toml.Members} (hfound : findSettings files name = .ok (path, .toml))
      (hread : files.read path = .ok content) (htext : Text.utf8Text? content = some text)
      (htable : Toml.read text.toList = some (.table kind ms)) : FileTable files (some name) ms

variable {files : FileTree} {ms : Toml.Members}

/-- The table of a settings file has each key once. -/
theorem FileTable.distinct {file : Option Path} (h : FileTable files file ms) : ms.Distinct := by
  cases h with
  | none => exact .nil
  | some _ _ _ htable => exact Toml.Value.distinct_table_iff.1 (Toml.distinct_read htable)

/-- The layer of a document is made of its table. -/
theorem Layer.ofDocument_toml {text : String} {kind : Toml.TableKind}
    (h : Toml.read text.toList = some (.table kind ms)) (o : Origin) :
    Layer.ofDocument o .toml text = .ok (ofToml.ofMembers o ms) := by
  unfold Layer.ofDocument SettingTree.ofDocument
  dsimp only
  rw [h, Option.elim_some, ofToml]
  rfl

/-- A settings file that reads as a table makes the layers of that table. -/
theorem FileTable.exists_layers {file : Option Path} (h : FileTable files file ms) :
    ∃ o layers, fileLayers files file = .ok layers ∧
      SettingTree.ofLayers layers = fileTree o ms := by
  cases h with
  | none => exact ⟨.environment, [], rfl, by rw [fileTree, ofToml.ofMembers]; rfl⟩
  | @some name path content text kind _ hfound hread htext htable =>
    have hlayer : Layer.ofFile files name =
        .ok (ofToml.ofMembers (.file (settingsName files path)) ms) := by
      unfold Layer.ofFile
      rw [hfound]
      dsimp only [bind, Except.bind]
      rw [hread, Except.mapError]
      dsimp only
      rw [htext]
      dsimp only
      rw [Layer.ofDocument_toml htable]
      rfl
    exact ⟨.file (settingsName files path), _, by rw [fileLayers, hlayer]; rfl, rfl⟩

end BucketLifecycle
