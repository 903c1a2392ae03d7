import BucketLifecycle.Command.Execute

/-!
# Input that is turned down

A command checks all that it is given before it does anything: the names of buckets and objects,
how a file and an object correspond, and whether the file that is to be uploaded can be read.
`Fault` says which check fails first, and so which failure the command ends with.  Input of which
any check would fail (`HasBadInput`) has a first fault, whatever is wrong with the rest of it, and a
command that has one ends there: it neither looks at the network nor touches a file.
-/

set_option autoImplicit false

namespace BucketLifecycle

open Http

namespace Command

variable {files : FileTree} {command : Command}

/-- One of the checks on the input of a command fails. -/
def HasBadInput (files : FileTree) : Command → Prop
  | .expire bucket _ _ _ => ∃ e, BucketUri.parse bucket = .error e
  | .upload file dest strip _ =>
    (∃ e, ObjectUri.parse dest = .error e) ∨
      (∃ target e, ObjectUri.parse dest = .ok target ∧
        objectNameFor file strip target = .error e) ∨
      ∃ e, files.read file = .error e
  | .download source dir strip =>
    (∃ e, ObjectUri.parse source = .error e) ∨
      ∃ object e, ObjectUri.parse source = .ok object ∧ localPathFor object strip dir = .error e

/-- The first check that fails, with the failure of the command. -/
inductive Fault (files : FileTree) : Command → LifecycleError → Prop where
  | bucket {bucket : String} {days : UInt32} {cycles : Option UInt32} {secs : Option UInt64}
      {e : UriError} (hbucket : BucketUri.parse bucket = .error e) :
    Fault files (.expire bucket days cycles secs) (.ofUri e)
  | destination {file : Path} {dest : String} {strip : Option Path} {contentType : Option String}
      {e : UriError} (hdest : ObjectUri.parse dest = .error e) :
    Fault files (.upload file dest strip contentType) (.ofUri e)
  | objectName {file : Path} {dest : String} {strip : Option Path} {contentType : Option String}
      {target : ObjectUri} {e : LifecycleError} (hdest : ObjectUri.parse dest = .ok target)
      (hname : objectNameFor file strip target = .error e) :
    Fault files (.upload file dest strip contentType) e
  | reading {file : Path} {dest : String} {strip : Option Path} {contentType : Option String}
      {target object : ObjectUri} {e : FileError} (hdest : ObjectUri.parse dest = .ok target)
      (hname : objectNameFor file strip target = .ok object)
      (hread : files.read file = .error e) :
    Fault files (.upload file dest strip contentType) (.ofFile e)
  | source {source : String} {dir : Path} {strip : Option String} {e : UriError}
      (hsource : ObjectUri.parse source = .error e) :
    Fault files (.download source dir strip) (.ofUri e)
  | localPath {source : String} {dir : Path} {strip : Option String} {object : ObjectUri}
      {e : LifecycleError} (hsource : ObjectUri.parse source = .ok object)
      (hpath : localPathFor object strip dir = .error e) :
    Fault files (.download source dir strip) e

/-- Whatever else is wrong, some check fails first. -/
theorem exists_fault (h : command.HasBadInput files) : ∃ e, Fault files command e := by
  cases command with
  | expire bucket days cycles secs =>
    obtain ⟨e, hbucket⟩ := h
    exact ⟨_, .bucket hbucket⟩
  | upload file dest strip contentType =>
    cases hdest : ObjectUri.parse dest with
    | error e => exact ⟨_, .destination hdest⟩
    | ok target =>
      cases hname : objectNameFor file strip target with
      | error e => exact ⟨_, .objectName hdest hname⟩
      | ok object =>
        -- The destination and the name are fine, so it is the file that cannot be read.
        rcases h with ⟨e, hbad⟩ | ⟨target', e, hdest', hbad⟩ | ⟨e, hread⟩
        · cases hdest.symm.trans hbad
        · cases hdest.symm.trans hdest'
          cases hname.symm.trans hbad
        · exact ⟨_, .reading hdest hname hread⟩
  | download source dir strip =>
    rcases h with ⟨e, hsource⟩ | ⟨object, e, hsource, hpath⟩
    · exact ⟨_, .source hsource⟩
    · exact ⟨_, .localPath hsource hpath⟩

namespace Fault

variable {e : LifecycleError}

/-- A command with a fault ends before its first call. -/
theorem executeWith_eq (h : Fault files command e) (c : Client) (s : Settings) (n : Network) :
    command.executeWith c s n files = .rejected (.lifecycle e) n files := by
  cases h with
  | bucket hbucket =>
    dsimp only [executeWith, Reconciler.runUri, Reconciler.uriResult?]
    rw [hbucket]
    rfl
  | destination hdest =>
    dsimp only [executeWith]
    rw [hdest]
  | objectName hdest hname =>
    dsimp only [executeWith, uploadFile, uploadSource]
    rw [hdest]
    dsimp only
    rw [hname]
    rfl
  | reading hdest hname hread =>
    dsimp only [executeWith, uploadFile, uploadSource]
    rw [hdest]
    dsimp only
    rw [hname, hread]
    rfl
  | source hsource =>
    dsimp only [executeWith]
    rw [hsource]
  | localPath hsource hpath =>
    dsimp only [executeWith, downloadTo]
    rw [hsource]
    dsimp only
    rw [hpath]
    rfl

/-- The failure says what is wrong with the input; no call to the store is behind it. -/
theorem storeError_eq (h : Fault files command e) : e.storeError = none := by
  cases h with
  | bucket | destination | source | reading => rfl
  | objectName _ hname =>
    unfold objectNameFor at hname
    split at hname
    · cases hname
    · cases hname
      rfl
  | localPath _ hpath =>
    unfold localPathFor at hpath
    split at hpath
    · cases hpath
    · cases hpath
      rfl

end Fault

end Command

/-- A command whose input is bad fails, whatever the network is like, with the failure of the first
check that fails, and leaves the network and the files as they are. -/
theorem execute_badInput {files : FileTree} {command : Command} {s : Settings} {c : Client}
    (hclient : Client.ofConfig s.client = .ok c) (hbad : command.HasBadInput files) :
    ∃ e, Command.Fault files command e ∧ e.storeError = none ∧
      ∀ n, command.execute s n files = ⟨some (.error (.lifecycle e)), n, files⟩ := by
  obtain ⟨e, hfault⟩ := Command.exists_fault hbad
  refine ⟨e, hfault, hfault.storeError_eq, ?_⟩
  intro n
  unfold Command.execute
  rw [hclient]
  exact hfault.executeWith_eq c s n

/-- An upload of a file that does not exist sends nothing, not even to a server that would take it.
-/
theorem execute_upload_of_missing_file :
    let s : Settings := { Settings.standard with endpoint := "http://[::1]:4443" }
    let command := Command.upload (Text.utf8Bytes "report.txt") "gs://ci-artifacts/logs" none none
    let n := Network.scripted [.answered ⟨200, [], Text.utf8Bytes "\x7b\x7d"⟩]
    (Client.ofConfig s.client).toBool = true ∧ command.HasBadInput .empty ∧
      ∃ e, command.execute s n .empty = ⟨some (.error (.lifecycle e)), n, .empty⟩ := by
  intro s command n
  have hbuilt : (Client.ofConfig s.client).toBool = true := by decide +kernel
  have hread : FileTree.empty.read (Text.utf8Bytes "report.txt") = .error .missing := by rfl
  have hbad : command.HasBadInput .empty := .inr (.inr ⟨_, hread⟩)
  refine ⟨hbuilt, hbad, ?_⟩
  cases hclient : Client.ofConfig s.client with
  | error e =>
    rw [hclient] at hbuilt
    cases hbuilt
  | ok c =>
    obtain ⟨e, -, -, hexecute⟩ := execute_badInput hclient hbad
    exact ⟨e, hexecute n⟩

end BucketLifecycle
