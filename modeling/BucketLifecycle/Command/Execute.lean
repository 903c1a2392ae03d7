import BucketLifecycle.Command.Basic
import BucketLifecycle.Transfer.Basic

/-!
# Carrying out a command

A command makes a client from the settings and then reconciles a bucket or transfers one file.  A
command that names no bucket or object is rejected before any request.
-/

set_option autoImplicit false

namespace BucketLifecycle

open Http

/-- Why a command fails. -/
inductive CommandError where
  | settings (e : SettingsError)
  | client (e : ClientError)
  | lifecycle (e : LifecycleError)
  deriving DecidableEq, Repr

namespace CommandError

/-- What was being done when a command failed, where that is told apart from the failure. -/
def context? : CommandError → Option String
  | .settings _ => some "failed to load configuration"
  | .client _ => some "failed to build storage client"
  | .lifecycle _ => none

/-- The wordings of the failure and of what lies behind it, from the outside in. -/
def chain (e : CommandError) : List String :=
  e.context?.toList ++ match e with
    | .settings e => [e.message]
    | .client e => [e.message]
    | .lifecycle e => e.message :: e.source.toList

/-- The wording of a failure with all that lies behind it. -/
def message (e : CommandError) : String :=
  ": ".intercalate e.chain

end CommandError

/-- What a command comes to: its result, and the network and the files afterwards.  There is no
result where a counter overflows. -/
structure Executed where
  result : Option (Except CommandError Unit)
  network : Network
  files : FileTree

namespace Executed

/-- A command that fails before it does anything. -/
def rejected (e : CommandError) (n : Network) (files : FileTree) : Executed :=
  ⟨some (.error e), n, files⟩

/-- The result of a reconciliation or transfer. -/
def ofResult {α : Type} (result : Option (Except LifecycleError α)) (n : Network)
    (files : FileTree) : Executed :=
  ⟨result.map fun r => (r.map fun _ => ()).mapError .lifecycle, n, files⟩

def ofTransferred {α : Type} (t : Transferred α) : Executed :=
  ofResult t.result t.network t.files

end Executed

namespace Command

/-- Carries out a command with a client. -/
def executeWith (c : Client) (s : Settings) (n : Network) (files : FileTree) : Command → Executed
  | .expire bucket days _ _ =>
    let policy : Expiring := ⟨days⟩
    let run := s.reconciler.runUri c.handler bucket policy.decorate policy.check 0 n
    .ofResult (s.reconciler.uriResult? bucket run.ending) run.state files
  | .upload file dest strip contentType =>
    match ObjectUri.parse dest with
    | .error e => .rejected (.lifecycle (.ofUri e)) n files
    | .ok dest => .ofTransferred (uploadFile c s.retry file strip dest contentType n files)
  | .download source dest strip =>
    match ObjectUri.parse source with
    | .error e => .rejected (.lifecycle (.ofUri e)) n files
    | .ok source => .ofTransferred (downloadTo c s.retry source strip dest n files)

def execute (command : Command) (s : Settings) (n : Network) (files : FileTree) : Executed :=
  match Client.ofConfig s.client with
  | .error e => .rejected (.client e) n files
  | .ok c => command.executeWith c s n files

end Command

/-- Resolves the settings of an invocation and carries out its command. -/
def Invocation.run (i : Invocation) (vars : Variables) (n : Network) (files : FileTree) :
    Executed :=
  match i.resolve vars files with
  | .error e => .rejected (.settings e) n files
  | .ok s => i.command.execute s n files

end BucketLifecycle
