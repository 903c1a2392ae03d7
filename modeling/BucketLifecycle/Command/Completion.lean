import BucketLifecycle.Command.EnvironmentFile
import BucketLifecycle.Command.Execute
import BucketLifecycle.Command.Line

/-!
# Runs of the program

A run completes the environment from a file, reads its arguments, resolves the settings and
carries out one command.
-/

set_option autoImplicit false

namespace BucketLifecycle

open Http

/-- The file that completes the environment. -/
def environmentFile : Path := Text.utf8Bytes ".env"

/-- The environment with the variables of the file, where there is one.  There is none where the
file has a value that no environment can hold. -/
def completeEnvironment (vars : Variables) (files : FileTree) : Option Variables :=
  match files.read environmentFile with
  | .ok content => vars.setFile content
  | .error _ => some vars

/-- How the program ends. -/
structure Completion where
  exitCode : UInt32
  /-- what it shows to who asks for it -/
  answer : Option String
  /-- what it says about a failure -/
  message : Option String
  network : Network
  files : FileTree

namespace Completion

/-- The status of a run that is given up: a counter overflows, or the environment cannot be
completed. -/
def abortCode : UInt32 := 101

/-- How the program ends behind a command. -/
def ofExecuted (e : Executed) : Completion :=
  match e.result with
  | some (.ok ()) => ⟨0, none, none, e.network, e.files⟩
  | some (.error f) =>
    ⟨1, none, some (Command.programName ++ ": " ++ f.message), e.network, e.files⟩
  | none => ⟨abortCode, none, none, e.network, e.files⟩

/-- How the program ends where its arguments give no command. -/
def ofUsage (e : Command.UsageError) (n : Network) (files : FileTree) : Completion :=
  ⟨e.exitCode, e.answer?, none, n, files⟩

def ofArguments (args : List String) (vars : Variables) (n : Network) (files : FileTree) :
    Completion :=
  match completeEnvironment vars files with
  | none => ⟨abortCode, none, none, n, files⟩
  | some vars =>
    match Invocation.parse vars args with
    | .error e => .ofUsage e n files
    | .ok i => .ofExecuted (i.run vars n files)

end Completion

/-- The files that the program may read. -/
def filesOfInterest (args : List String) (vars : Variables) : List Path :=
  match Invocation.parse vars args with
  | .error _ => []
  | .ok i => i.paths

end BucketLifecycle
