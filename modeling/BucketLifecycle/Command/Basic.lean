import BucketLifecycle.Settings.Load

/-!
# Commands

What the program is asked to do, and the settings that the request itself gives.  Those win over the
environment and over the settings file.
-/

set_option autoImplicit false

namespace BucketLifecycle

/-- A command. -/
inductive Command where
  /-- make the objects of a bucket expire -/
  | expire (bucket : String) (days : UInt32) (maxConflictCycles : Option UInt32)
      (deadlineSecs : Option UInt64)
  /-- put a file into a bucket -/
  | upload (file : Path) (dest : String) (strip : Option Path) (contentType : Option String)
  /-- put an object into a directory -/
  | download (source : String) (dest : Path) (strip : Option String)
  deriving DecidableEq, Repr

/-- A command with the settings that are given beside it. -/
structure Invocation where
  /-- the settings file -/
  file : Option Path
  endpoint : Option String
  project : Option String
  accessToken : Option String
  /-- the number of retries -/
  retries : Option UInt32
  /-- whether more is to be logged -/
  debug : Bool
  command : Command
  deriving DecidableEq, Repr

namespace Command

/-- The number of lost races that a command asks for. -/
def maxConflictCycles? : Command → Option UInt32
  | .expire _ _ cycles _ => cycles
  | _ => none

/-- The longest time that a command asks for. -/
def deadlineSecs? : Command → Option UInt64
  | .expire _ _ _ secs => secs
  | _ => none

/-- The file that a command reads. -/
def source? : Command → Option Path
  | .upload file _ _ _ => some file
  | _ => none

end Command

namespace Invocation

/-- Puts what the invocation gives above other settings. -/
def override (i : Invocation) (s : Settings) : Settings :=
  { s with
    endpoint := i.endpoint.getD s.endpoint
    project := i.project <|> s.project
    accessToken := i.accessToken <|> s.accessToken
    retry := { s.retry with maxRetries := i.retries.getD s.retry.maxRetries }
    maxConflictCycles := i.command.maxConflictCycles?.getD s.maxConflictCycles
    deadlineSecs := i.command.deadlineSecs?.getD s.deadlineSecs }

/-- The settings of the invocation, the environment and the settings file. -/
def resolve (i : Invocation) (vars : Variables) (files : FileTree) :
    Except SettingsError Settings :=
  (Settings.load i.file vars files).map i.override

/-- The files that the invocation may read. -/
def paths (i : Invocation) : List Path :=
  i.command.source?.toList ++ i.file.toList.flatMap settingsCandidates

end Invocation

end BucketLifecycle
