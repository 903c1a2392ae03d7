import BucketLifecycle.Command.Basic
import BucketLifecycle.Command.Level

/-!
# The command line

The first level holds what applies to every command, the second the options of one command.  What
applies to every command may stand on either level, and on the second it wins.
-/

set_option autoImplicit false

namespace BucketLifecycle.Command

/-! ## Options of every command -/

def configOpt : Opt Path := ⟨"config", some 'c', some "STEWARD_CONFIG", .value, readPath⟩

def endpointOpt : Opt String := .named "endpoint" readText

def projectOpt : Opt String := .named "project" readText

def tokenOpt : Opt String := .named "token" readText

def retriesOpt : Opt UInt32 := .named "retries" (readCount 0)

/-- Whether more is to be logged. -/
def debugOpt : Opt Bool := ⟨"debug", some 'd', some "STEWARD_DEBUG", .switch, readSwitch⟩

/-- The options that may stand on either level. -/
def sharedForms : List OptionForm :=
  [endpointOpt.toForm, projectOpt.toForm, tokenOpt.toForm, retriesOpt.toForm, debugOpt.toForm]

/-! ## Options of one command -/

def bucketOpt : Opt String := .named "bucket" readText

/-- The age at which objects expire. -/
def daysOpt : Opt UInt32 := .named "days" (readCount 1)

def maxConflictCyclesOpt : Opt UInt32 := .named "max-conflict-cycles" (readCount 0)

/-- The longest time for a reconciliation. -/
def deadlineSecsOpt : Opt UInt64 := .named "deadline-secs" readSeconds

def fileOpt : Opt Path := .named "file" readPath

/-- Where a file is uploaded to. -/
def uploadDestOpt : Opt String := .named "dest" readText

/-- The directory that is left out of the name of an object. -/
def uploadStripOpt : Opt Path := .named "strip-prefix" readPath

/-- The content type of an object. -/
def contentTypeOpt : Opt String := .named "content-type" readText

def sourceOpt : Opt String := .named "source" readText

/-- The directory that an object is downloaded to. -/
def downloadDestOpt : Opt Path := .named "dest" readPath

/-- The text that is left out of the path of a file. -/
def downloadStripOpt : Opt String := .named "strip-prefix" readText

/-! ## Commands -/

/-- How a command is written. -/
structure CommandForm where
  name : String
  options : List OptionForm
  read : Given → Except UsageError Command

/-- How objects are made to expire. -/
def expireForm : CommandForm where
  name := "expire"
  options := [bucketOpt.toForm, daysOpt.toForm, maxConflictCyclesOpt.toForm, deadlineSecsOpt.toForm]
  read g := do
    let bucket ← g.need bucketOpt
    let days ← g.need daysOpt
    return .expire bucket days (← g.get? maxConflictCyclesOpt) (← g.get? deadlineSecsOpt)

def uploadForm : CommandForm where
  name := "upload"
  options := [fileOpt.toForm, uploadDestOpt.toForm, uploadStripOpt.toForm, contentTypeOpt.toForm]
  read g := do
    let file ← g.need fileOpt
    let dest ← g.need uploadDestOpt
    return .upload file dest (← g.get? uploadStripOpt) (← g.get? contentTypeOpt)

def downloadForm : CommandForm where
  name := "download"
  options := [sourceOpt.toForm, downloadDestOpt.toForm, downloadStripOpt.toForm]
  read g := do
    let source ← g.need sourceOpt
    let dest ← g.need downloadDestOpt
    return .download source dest (← g.get? downloadStripOpt)

def commandForms : List CommandForm := [expireForm, uploadForm, downloadForm]

/-- The name under which help on a command is asked for. -/
def helpName : String := "help"

def firstLevel : Level :=
  ⟨configOpt.toForm :: sharedForms ++ [helpForm, versionForm],
    commandForms.map CommandForm.name ++ [helpName]⟩

def CommandForm.level (f : CommandForm) : Level :=
  ⟨f.options ++ sharedForms ++ [helpForm], []⟩

/-- What becomes of a request for help: there must be a command of each name that follows, and no
command has others below it. -/
def helpRequest : List String → UsageError
  | [] => .help
  | [name] => if firstLevel.commands.contains name then .help else .unknownCommand
  | _ => .unknownCommand

/-- The options of a command and the command itself. -/
def CommandForm.readLevel (f : CommandForm) (vars : Variables) (args : List String) :
    Except UsageError (Given × Command) := do
  let (p, _) ← f.level.readArguments .start args
  let given ← f.level.finish vars p
  return (given, ← f.read given)

/-- What an option comes to that is given on either level. -/
def sharedValue {α : Type} (outer inner : Given) (o : Opt α) : Except UsageError (Option α) := do
  return (← inner.get? o) <|> (← outer.get? o)

def assemble (outer inner : Given) (command : Command) : Except UsageError Invocation := do
  let debug := [← outer.get? debugOpt, ← inner.get? debugOpt].contains (some true)
  return { file := ← outer.get? configOpt
           endpoint := ← sharedValue outer inner endpointOpt
           project := ← sharedValue outer inner projectOpt
           accessToken := ← sharedValue outer inner tokenOpt
           retries := ← sharedValue outer inner retriesOpt
           debug := debug
           command := command }

end Command

open Command

/-- Reads a command line.  The level of a command is read to its end before the first level is
finished. -/
def Invocation.parse (vars : Variables) (args : List String) : Except UsageError Invocation := do
  let (p, next) ← firstLevel.readArguments .start args
  match next with
  | none =>
    let given ← firstLevel.finish vars p
    .error (if given.values.isEmpty then .nothing else .noCommand)
  | some (name, rest) =>
    match commandForms.find? fun f => f.name == name with
    | none => .error (helpRequest rest)
    | some form =>
      let (inner, command) ← form.readLevel vars rest
      let outer ← firstLevel.finish vars p
      assemble outer inner command

end BucketLifecycle
