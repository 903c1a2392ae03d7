/-!
# Command lines that do not run

What arguments come to where they give no command: a fault in them, or a request to be told about
the program.  Only a request counts as a success.
-/

set_option autoImplicit false

namespace BucketLifecycle.Command

def programName : String := "steward"

def programVersion : String := "0.1.0"

/-- Why arguments give no command. -/
inductive UsageError where
  /-- help is asked for -/
  | help
  /-- the version is asked for -/
  | version
  /-- nothing is given -/
  | nothing
  /-- options but no command -/
  | noCommand
  | unknownCommand
  | unknownArgument
  | missingOption
  /-- an option without the value it needs, or with one that is none of its values -/
  | invalidValue
  /-- a value that is no number, or none in the range of the option -/
  | unreadableValue
  /-- an option given twice -/
  | repeatedOption
  /-- a value for a switch -/
  | unexpectedValue
  deriving DecidableEq, Repr

/-- The status that the program ends with. -/
def UsageError.exitCode : UsageError → UInt32
  | .help | .version => 0
  | _ => 2

/-- What is shown to who asks for it. -/
def UsageError.answer? : UsageError → Option String
  | .version => some (programName ++ " " ++ programVersion ++ "\n")
  | _ => none

end BucketLifecycle.Command
