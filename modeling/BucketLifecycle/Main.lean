import BucketLifecycle.Command.Completion

/-!
# The program on the command line

Reads the environment and the files that a command may need, runs the program, and shows what it
says.  There is no transport here: every request fails as one to a host that cannot be reached, so
no command changes a file.
-/

set_option autoImplicit false

open BucketLifecycle

/-- The environment variables that the program looks at. -/
def knownVariables : List String :=
  ["STEWARD_CONFIG", "STEWARD_DEBUG", "STEWARD_ENDPOINT", "STEWARD_PROJECT", "STEWARD_ACCESS_TOKEN",
    "STEWARD_TIMEOUT_SECS", "STEWARD_RETRY__MAX_RETRIES", "STEWARD_RETRY__BASE_DELAY",
    "STEWARD_RETRY__MAX_DELAY", "STEWARD_MAX_CONFLICT_CYCLES", "STEWARD_DEADLINE_SECS"]

def readVariables : IO Variables :=
  knownVariables.filterMapM fun name => do
    return (← IO.getEnv name).map fun value => (name, value)

/-- The place of the working directory. -/
def workingDirectory : IO Place := do
  return FileTree.empty.namedPlace (Text.utf8Bytes (← IO.currentDir).toString)

/-- Adds the file at a path to the files, if there is one. -/
def readEntry (files : FileTree) (p : Path) : IO FileTree := do
  try
    let content ← IO.FS.readBinFile (Text.utf8Lossy p)
    return files.seed p (.file content.toList)
  catch _ => return files

/-- Runs the program on the command line. -/
def main (args : List String) : IO UInt32 := do
  let vars ← readVariables
  let files ← readEntry (.bare (← workingDirectory)) environmentFile
  let complete := (completeEnvironment vars files).getD vars
  let files ← (filesOfInterest args complete).foldlM readEntry files
  let c := Completion.ofArguments args vars (.unreachable []) files
  if let some text := c.answer then IO.print text
  if let some message := c.message then IO.eprintln message
  return c.exitCode
