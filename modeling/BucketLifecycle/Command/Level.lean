import BucketLifecycle.Command.Options
import BucketLifecycle.Settings.Environment
import BucketLifecycle.Text.Segments

/-!
# One level of a command line

Arguments are read from left to right.  An option that needs a value takes the next argument that
is no option; it is recorded when the next option begins or the level ends, so a fault that shows
before that wins over one in its value.  The name of a command ends a level, and the rest belongs
to that command.
-/

set_option autoImplicit false

namespace BucketLifecycle.Command

/-- What one level of a command line admits. -/
structure Level where
  options : List OptionForm
  /-- the names of the commands below -/
  commands : List String

/-- How far a level has been read. -/
structure Progress where
  /-- the options recorded so far -/
  given : Given
  /-- the option read last and its value, if it needs one and is not recorded yet -/
  pending : Option (OptionForm × Option String)

namespace Progress

def start : Progress := ⟨.none, none⟩

/-- Whether the next argument can only be a value. -/
def awaitsValue (p : Progress) : Bool :=
  match p.pending with
  | some (_, none) => true
  | _ => false

def settle (p : Progress) : Except UsageError Given :=
  match p.pending with
  | none => .ok p.given
  | some (_, none) => .error .invalidValue
  | some (o, some value) => p.given.record o value

/-- Begins an option without a value of its own. -/
def begin (p : Progress) (o : OptionForm) : Except UsageError Progress := do
  let given ← p.settle
  match o.action with
  | .value => return ⟨given, some (o, none)⟩
  | .switch => return ⟨← given.record o "true", none⟩
  | .help => .error .help
  | .version => .error .version

/-- An option and its value in one argument. -/
def attach (p : Progress) (o : OptionForm) (value : List Char) : Except UsageError Progress := do
  let given ← p.settle
  return ⟨← given.record o (String.ofList value), none⟩

end Progress

namespace Level

/-- Reads what stands behind two dashes: a long name, perhaps with a value. -/
def readLong (l : Level) (p : Progress) (word : List Char) : Except UsageError Progress :=
  let (long, value) := match Text.cutAt '=' word with
    | none => (word, none)
    | some (long, value) => (long, some value)
  match l.options.find? fun o => o.long == String.ofList long with
  | none => .error .unknownArgument
  | some o =>
    match value with
    | none => p.begin o
    | some value => if o.action = .value then p.attach o value else .error .unexpectedValue

/-- Reads letters behind one dash.  Behind the letter of an option that needs a value the rest is
that value, with or without an equals sign. -/
def readLetters (l : Level) : Progress → List Char → Except UsageError Progress
  | p, [] => .ok p
  | p, c :: rest =>
    match l.options.find? fun o => o.letter == some c with
    | none => .error .unknownArgument
    | some o =>
      if o.action = .value then
        match rest with
        | [] => p.begin o
        | '=' :: value => p.attach o value
        | value => p.attach o value
      else do l.readLetters (← p.begin o) rest

/-- The fault in an argument that is neither an option, a value nor a command. -/
def stray (l : Level) : UsageError :=
  if l.commands.isEmpty then .unknownArgument else .unknownCommand

def readArgument (l : Level) (p : Progress) (arg : String) : Except UsageError Progress :=
  match arg.toList with
  | '-' :: '-' :: word => l.readLong p word
  | '-' :: c :: word => l.readLetters p (c :: word)
  | _ =>
    match p.pending with
    | some (o, none) => .ok ⟨p.given, some (o, some arg)⟩
    | _ => .error l.stray

/-- Reads arguments up to the name of a command or the end.  Two lone dashes end the options; no
argument may follow them. -/
def readArguments (l : Level) :
    Progress → List String → Except UsageError (Progress × Option (String × List String))
  | p, [] => .ok (p, none)
  | p, arg :: rest =>
    if !p.awaitsValue && l.commands.contains arg then .ok (p, some (arg, rest))
    else if arg = "--" then
      match rest with
      | [] => .ok (p, none)
      | next :: _ => .error (if l.commands.contains next then .unknownArgument else l.stray)
    else do l.readArguments (← l.readArgument p arg) rest

/-- Adds an option that an environment variable gives and the arguments do not. -/
def addFallback (vars : Variables) (g : Given) (o : OptionForm) : Except UsageError Given :=
  match o.fallback.bind fun name => vars.lookup name with
  | none => .ok g
  | some value => if g.has o.long then .ok g else g.record o value

/-- The options of a level that has been read. -/
def finish (l : Level) (vars : Variables) (p : Progress) : Except UsageError Given := do
  l.options.foldlM (addFallback vars) (← p.settle)

end Level

end BucketLifecycle.Command
