import BucketLifecycle.Command.Usage
import BucketLifecycle.Text.Decimal
import BucketLifecycle.Text.Utf8

/-!
# Options of a command

An option has a long name, perhaps a letter, and perhaps an environment variable that gives it
where the arguments do not.  Its value is checked when it is recorded and read when the command is
put together, so what is read has been checked before.
-/

set_option autoImplicit false

namespace BucketLifecycle.Command

/-- What an option asks for. -/
inductive Action where
  /-- to be set to a value -/
  | value
  /-- to be turned on -/
  | switch
  /-- to be told about the command -/
  | help
  /-- to be told the version -/
  | version
  deriving DecidableEq, Repr

/-- An option as the arguments and the environment see it. -/
structure OptionForm where
  long : String
  letter : Option Char
  fallback : Option String
  action : Action
  check : String → Except UsageError Unit

/-- An option whose value stands for an `α`. -/
structure Opt (α : Type) where
  long : String
  letter : Option Char
  /-- the environment variable that gives the option where the arguments do not -/
  fallback : Option String
  action : Action
  read : String → Except UsageError α

namespace Opt

variable {α : Type}

/-- The option without the meaning of its value. -/
def toForm (o : Opt α) : OptionForm :=
  ⟨o.long, o.letter, o.fallback, o.action, fun s => (o.read s).map fun _ => ()⟩

/-- An option that has a long name only. -/
def named (long : String) (read : String → Except UsageError α) : Opt α :=
  ⟨long, none, none, .value, read⟩

end Opt

def helpForm : OptionForm := ⟨"help", some 'h', none, .help, fun _ => .ok ()⟩

def versionForm : OptionForm := ⟨"version", some 'V', none, .version, fun _ => .ok ()⟩

/-! ## Values -/

def readText (s : String) : Except UsageError String := .ok s

/-- A path, which is not empty. -/
def readPath (s : String) : Except UsageError Bytes :=
  if s.isEmpty then .error .invalidValue else .ok (Text.utf8Bytes s)

/-- A truth value, spelled out. -/
def readSwitch (s : String) : Except UsageError Bool :=
  if s = "true" then .ok true
  else if s = "false" then .ok false
  else .error .invalidValue

/-- A 32-bit number from a least one on. -/
def readCount (least : Nat) (s : String) : Except UsageError UInt32 :=
  match Text.readInt64 s.toList with
  | .ok n =>
    if least ≤ n ∧ n < UInt32.size then .ok (UInt32.ofNat n.toNat) else .error .unreadableValue
  | .error _ => .error .unreadableValue

def readSeconds (s : String) : Except UsageError UInt64 :=
  (Text.readUInt64 s.toList).mapError fun _ => .unreadableValue

/-! ## Options that have been given -/

/-- The options that have been given, by their long names, with their values. -/
structure Given where
  values : List (String × String)
  deriving DecidableEq, Repr

namespace Given

variable {α : Type}

def none : Given := ⟨[]⟩

/-- Whether an option has been given. -/
def has (g : Given) (long : String) : Bool :=
  (g.values.lookup long).isSome

/-- Records an option with a value that it admits.  No option is given twice. -/
def record (g : Given) (o : OptionForm) (value : String) : Except UsageError Given :=
  if g.has o.long then .error .repeatedOption
  else (o.check value).map fun _ => ⟨g.values ++ [(o.long, value)]⟩

/-- The value of an option that has been given. -/
def get? (g : Given) (o : Opt α) : Except UsageError (Option α) :=
  match g.values.lookup o.long with
  | .none => .ok .none
  | some value => (o.read value).map some

/-- The value of an option that must be given. -/
def need (g : Given) (o : Opt α) : Except UsageError α :=
  match g.get? o with
  | .ok (some a) => .ok a
  | .ok .none => .error .missingOption
  | .error e => .error e

end Given

end BucketLifecycle.Command
