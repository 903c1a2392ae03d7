import BucketLifecycle.Settings.Basic
import BucketLifecycle.Settings.Tree

/-!
# Settings from a tree

A single value is taken for what a setting needs where it can be: any single value as a text, a
truth value as 1 or 0, a floating-point number rounded to a whole one, and a text that spells a
number or an answer to a question.  A setting that the tree leaves out keeps its standard value.
-/

set_option autoImplicit false

namespace BucketLifecycle

/-- Why a tree gives no settings. -/
inductive SettingsFault where
  /-- a value of the wrong type, where it was given, and the way to it -/
  | wrongType (origin : Option Origin) (found expected : String) (key : List SettingStep)
  /-- a single value in place of the retry policy -/
  | noRecord (found : String)
  deriving DecidableEq, Repr

def trailText : List SettingStep → String
  | [] => ""
  | .name key :: rest => "." ++ key ++ trailText rest
  | .index place :: rest => "[" ++ String.ofList (Text.writeInt place) ++ "]" ++ trailText rest

/-- The way to a value as messages show it. -/
def keyText : List SettingStep → String
  | .name key :: rest => key ++ trailText rest
  | steps => trailText steps

def SettingsFault.message : SettingsFault → String
  | .wrongType origin found expected key =>
    "invalid type: " ++ found ++ ", expected " ++ expected ++ " for key `" ++ keyText key ++ "`" ++
      origin.elim "" Origin.suffix
  | .noRecord found => "invalid type: " ++ found ++ ", expected struct RetryConfig"

/-- The fault one step further from its value. -/
def SettingsFault.below (step : SettingStep) : SettingsFault → SettingsFault
  | .wrongType origin found expected key => .wrongType origin found expected (step :: key)
  | .noRecord found => .noRecord found

/-- A single value in place of a record, as messages show it.  A whole floating-point number has a
point here. -/
def Scalar.describeForRecord : Scalar → String
  | .integer n => "integer `" ++ String.ofList (Text.writeInt n.toInt) ++ "`"
  | .floating x => "floating point `" ++ (⟨none, ".0"⟩ : Decimal.FloatStyle).write x ++ "`"
  | x => x.describe

namespace SettingTree

/-- Reads a setting from its value. -/
abbrev Reading (α : Type) := SettingTree → Except SettingsFault α

/-- The value is of the wrong type. -/
def refuse {α : Type} (expected : String) : Reading α
  | .scalar o x => .error (.wrongType o x.describe expected [])
  | .list o _ => .error (.wrongType o "sequence" expected [])
  | .table o _ => .error (.wrongType o "map" expected [])

def text : Reading String
  | .scalar _ (.text s) => .ok s
  | .scalar _ (.boolean b) => .ok (if b then "true" else "false")
  | .scalar _ (.integer n) => .ok (String.ofList (Text.writeInt n.toInt))
  | .scalar _ (.floating x) => .ok (Decimal.FloatStyle.plain.write x)
  | t => t.refuse "a string"

/-- The number that a text spells, or that an answer to a question stands for. -/
def numberOfText? (s : String) : Option UInt64 :=
  let word := String.ofList (s.toList.map Char.toLower)
  if word = "true" ∨ word = "on" ∨ word = "yes" then some 1
  else if word = "false" ∨ word = "off" ∨ word = "no" then some 0
  else (Text.readUInt64 s.toList).toOption

def uint64 : Reading UInt64
  | .scalar o (.integer n) =>
    if 0 ≤ n.toInt then .ok (UInt64.ofNat n.toInt.toNat)
    else .error (.wrongType o (Scalar.integer n).describe "an unsigned 64 bit or less integer" [])
  | .scalar _ (.boolean b) => .ok (if b then 1 else 0)
  | .scalar _ (.floating x) => .ok x.round.toUInt64
  | .scalar o (.text s) =>
    match numberOfText? s with
    | some n => .ok n
    | none => (SettingTree.scalar o (.text s)).refuse "an integer"
  | t => t.refuse "an integer"

def uint32 : Reading UInt32 := fun t => do
  let n ← t.uint64
  if n.toNat < UInt32.size then return UInt32.ofNat n.toNat
  else
    let found := "64-bit unsigned integer `" ++ String.ofList (Text.writeNat n.toNat) ++ "`"
    .error (.wrongType none found "an unsigned 32 bit integer" [])

/-- A time in milliseconds. -/
def millis : Reading Duration := fun t => t.uint64.map Duration.ofMillis

def optionalText : Reading (Option String)
  | .scalar _ .null => .ok none
  | t => t.text.map some

/-- Reads the value at a step, or takes the standard value where there is none. -/
def settingOr {α : Type} (standard : α) (step : SettingStep) (read : Reading α) :
    Option SettingTree → Except SettingsFault α
  | none => .ok standard
  | some t => (read t).mapError (·.below step)

/-- A retry policy, as a table or as a list of its settings in order. -/
def retryPolicy : Reading RetryPolicy
  | .scalar _ x => .error (.noRecord x.describeForRecord)
  | .list _ items => do
    let s := RetryPolicy.standard
    return ⟨← settingOr s.maxRetries (.index 0) uint32 items[0]?,
      ← settingOr s.baseDelay (.index 1) millis items[1]?,
      ← settingOr s.maxDelay (.index 2) millis items[2]?⟩
  | .table _ ms => do
    let s := RetryPolicy.standard
    return ⟨← settingOr s.maxRetries (.name "max_retries") uint32 (ms.lookup "max_retries"),
      ← settingOr s.baseDelay (.name "base_delay") millis (ms.lookup "base_delay"),
      ← settingOr s.maxDelay (.name "max_delay") millis (ms.lookup "max_delay")⟩

end SettingTree

def Settings.ofTree (t : SettingTree) : Except SettingsFault Settings := do
  let s := Settings.standard
  let read {α : Type} (standard : α) (key : String) (reading : SettingTree.Reading α) :=
    SettingTree.settingOr standard (.name key) reading (t.member? key)
  return { endpoint := ← read s.endpoint "endpoint" SettingTree.text
           project := ← read s.project "project" SettingTree.optionalText
           accessToken := ← read s.accessToken "access_token" SettingTree.optionalText
           timeoutSecs := ← read s.timeoutSecs "timeout_secs" SettingTree.uint64
           retry := ← read s.retry "retry" SettingTree.retryPolicy
           maxConflictCycles := ← read s.maxConflictCycles "max_conflict_cycles" SettingTree.uint32
           deadlineSecs := ← read s.deadlineSecs "deadline_secs" SettingTree.uint64 }

end BucketLifecycle
