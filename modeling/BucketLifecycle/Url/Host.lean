import BucketLifecycle.Text.Segments
import BucketLifecycle.Text.Decimal
import BucketLifecycle.Url.Domain
import BucketLifecycle.Url.Percent

/-!
# Hosts

A host is a name, an address of 32 bits or an address of 128 bits.  A name whose last part is a
number must be an address of 32 bits, in one to four parts that are decimal, octal or hexadecimal;
an address of 128 bits stands between square brackets and is written in its shortest form.
-/

set_option autoImplicit false

namespace BucketLifecycle

/-- Why a text is not a URL. -/
inductive UrlError where
  | emptyHost
  | badDomain
  | badPort
  | badIpv4
  | badIpv6
  | badDomainChar
  | relative
  deriving DecidableEq, Repr

def UrlError.message : UrlError → String
  | .emptyHost => "empty host"
  | .badDomain => "invalid international domain name"
  | .badPort => "invalid port number"
  | .badIpv4 => "invalid IPv4 address"
  | .badIpv6 => "invalid IPv6 address"
  | .badDomainChar => "invalid domain character"
  | .relative => "relative URL without a base"

namespace Host

open Text (segments)

/-- One part of an address of 32 bits: `0x` begins a hexadecimal number, and a further leading zero
an octal one. -/
def ipv4Number? (cs : List Char) : Option Nat :=
  match cs with
  | [] => none
  | '0' :: x :: rest =>
    if x = 'x' ∨ x = 'X' then Text.numberInBase? 16 rest else Text.numberInBase? 8 (x :: rest)
  | cs => Text.numberInBase? 10 cs

/-- The parts of a name without the empty one behind a period at its end. -/
def nameParts (name : List Char) : List (List Char) :=
  let parts := segments '.' name
  if parts.getLast? = some [] ∧ 1 < parts.length then parts.dropLast else parts

/-- Whether the last part of a name is a number. -/
def endsInNumber (name : List Char) : Bool :=
  match (nameParts name).getLast? with
  | none => false
  | some last => Text.isNumeral last || (ipv4Number? last).isSome

/-- The address of 32 bits that a name spells: its last part fills the bytes that the parts before
it leave. -/
def ipv4? (name : List Char) : Except UrlError Nat := do
  let parts := nameParts name
  if 4 < parts.length then .error .badIpv4
  let some numbers := parts.mapM ipv4Number? | .error .badIpv4
  let some last := numbers.getLast? | .error .badIpv4
  let front := numbers.dropLast
  if front.any (255 < ·) then .error .badIpv4
  if Nat.pow 256 (4 - front.length) ≤ last then .error .badIpv4
  return front.zipIdx.foldl (fun sum (n, i) => sum + n * Nat.pow 256 (3 - i)) last

/-- An address of 32 bits in four decimal parts. -/
def writeIpv4 (n : Nat) : List Char :=
  Text.joinSegments '.' [Text.writeNat (n / 16777216 % 256), Text.writeNat (n / 65536 % 256),
    Text.writeNat (n / 256 % 256), Text.writeNat (n % 256)]

/-- A piece of an address of 128 bits: up to four hexadecimal digits. -/
def ipv6Piece? (cs : List Char) : Option Nat :=
  if cs.isEmpty ∨ 4 < cs.length then none else Text.numberInBase? 16 cs

/-- Four decimal numbers below 256, without zeros in front, as two pieces. -/
def ipv6Tail? (cs : List Char) : Option (List Nat) := do
  let parts := segments '.' cs
  if parts.length ≠ 4 then none
  let ns ← parts.mapM fun p =>
    if Text.isNumeral p ∧ Text.digitsValue p ≤ 255 ∧ (p.length = 1 ∨ p.head? ≠ some '0') then
      some (Text.digitsValue p)
    else none
  match ns with
  | [a, b, c, d] => some [a * 256 + b, c * 256 + d]
  | _ => none

/-- The pieces between single colons; the last may be in decimal parts. -/
def ipv6Pieces? (cs : List Char) : Option (List Nat) :=
  if cs.isEmpty then some []
  else
    let parts := segments ':' cs
    match parts.getLast? with
    | none => some []
    | some last => do
      let front ← parts.dropLast.mapM ipv6Piece?
      let tail ← if last.contains '.' then ipv6Tail? last else (ipv6Piece? last).map fun n => [n]
      return front ++ tail

/-- The eight pieces of an address of 128 bits.  A double colon stands for the zeros that are
missing, at least one. -/
def ipv6? (cs : List Char) : Except UrlError (List Nat) :=
  match Text.cutAtSequence [':', ':'] cs with
  | none => match ipv6Pieces? cs with
    | some ps => if ps.length = 8 then .ok ps else .error .badIpv6
    | none => .error .badIpv6
  | some (before, after) =>
    match ipv6Pieces? before, ipv6Pieces? after with
    | some ps, some qs =>
      if before.contains '.' ∨ 7 < ps.length + qs.length then .error .badIpv6
      else .ok (ps ++ List.replicate (8 - ps.length - qs.length) 0 ++ qs)
    | _, _ => .error .badIpv6

/-- The length of the run of zeros in front. -/
def zeroRun (ps : List Nat) : Nat :=
  (ps.takeWhile (· == 0)).length

/-- Where the first longest run of two or more zeros begins, and how long it is. -/
def longestZeros (ps : List Nat) : Option (Nat × Nat) :=
  let runs := (List.range ps.length).map fun i => (i, zeroRun (ps.drop i))
  let best := runs.foldl (fun best run => if best.2 < run.2 then run else best) (0, 0)
  if 2 ≤ best.2 then some best else none

/-- An address of 128 bits between brackets, its longest run of zeros as a double colon. -/
def writeIpv6 (ps : List Nat) : List Char :=
  let write (ps : List Nat) := Text.joinSegments ':' (ps.map fun n => Nat.toDigits 16 n)
  let body := match longestZeros ps with
    | none => write ps
    | some (start, length) =>
      write (ps.take start) ++ [':', ':'] ++ write (ps.drop (start + length))
  '[' :: body ++ [']']

/-- What stands between square brackets, if the text does. -/
def bracketed? (cs : List Char) : Except UrlError (Option (List Char)) :=
  match cs with
  | '[' :: rest =>
    if rest.getLast? = some ']' then .ok (some rest.dropLast) else .error .badIpv6
  | _ => .ok none

/-- The written form of the host of a web URL. -/
def ofWeb (cs : List Char) : Except UrlError (List Char) := do
  match ← bracketed? cs with
  | some address => return writeIpv6 (← ipv6? address)
  | none =>
    let some text := Text.utf8Text? (Percent.decode cs) | .error .badDomain
    let some name := Domain.toAscii? text.toList | .error .badDomain
    if name.isEmpty then .error .emptyHost
    if endsInNumber name then return writeIpv4 (← ipv4? name)
    return name

/-- The characters that no host may hold. -/
def isForbidden (c : Char) : Bool :=
  c == '\x00' || c == '\t' || c == '\n' || c == '\r' || c == ' ' || c == '#' || c == '/' ||
    c == ':' || c == '<' || c == '>' || c == '?' || c == '@' || c == '[' || c == '\\' ||
    c == ']' || c == '^' || c == '|'

/-- The written form of the host of any other URL. -/
def ofOther (cs : List Char) : Except UrlError (List Char) := do
  match ← bracketed? cs with
  | some address => return writeIpv6 (← ipv6? address)
  | none =>
    if cs.any isForbidden then .error .badDomainChar
    return Percent.encodeOutside (fun c => 0x20 ≤ c.toNat && c.toNat < 0x7F) cs

end Host

end BucketLifecycle
