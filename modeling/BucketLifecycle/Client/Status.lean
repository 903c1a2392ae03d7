import BucketLifecycle.Failure
import BucketLifecycle.Http.Network
import BucketLifecycle.Json.Decode

/-!
# What answers and failures mean

An answer that is no success becomes a failure of the store by its status.  The message is the one
in the service's error object, else the body without blanks around it, else the status itself, so
it is never empty.
-/

set_option autoImplicit false

namespace BucketLifecycle

open Json

/-- The message of an error, empty where none is given. -/
def errorMessageField : RecordField String := ⟨"message", 0, .string, some ""⟩

/-- The message of an error object. -/
def errorBodyDecoder : Decoder String :=
  Decoder.record "ErrorBody" [errorMessageField.toCheck] fun fields => fields.get errorMessageField

/-- The error object, which must be given. -/
def errorField : RecordField String := ⟨"error", 0, errorBodyDecoder, none⟩

/-- The message of the service's error object. -/
def errorEnvelopeDecoder : Decoder String :=
  Decoder.record "ErrorEnvelope" [errorField.toCheck] fun fields => fields.get errorField

def statusMessage (status : Nat) (body : String) : String :=
  let trimmed := Text.trimmed body
  let plain :=
    if trimmed.isEmpty then "HTTP " ++ String.ofList (Text.writeNat status) else trimmed
  match errorEnvelopeDecoder.run body with
  | .ok message => if message.isEmpty then plain else message
  | .error _ => plain

/-- The failure that a status stands for. -/
def StoreError.ofStatus (status : Nat) (body : String) : StoreError :=
  let message := statusMessage status body
  if status = 404 then .notFound message
  else if status = 409 ∨ status = 412 then .conflict message
  else if status = 401 ∨ status = 403 then .forbidden message
  else if status = 408 ∨ status = 429 ∨ (500 ≤ status ∧ status ≤ 599) then .server status message
  else .invalidRequest message

/-- The failure of an exchange: a body that breaks off counts as undecodable, a request that cannot
be made as a bad one, and all else as the transport's. -/
def StoreError.ofFailure (f : Http.Failure) : StoreError :=
  match f with
  | .body => .decode f.message
  | .builder _ => .invalidRequest f.message
  | .sending _ => .transport f.message
  | .redirect _ => .transport f.message

end BucketLifecycle
