import BucketLifecycle.Http.Network

/-!
# Transcripts of a network

The transcript of a scripted network pairs each request that has arrived with what was read of the
delivery to it.  A network plays a script (`Plays`) as long as it has used up one delivery for each
request.  Delivering a request keeps this and writes one more line (`Plays.deliver`), and so does
sending one, where no answer leads elsewhere (`Plays.send`).
-/

set_option autoImplicit false

namespace BucketLifecycle.Http

/-- A request with what became of it. -/
abbrev Line := Request × Delivery

/-- The answer that arrives with a delivery. -/
def Delivery.arrived? : Delivery → Option Received
  | .answered response => some ⟨response, true⟩
  | .cutShort response => some ⟨response, false⟩
  | .dropped => none
  | .silent => none

def Delivery.redirects (d : Delivery) : Bool :=
  d.arrived?.any fun a => isRedirect a.response.status

/-- What a request comes to that is not sent on. -/
def Delivery.outcome (d : Delivery) (shown : Url) : Except Failure Received :=
  match d.arrived? with
  | some a => .ok a
  | none => .error (.sending shown)

/-- What is made of the script's delivery to the request with a number. -/
def deliveryAt (script : List Delivery) (i : Nat) : Delivery :=
  (script[i]?.getD (.answered unscripted)).asRead

/-- Reading an answer keeps its status. -/
@[simp] theorem Response.status_asRead (r : Response) : r.asRead.status = r.status := by
  unfold Response.asRead
  split <;> rfl

/-- An answer that redirects is one that ends the exchange. -/
theorem isFinal_of_isRedirect {status : Nat} (h : isRedirect status = true) :
    isFinal status = true := by
  unfold isRedirect at h
  simp only [List.contains_eq_mem, List.mem_cons, List.not_mem_nil, or_false,
    decide_eq_true_eq] at h
  rcases h with rfl | rfl | rfl | rfl | rfl <;> decide

/-- What is read of a delivery leads elsewhere where the delivery does. -/
theorem Delivery.redirects_asRead (d : Delivery) : d.asRead.redirects = d.redirects := by
  have hnone {status : Nat} (h : isFinal status = false) : isRedirect status = false := by
    rw [Bool.eq_false_iff]
    intro hredirect
    rw [isFinal_of_isRedirect hredirect] at h
    cases h
  cases d with
  | dropped | silent => rfl
  | answered r =>
    rw [asRead]
    cases hfinal : isFinal r.status with
    | true => exact congrArg isRedirect r.status_asRead
    | false => exact (hnone hfinal).symm
  | cutShort r =>
    rw [asRead]
    cases hfinal : isFinal r.status with
    | false => exact (hnone hfinal).symm
    | true =>
      cases isBodiless r.status with
      | true => exact congrArg isRedirect r.status_asRead
      | false => rfl

namespace Network

/-- The requests that have arrived, each with what the script delivers to it. -/
def transcript (script : List Delivery) (n : Network) : List Line :=
  n.received.zipIdx.map fun (r, i) => (r, deliveryAt script i)

/-- A network that plays a script and has got as far as there are requests. -/
structure Plays (script : List Delivery) (n : Network) : Prop where
  reachable : n.reachable = true
  script_eq : n.script = script.drop n.received.length

variable {script : List Delivery} {n : Network}

/-- A scripted network plays its script from the start. -/
theorem plays_scripted (script : List Delivery) : Plays script (.scripted script) :=
  ⟨rfl, rfl⟩

/-- A request takes the delivery of its number, and those behind it are left. -/
theorem Plays.deliver_eq (h : Plays script n) (r : Request) :
    n.deliver r = (deliveryAt script n.received.length,
      { n with script := script.drop (n.received.length + 1), received := n.received ++ [r] }) := by
  have hnext := h.script_eq
  have hhead : n.script.head? = script[n.received.length]? := by
    rw [hnext, List.head?_drop]
  have htail : n.script.tail = script.drop (n.received.length + 1) := by
    rw [hnext, List.tail_drop]
  unfold Network.deliver deliveryAt
  rw [h.reachable, ← hhead, ← htail]
  cases hscript : n.script with
  | nil => rfl
  | cons d rest => rfl

/-- A delivery keeps to the script, and writes its line. -/
theorem Plays.deliver (h : Plays script n) (r : Request) :
    Plays script (n.deliver r).2 ∧
      (n.deliver r).2.transcript script = n.transcript script ++ [(r, (n.deliver r).1)] := by
  rw [h.deliver_eq r]
  refine ⟨⟨h.reachable, ?_⟩, ?_⟩
  · rw [List.length_append]
    rfl
  · unfold transcript
    rw [List.zipIdx_append, List.map_append]
    simp

/-- An answer that does not redirect leads nowhere. -/
theorem location?_eq_none (r : Request) {response : Response}
    (h : isRedirect response.status = false) : location? r response = none := by
  unfold location?
  cases header? response.headers "location" with
  | none => rfl
  | some text => simp [h]

/-- A request whose answer leads nowhere is not sent on. -/
theorem sendFrom_of_stays (timeout : Duration) (left : Nat) (shown : Url) {r : Request}
    (h : ∀ a ∈ (n.deliver r).1.arrived?, location? r a.response = none) :
    (sendFrom timeout left shown r n).network = (n.deliver r).2 ∧
      (sendFrom timeout left shown r n).result = (n.deliver r).1.outcome shown := by
  unfold sendFrom
  revert h
  obtain ⟨d, after⟩ := n.deliver r
  intro h
  cases d with
  | dropped | silent => exact ⟨rfl, rfl⟩
  | answered response | cutShort response =>
    have hnone : location? r response = none := h _ rfl
    dsimp only
    rw [hnone]
    exact ⟨rfl, rfl⟩

/-- Where no delivery leads elsewhere, sending a request delivers it and nothing else. -/
theorem Plays.send (h : Plays script n) (hscript : ∀ d ∈ script, d.redirects = false)
    (timeout : Duration) (shown : Url) (r : Request) :
    ∃ d, Plays script (n.send timeout shown r).network ∧
      (n.send timeout shown r).network.transcript script = n.transcript script ++ [(r, d)] ∧
      (n.send timeout shown r).result = d.outcome shown := by
  obtain ⟨hplays, htranscript⟩ := h.deliver r
  have hstays : (n.deliver r).1.redirects = false := by
    rw [h.deliver_eq r]
    unfold deliveryAt
    rw [Delivery.redirects_asRead]
    cases hd : script[n.received.length]? with
    | none => rfl
    | some d => exact hscript d (List.mem_of_getElem? hd)
  have hnowhere : ∀ a ∈ (n.deliver r).1.arrived?, location? r a.response = none := by
    intro a ha
    refine location?_eq_none r ?_
    unfold Delivery.redirects at hstays
    rw [Option.mem_def.1 ha] at hstays
    exact hstays
  obtain ⟨hnetwork, hresult⟩ := sendFrom_of_stays timeout maxRedirects shown hnowhere
  refine ⟨(n.deliver r).1, ?_, ?_, hresult⟩
  · rw [Network.send, hnetwork]
    exact hplays
  · rw [Network.send, hnetwork]
    exact htranscript

end Network

end BucketLifecycle.Http
