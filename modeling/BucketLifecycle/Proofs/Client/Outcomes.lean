import BucketLifecycle.Proofs.Client.Inquiry
import BucketLifecycle.Proofs.Retry.RetryLaw

/-!
# What answers mean

The status of an answer decides what becomes of an operation, whatever the body says: it succeeded,
it may be tried again, or it failed for good (`Means`).  Only the words of the failure are looked up
in the body, and there are always some (`means_ofStatus`).

Over a network that gives whole answers none of which leads elsewhere, an operation that is made
again and again hears these answers one after another, and the one that stands for all later ones
when they have run out (`answersWith_of_gives`).
-/

set_option autoImplicit false

namespace BucketLifecycle

open Http

/-- Whether a status asks for another attempt. -/
def isRetried (status : Nat) : Bool :=
  status == 408 || status == 429 || (500 ≤ status && status ≤ 599)

/-- What a failure says about a status that is no success. -/
inductive Means (status : Nat) : StoreError → Prop
  | notFound {m : String} (hstatus : status = 404) (hm : m ≠ "") : Means status (.notFound m)
  | conflict {m : String} (hstatus : status = 409 ∨ status = 412) (hm : m ≠ "") :
    Means status (.conflict m)
  | forbidden {m : String} (hstatus : status = 401 ∨ status = 403) (hm : m ≠ "") :
    Means status (.forbidden m)
  | retried {m : String} (hstatus : isRetried status = true) (hm : m ≠ "") :
    Means status (.server status m)
  | other {m : String} (hstatus : status ∉ [404, 409, 412, 401, 403])
      (hfinal : isRetried status = false) (hm : m ≠ "") : Means status (.invalidRequest m)

/-- A status always has a message. -/
theorem statusMessage_ne_empty (status : Nat) (body : String) : statusMessage status body ≠ "" := by
  have hplain : (if (Text.trimmed body).isEmpty then
      "HTTP " ++ String.ofList (Text.writeNat status) else Text.trimmed body) ≠ "" := by
    split
    · exact fun h => by simpa using congrArg String.toList h
    · next htrimmed => simpa using htrimmed
  unfold statusMessage
  dsimp only
  split
  · split
    · exact hplain
    · next hmessage => simpa using hmessage
  · exact hplain

/-- Another attempt is asked for by statuses 408, 429 and those from 500 to 599. -/
theorem isRetried_eq_true_iff {status : Nat} :
    isRetried status = true ↔ status = 408 ∨ status = 429 ∨ (500 ≤ status ∧ status ≤ 599) := by
  simp [isRetried, or_assoc]

/-- The failure of a status is what the status means. -/
theorem means_ofStatus (status : Nat) (body : String) :
    Means status (.ofStatus status body) := by
  have hm := statusMessage_ne_empty status body
  unfold StoreError.ofStatus
  dsimp only
  split
  · next h => exact .notFound h hm
  next hnotFound =>
  split
  · next h => exact .conflict h hm
  next hconflict =>
  split
  · next h => exact .forbidden h hm
  next hforbidden =>
  split
  · next h => exact .retried (isRetried_eq_true_iff.2 h) hm
  · next hfinal =>
    refine .other ?_ ?_ hm
    · simp only [List.mem_cons, List.not_mem_nil, or_false]
      omega
    · rw [Bool.eq_false_iff, Ne, isRetried_eq_true_iff]
      exact hfinal

/-- Another attempt is worth while exactly where the status asks for one. -/
theorem Means.isTransient_eq {status : Nat} {e : StoreError} (h : Means status e) :
    e.isTransient = isRetried status := by
  cases h with
  | notFound hstatus =>
    subst hstatus
    rfl
  | conflict hstatus => rcases hstatus with rfl | rfl <;> rfl
  | forbidden hstatus => rcases hstatus with rfl | rfl <;> rfl
  | retried hstatus => exact hstatus.symm
  | other _ hfinal => exact hfinal.symm

/-- An answer that leads elsewhere: it redirects, and says where to. -/
def Http.Response.leadsElsewhere (a : Response) : Bool :=
  isRedirect a.status && (header? a.headers "location").isSome

/-- An answer that leads nowhere else has no location to go on to. -/
theorem location?_of_stays {a : Response} (h : a.leadsElsewhere = false) (r : Request) :
    location? r a = none := by
  unfold Response.leadsElsewhere at h
  unfold location?
  cases hheader : header? a.headers "location" with
  | none => rfl
  | some text =>
    rw [hheader] at h
    simp only [Option.isSome_some, Bool.and_true] at h
    simp [h]

namespace Inquiry

variable {α : Type} (o : Inquiry α)

/-- What an operation makes of a whole answer. -/
def answer (a : Response) : Except StoreError α :=
  if a.isSuccess then (o.content a).mapError .decode else .error (.ofStatus a.status a.text)

/-- A success asks for no other attempt. -/
theorem isRetried_of_isSuccess {a : Response} (h : a.isSuccess = true) :
    isRetried a.status = false := by
  simp only [Response.isSuccess, Bool.and_eq_true, decide_eq_true_eq] at h
  rw [Bool.eq_false_iff, Ne, isRetried_eq_true_iff]
  omega

/-- The status alone decides whether an answer settles an operation. -/
theorem settlesCall_answer (a : Response) : settlesCall (o.answer a) = !isRetried a.status := by
  unfold answer
  split
  · next hsuccess =>
    rw [isRetried_of_isSuccess hsuccess]
    cases o.content a <;> rfl
  · exact congrArg (!·) (means_ofStatus a.status a.text).isTransient_eq

/-- What is judged and read of a whole answer is what the operation makes of it. -/
theorem judged_bind_read (a : Response) :
    (Client.judged (.ok ⟨a, true⟩)).bind o.read = o.answer a := by
  unfold Client.judged answer
  dsimp only
  split <;> rfl

end Inquiry

/-- A network from which whole answers are read in order, and after them the one for requests that
no script foresees. -/
structure Http.Network.Gives (script : List Response) (n : Network) : Prop where
  reachable : n.reachable = true
  script_eq : n.script.map Delivery.asRead = script.map .answered
  stays : ∀ a ∈ script, a.leadsElsewhere = false

/-- Whatever answers a server gives, a network gives them as they are read. -/
theorem Http.Network.gives_scripted {script : List Response}
    (hfinal : ∀ a ∈ script, isFinal a.status = true)
    (hstays : ∀ a ∈ script, a.leadsElsewhere = false) :
    (Network.scripted (script.map .answered)).Gives (script.map Response.asRead) := by
  refine ⟨rfl, ?_, List.forall_mem_map.2 fun a ha => ?_⟩
  · show (script.map .answered).map Delivery.asRead = (script.map Response.asRead).map .answered
    rw [List.map_map, List.map_map]
    refine List.map_congr_left fun a ha => ?_
    exact if_pos (hfinal a ha)
  · have hheaders : a.asRead.headers = a.headers := by
      unfold Response.asRead
      split <;> rfl
    rw [Response.leadsElsewhere, hheaders, Response.status_asRead]
    exact hstays a ha

/-- The answers of a script with the one that stands for all later ones. -/
def answersOf (script : List Response) : List Response :=
  script ++ [unscripted]

namespace Http.Network.Gives

variable {script : List Response} {n : Network} (h : n.Gives script)

include h

/-- The next answer is read, and the others are left. -/
theorem deliver (r : Request) :
    (n.deliver r).1 = .answered (script.head?.getD unscripted) ∧
      (n.deliver r).2.received = n.received ++ [r] ∧ (n.deliver r).2.Gives script.tail := by
  have hread := h.script_eq
  have hstays := h.stays
  unfold Network.deliver
  rw [h.reachable]
  cases hscript : n.script with
  | nil =>
    rw [hscript, List.map_nil, eq_comm, List.map_eq_nil_iff] at hread
    subst hread
    exact ⟨rfl, rfl, rfl, rfl, nofun⟩
  | cons d rest =>
    rw [hscript, List.map_cons, eq_comm, List.map_eq_cons_iff] at hread
    obtain ⟨a, answers, rfl, ha, hrest⟩ := hread
    exact ⟨ha.symm, rfl, rfl, hrest.symm, (List.forall_mem_cons.1 hstays).2⟩

/-- A request is answered with the next answer, and nothing else arrives. -/
theorem send (timeout : Duration) (shown : Url) (r : Request) :
    (n.send timeout shown r).result = .ok ⟨script.head?.getD unscripted, true⟩ ∧
      (n.send timeout shown r).network.received = n.received ++ [r] ∧
      (n.send timeout shown r).network.Gives script.tail := by
  obtain ⟨hanswer, hreceived, hgives⟩ := h.deliver r
  have hstays : (script.head?.getD unscripted).leadsElsewhere = false := by
    cases script with
    | nil => rfl
    | cons a rest => exact h.stays a List.mem_cons_self
  have hnowhere : ∀ a ∈ (n.deliver r).1.arrived?, location? r a.response = none := by
    rw [hanswer]
    rintro a ⟨⟩
    exact location?_of_stays hstays r
  obtain ⟨hnetwork, hresult⟩ := sendFrom_of_stays timeout maxRedirects shown hnowhere
  rw [Network.send, hnetwork, hresult, hanswer]
  exact ⟨rfl, hreceived, hgives⟩

end Http.Network.Gives

section

variable {α ι : Type} {c : Client} {o : Inquiry α} {shown : Url} {r : Request}
  (hprepare : c.prepare o = .ok (shown, r)) {script : List Response} {n : Network}

include hprepare

/-- An operation hears the next answer, sends its request once, and leaves the answers behind it. -/
theorem perform_of_gives (h : n.Gives script) :
    (c.perform o n).answer = o.answer (script.head?.getD unscripted) ∧
      (c.perform o n).state.received = n.received ++ [r] ∧
      (c.perform o n).state.Gives script.tail := by
  obtain ⟨hanswer, hstate⟩ := Client.perform_of_request hprepare n
  obtain ⟨hresult, hreceived, hgives⟩ := h.send c.config.timeout shown r
  rw [hresult, Inquiry.judged_bind_read] at hanswer
  rw [hstate]
  exact ⟨hanswer, hreceived, hgives⟩

/-- An operation that is made again and again hears the answers of the script in order. -/
theorem answersWith_of_gives {handler : Handler Network ι (Except StoreError α)} {x : ι}
    (hcall : ∀ now, handler now x = c.perform o) (h : n.Gives script) :
    AnswersWith handler x ((answersOf script).map o.answer) n := by
  induction script generalizing n with
  | nil =>
    intro now
    rw [hcall now]
    exact ⟨(perform_of_gives hprepare h).1, fun _ => trivial⟩
  | cons a rest ih =>
    intro now
    rw [hcall now]
    obtain ⟨hanswer, -, hgives⟩ := perform_of_gives hprepare h
    exact ⟨hanswer, fun _ => ih hgives⟩

end

end BucketLifecycle
