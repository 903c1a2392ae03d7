import BucketLifecycle.Proofs.Store.History

/-!
# The generations of a bucket

A bucket begins a life when it is created or seeded, and ends it when it is deleted or seeded again.
In between each replacement of its metadata gives them the next generation and keeps the time at
which the life began, whatever generation and times the replacement asks for, and nothing else
changes either (`Performs.holds`).  So the generation of a bucket is the one that its life began
with and one more for each replacement since (`generations_count_replacements`).

Generations are 64-bit numbers.  They count as long as the next one is such a number, and so long it
makes no difference how sums beyond the word are treated.
-/

set_option autoImplicit false

namespace BucketLifecycle

/-- An event with which the life of a bucket begins, with the generation and the time of creation
that it begins with. -/
inductive StoreEvent.Begins (name : String) : StoreEvent → Int → Option Timestamp → Prop
  | seeded {s : Snapshot} (h : s.name = name) :
    Begins name (.seeded s) (s.metageneration.getD 1).toInt s.timeCreated
  | created {desired s : Snapshot} (h : desired.name = name) :
    Begins name (.answered (.insert desired) (.ok s)) 1 s.timeCreated

/-- Whether an act ends the life of a bucket. -/
def StoreAct.ends (name : String) : StoreAct → Bool
  | .seed s => s.name == name
  | .call _ _ => false
  | .delete other => other == name

/-- A replacement of the metadata of a bucket that has succeeded. -/
def StoreEvent.replaces (name : String) : StoreEvent → Bool
  | .answered (.update desired) (.ok _) => desired.name == name
  | _ => false

/-- A store holds a snapshot under a name, in some generation and with some time of creation. -/
structure MemoryStore.Holds (m : MemoryStore) (name : String) (s : Snapshot) (generation : Int)
    (created : Option Timestamp) : Prop where
  bucket_eq : m.bucket name = some s
  generation_eq : ∃ n : Int64, s.metageneration = some n ∧ n.toInt = generation
  timeCreated_eq : s.timeCreated = created

/-- Below the largest word the sum with one is the sum of numbers. -/
theorem toInt_add_one {n : Int64} (h : n.toInt + 1 < Text.int64Limit) :
    (n + 1).toInt = n.toInt + 1 := by
  have hlow := n.le_toInt
  have hone : (1 : Int64).toInt = 1 := by decide
  unfold Text.int64Limit at h
  rw [Int64.toInt_add, hone]
  apply Int.bmod_eq_of_le <;> omega

/-- What replaces a snapshot has the next generation and was created at the same time. -/
theorem generation_replacingAt {s : Snapshot} {generation : Int}
    (h : ∃ n : Int64, s.metageneration = some n ∧ n.toInt = generation)
    (hroom : generation + 1 < Text.int64Limit) (desired : Snapshot) (now : Timestamp) :
    (∃ n : Int64, (desired.replacingAt s now).metageneration = some n ∧
      n.toInt = generation + 1) ∧ (desired.replacingAt s now).timeCreated = s.timeCreated := by
  obtain ⟨n, hn, rfl⟩ := h
  refine ⟨⟨n + 1, ?_, toInt_add_one hroom⟩, rfl⟩
  unfold Snapshot.replacingAt
  rw [hn]
  rfl

/-- Once a snapshot is replaced, the next generation is stored. -/
theorem MemoryStore.Holds.replace {m : MemoryStore} {s desired : Snapshot} {generation : Int}
    {created : Option Timestamp} (h : m.Holds desired.name s generation created)
    (hroom : generation + 1 < Text.int64Limit) (now : Timestamp) :
    (m.commit (desired.replacingAt s now)).Holds desired.name (desired.replacingAt s now)
      (generation + 1) created := by
  obtain ⟨hgeneration, hcreated⟩ := generation_replacingAt h.generation_eq hroom desired now
  exact ⟨bucket_commit_self m (desired.replacingAt s now), hgeneration,
    hcreated.trans h.timeCreated_eq⟩

namespace Performs

variable {arithmetic : Arithmetic} {m after : MemoryStore} {act : StoreAct} {event : StoreEvent}
  {name : String} {generation : Int} {created : Option Timestamp}

/-- With the event that begins a life, its first snapshot is stored. -/
theorem holds_of_begins (h : Performs arithmetic m act event after)
    (hbegins : event.Begins name generation created) :
    ∃ s, after.Holds name s generation created := by
  cases hbegins with
  | @seeded s hname =>
    subst hname
    refine ⟨s.seeded, ?_, ?_, rfl⟩
    · rw [h.bucket_eq]
      exact Function.update_self _ _ _
    · unfold Snapshot.seeded
      cases s.metageneration <;> exact ⟨_, rfl, rfl⟩
  | @created desired s hname =>
    subst hname
    refine ⟨s, ?_, ?_, rfl⟩
    · rw [h.bucket_eq]
      exact Function.update_self _ _ _
    · cases h
      exact ⟨1, rfl, rfl⟩

/-- An act on another bucket replaces nothing. -/
theorem countP_replaces_of_ne (h : Performs arithmetic m act event after)
    (hname : name ≠ act.bucket) :
    [event].countP (StoreEvent.replaces name) = 0 := by
  refine List.countP_eq_zero.2 fun e he => ?_
  rw [List.mem_singleton.1 he]
  cases h with
  | @replaced now desired =>
    have hother : name ≠ desired.name := hname
    simpa [StoreEvent.replaces] using Ne.symm hother
  | seeded | found | absent | created | taken | missing | deleted | gone | brokenOff =>
    exact Bool.false_ne_true

/-- An act that does not end the life of a bucket gives it the next generation if it replaces its
metadata, and otherwise leaves it as it is. -/
theorem holds (h : Performs arithmetic m act event after) (hlives : act.ends name = false)
    {s : Snapshot} (hs : m.Holds name s generation created)
    (hroom : generation + [event].countP (StoreEvent.replaces name) < Text.int64Limit) :
    ∃ s', after.Holds name s' (generation + [event].countP (StoreEvent.replaces name))
      created := by
  by_cases hname : name = act.bucket
  · cases h with
    | seeded | deleted | gone =>
      subst hname
      simp [StoreAct.ends, StoreAct.bucket] at hlives
    | found | absent | taken | missing | brokenOff =>
      refine ⟨s, hs.bucket_eq, ?_, hs.timeCreated_eq⟩
      simpa [StoreEvent.replaces] using hs.generation_eq
    | @created now desired habsent =>
      subst hname
      cases habsent.symm.trans hs.bucket_eq
    | @replaced now desired s' hpresent =>
      obtain rfl : name = desired.name := hname
      obtain rfl : s' = s := Option.some.inj (hpresent.symm.trans hs.bucket_eq)
      have hone : [StoreEvent.answered (.update desired)
          (.ok (desired.replacingAt s' now))].countP (StoreEvent.replaces desired.name) = 1 := by
        simp [StoreEvent.replaces]
      rw [hone] at hroom ⊢
      exact ⟨_, hs.replace hroom now⟩
  · rw [h.countP_replaces_of_ne hname]
    refine ⟨s, (h.bucket_of_ne hname).trans hs.bucket_eq, ?_, hs.timeCreated_eq⟩
    simpa using hs.generation_eq

end Performs

/-! ### The life of a bucket -/

namespace History

variable (arithmetic : Arithmetic)

/-- Every act leaves one event. -/
theorem length_events_ofActs (acts : List StoreAct) :
    (ofActs arithmetic acts).events.length = acts.length := by
  induction acts using List.reverseRecOn with
  | nil => rfl
  | append_singleton acts act ih =>
    rw [ofActs_concat, next, List.length_append, List.length_append, ih]
    rfl

/-- How often the metadata of a bucket have been replaced since the first `n` events. -/
def replacementsSince (h : History) (n : Nat) (name : String) : Nat :=
  (h.events.drop n).countP (StoreEvent.replaces name)

/-- The next event counts if it is a replacement. -/
theorem replacementsSince_next {h : History} {n : Nat} (hn : n ≤ h.events.length) (act : StoreAct)
    (name : String) :
    (h.next arithmetic act).replacementsSince n name = h.replacementsSince n name +
      [(h.store.perform arithmetic act).1].countP (StoreEvent.replaces name) := by
  unfold replacementsSince next
  rw [List.drop_append_of_le_length hn, List.countP_append]

/-- Nothing has been replaced since the last event. -/
theorem replacementsSince_length (h : History) (name : String) :
    h.replacementsSince h.events.length name = 0 := by
  unfold replacementsSince
  rw [List.drop_length]
  rfl

/-- In the life of a bucket its generation counts the replacements, and its time of creation
stays. -/
theorem holds_ofActs {earlier between : List StoreAct} {start : StoreAct} {name : String}
    {generation : Int} {created : Option Timestamp}
    (hbegins : ((ofActs arithmetic earlier).store.perform arithmetic start).1.Begins name
      generation created)
    (hlives : ∀ act ∈ between, act.ends name = false)
    (hroom : generation +
      (ofActs arithmetic (earlier ++ start :: between)).replacementsSince (earlier.length + 1)
        name < Text.int64Limit) :
    ∃ s, (ofActs arithmetic (earlier ++ start :: between)).store.Holds name s (generation +
      (ofActs arithmetic (earlier ++ start :: between)).replacementsSince (earlier.length + 1) name)
        created := by
  -- From the end, since the newest event is the last one and the count goes on with it.
  induction between using List.reverseRecOn with
  | nil =>
    have hlength : earlier.length + 1 = (ofActs arithmetic (earlier ++ [start])).events.length := by
      rw [length_events_ofActs, List.length_append, List.length_singleton]
    rw [hlength, replacementsSince_length, Int.natCast_zero, Int.add_zero, ofActs_concat]
    exact ((ofActs arithmetic earlier).store.performs arithmetic start).holds_of_begins hbegins
  | append_singleton between act ih =>
    have hlong : earlier.length + 1 ≤
        (ofActs arithmetic (earlier ++ start :: between)).events.length := by
      rw [length_events_ofActs, List.length_append, List.length_cons]
      omega
    rw [← List.cons_append, ← List.append_assoc, ofActs_concat,
      replacementsSince_next arithmetic hlong, Int.natCast_add, ← Int.add_assoc] at hroom ⊢
    obtain ⟨s, hs⟩ := ih (fun act hact => hlives act (List.mem_append_left _ hact)) (by omega)
    exact ((ofActs arithmetic (earlier ++ start :: between)).store.performs arithmetic act).holds
      (hlives act (List.mem_append_right _ List.mem_cons_self)) hs hroom

end History

/-- A bucket has a next generation where it is a 64-bit number. -/
theorem MemoryStore.Holds.not_exhausts {m : MemoryStore} {name : String} {s : Snapshot}
    {generation : Int} {created : Option Timestamp} (h : m.Holds name s generation created)
    (hroom : generation + 1 < Text.int64Limit) (arithmetic : Arithmetic) :
    ¬ Exhausts arithmetic m.bucket name := by
  rintro ⟨-, t, ht, hlast⟩
  obtain rfl : t = s := Option.some.inj (ht.symm.trans h.bucket_eq)
  obtain ⟨n, hn, rfl⟩ := h.generation_eq
  obtain rfl : n = Int64.maxValue := Option.some.inj (hn.symm.trans hlast)
  exact absurd hroom (by decide)

/-- A bucket that is held can be replaced: the store answers what it holds then, in the next
generation and with the same time of creation. -/
theorem MemoryStore.Holds.update {m : MemoryStore} {name : String} {s : Snapshot}
    {generation : Int} {created : Option Timestamp} (h : m.Holds name s generation created)
    (hroom : generation + 1 < Text.int64Limit) (arithmetic : Arithmetic) (now : Timestamp)
    {desired : Snapshot} (hname : desired.name = name) :
    ∃ s' after, m.answer? arithmetic now (.update desired) = some (.ok s', after) ∧
      after.Holds name s' (generation + 1) created := by
  subst hname
  have hupdate : m.answer now (.update desired) =
      (.ok (desired.replacingAt s now), m.commit (desired.replacingAt s now)) := by
    unfold MemoryStore.answer MemoryStore.update
    dsimp only
    rw [h.bucket_eq]
    rfl
  have hanswered : m.answer? arithmetic now (.update desired) ≠ none := by
    rw [Ne, answer?_eq_none_iff]
    rintro ⟨_, ⟨⟩, hexhausts⟩
    exact h.not_exhausts hroom arithmetic hexhausts
  rw [answer_of_answer? hanswered, hupdate]
  exact ⟨_, _, rfl, h.replace hroom now⟩

/-- A bucket that is held can be deleted, and created again in the first generation. -/
theorem MemoryStore.Holds.renew {m : MemoryStore} {name : String} {s : Snapshot}
    {generation : Int} {created : Option Timestamp} (h : m.Holds name s generation created)
    (now : Timestamp) {desired : Snapshot} (hname : desired.name = name) :
    (m.delete name).1 = .ok () ∧ ∃ s', ((m.delete name).2.insert now desired).1 = .ok s' ∧
      ((m.delete name).2.insert now desired).2.Holds name s' 1 (some now) := by
  subst hname
  have hdeleted : (m.delete desired.name).1 = .ok () := by
    rw [(m.serves_bucket .wrapping).delete_iff, h.bucket_eq]
    nofun
  have habsent : (m.delete desired.name).2.bucket desired.name = none := by
    have hfiled := (performs .wrapping m (.delete desired.name)).bucket_eq
    show (m.perform .wrapping (.delete desired.name)).2.bucket desired.name = none
    rw [hfiled, perform, hdeleted]
    exact Function.update_self _ _ _
  have hinsert : (m.delete desired.name).2.insert now desired =
      (.ok (desired.createdAt now), (m.delete desired.name).2.commit (desired.createdAt now)) := by
    unfold MemoryStore.insert
    rw [habsent]
    rfl
  rw [hinsert]
  exact ⟨hdeleted, _, rfl, bucket_commit_self _ (desired.createdAt now), ⟨1, rfl, rfl⟩, rfl⟩

/-- The generations of a bucket count its replacements.  From the act that begins its life on, and
as long as nothing ends it, whatever else is done to the store and whatever generations and times
the callers ask for, the bucket has the generation that its life began with and one more for each
replacement, and the time of creation that it began with.  The next replacement answers and leaves
the next generation, however sums beyond the word are treated.  After a deletion a new creation
begins again in the first one. -/
theorem generations_count_replacements (arithmetic : Arithmetic) {earlier between : List StoreAct}
    {start : StoreAct} {name : String} {generation : Int} {created : Option Timestamp}
    (hbegins : ((History.ofActs arithmetic earlier).store.perform arithmetic start).1.Begins name
      generation created)
    (hlives : ∀ act ∈ between, act.ends name = false) :
    let run := History.ofActs arithmetic (earlier ++ start :: between)
    let i := run.replacementsSince (earlier.length + 1) name
    generation + i < Text.int64Limit - 1 →
      (∃ s, run.store.Holds name s (generation + i) created) ∧
      (∀ now desired, desired.name = name → ∃ s after,
        run.store.answer? arithmetic now (.update desired) = some (.ok s, after) ∧
          after.Holds name s (generation + (i + 1)) created) ∧
      ∀ now desired, desired.name = name → (run.store.delete name).1 = .ok () ∧
        ∃ s, ((run.store.delete name).2.insert now desired).1 = .ok s ∧
          ((run.store.delete name).2.insert now desired).2.Holds name s 1 (some now) := by
  intro run i hroom
  have hroom' : generation + i + 1 < Text.int64Limit := by omega
  obtain ⟨s, hs⟩ :=
    History.holds_ofActs arithmetic hbegins hlives (Int.lt_trans (Int.lt_succ _) hroom')
  refine ⟨⟨s, hs⟩, fun now desired hname => ?_, fun now desired hname => hs.renew now hname⟩
  rw [← Int.add_assoc]
  exact hs.update hroom' arithmetic now hname

/-- A bucket that comes with a seventh generation is in its ninth after two replacements, although
they ask for other generations and no time of creation, and calls that fail or are about another
bucket come in between; one of these breaks off, since that bucket is in the largest generation. -/
theorem generations_of_forged_versions :
    let time : Timestamp := ⟨⟨2024, 1, 31, by decide⟩, 0, 0, by decide⟩
    let later : Timestamp := ⟨⟨2024, 1, 31, by decide⟩, 60, 0, by decide⟩
    let seeded : Snapshot :=
      { Snapshot.named "ci-artifacts" with metageneration := some 7, timeCreated := some time }
    let stale : Snapshot := { Snapshot.named "ci-artifacts" with metageneration := some 1 }
    let forged : Snapshot := { Snapshot.named "ci-artifacts" with metageneration := some 99 }
    let last : Snapshot := { Snapshot.named "logs" with metageneration := some Int64.maxValue }
    let earlier : List StoreAct := [.seed last]
    let between : List StoreAct := [.call later (.insert stale), .call later (.update stale),
      .call later (.update (.named "logs")), .delete "logs"]
    let run := History.ofActs .checked (earlier ++ .seed seeded :: between)
    ((History.ofActs .checked earlier).store.perform .checked (.seed seeded)).1.Begins
        "ci-artifacts" 7 (some time) ∧
      (∀ act ∈ between, act.ends "ci-artifacts" = false) ∧
      run.replacementsSince 2 "ci-artifacts" = 1 ∧
      ∃ s after, run.store.answer? .checked later (.update forged) = some (.ok s, after) ∧
        s.metageneration = some 9 ∧ s.timeCreated = some time := by
  intro time later seeded stale forged last earlier between run
  have hbegins : ((History.ofActs .checked earlier).store.perform .checked (.seed seeded)).1.Begins
      "ci-artifacts" 7 (some time) := .seeded rfl
  have hlives : ∀ act ∈ between, act.ends "ci-artifacts" = false := by decide
  have hcount : run.replacementsSince 2 "ci-artifacts" = 1 := by decide
  obtain ⟨-, hupdate, -⟩ := generations_count_replacements .checked hbegins hlives
    (show (7 : Int) + run.replacementsSince 2 "ci-artifacts" < _ by rw [hcount]; decide)
  obtain ⟨s, after, hs, -, ⟨n, hn, hvalue⟩, hcreated⟩ := hupdate later forged rfl
  have hnine : n = 9 := by
    rw [← Int64.toInt_inj, hvalue]
    show (7 : Int) + (run.replacementsSince 2 "ci-artifacts" + 1) = 9
    rw [hcount]
    rfl
  exact ⟨hbegins, hlives, hcount, s, after, hs, hn.trans (congrArg some hnine), hcreated⟩

end BucketLifecycle
