import BucketLifecycle.Proofs.Policy.Converging
import BucketLifecycle.Proofs.Retry.Attempts

/-!
# The phases of a reconciliation

Where others change the bucket between the calls of a reconciliation, the run cannot be followed as
a whole.  A `Phase` says how far a reconciliation has come, and `Phase.Turn` lists what its next
call can make of it and of an in-memory store. `Phase.exists_turn` says that the program does just
that: in every phase that fits the bucket as it is, it makes the call of the phase and goes on as
one of the turns has it.

A phase fits as long as the bucket is not deleted after the reconciliation has learned of it, and
every turn lowers the rank of the phase, so four calls are enough.
-/

set_option autoImplicit false

namespace BucketLifecycle

/-- How far a reconciliation has come, with the races that it has lost. -/
inductive Phase where
  | reading (lost : Nat)
  | creating (lost : Nat)
  | correcting (lost : Nat) (old : Snapshot)
  | ended (o : Outcome)

namespace Phase

section

variable (bucket : String) (decorate : Decorator) (check : Checker)

def call? : Phase → Option BucketCall
  | .reading _ => some (.get bucket)
  | .creating _ => some (.insert (decorate (.named bucket)))
  | .correcting _ old => some (.update (decorate old))
  | .ended _ => none

/-- The logical calls that are left. -/
def rest (maxCycles : UInt32) : Phase → LogicalProgram
  | .reading lost => reconcileFrom bucket decorate check maxCycles (counterLimit - lost) lost lost
  | .creating lost =>
    creation bucket (lost + 1) lost (decorate (.named bucket)) <|
      if maxCycles.toNat < lost + 1 then
        .done (.error (.conflictLoopExhausted bucket (lost + 1)))
      else
        reconcileFrom bucket decorate check maxCycles (counterLimit - (lost + 1)) (lost + 1)
          (lost + 1)
  | .correcting lost old => correction bucket (lost + 1) lost (decorate old)
  | .ended o => .done (.ok o)

/-- What a phase takes for granted about the bucket.  A race is lost to a bucket that is there, so
a second creation is never due. -/
def Fits (entry : Option Snapshot) : Phase → Prop
  | .reading lost => lost = 0 ∨ lost = 1 ∧ entry ≠ none
  | .creating lost => lost = 0
  | .correcting lost old => lost ≤ 1 ∧ entry ≠ none ∧ old.name = bucket
  | .ended o => o.conflictCycles ≤ 1 ∧ o.reads = o.conflictCycles + 1 ∧
    entry = some o.snapshot ∧ (check o.snapshot).isCompliant = true

/-- What the call of a phase makes of the phase and of the store. -/
inductive Turn (m : MemoryStore) : Phase → Phase → MemoryStore → Prop where
  | matching {lost : Nat} {s : Snapshot} (hstored : m.bucket bucket = some s)
      (hcheck : (check s).isCompliant = true) :
    Turn m (.reading lost) (.ended ⟨bucket, .alreadyCompliant, s, lost + 1, lost⟩)
      { m with reads := m.reads + 1 }
  | drifted {lost : Nat} {s : Snapshot} (hstored : m.bucket bucket = some s)
      (hcheck : (check s).isCompliant = false) :
    Turn m (.reading lost) (.correcting lost s) { m with reads := m.reads + 1 }
  | absent {lost : Nat} (habsent : m.bucket bucket = none) :
    Turn m (.reading lost) (.creating lost) { m with reads := m.reads + 1 }
  | created {lost : Nat} {s : Snapshot} (habsent : m.bucket bucket = none)
      (hsettings : s.settings = (decorate (.named bucket)).settings) :
    Turn m (.creating lost) (.ended ⟨bucket, .doesNotExist, s, lost + 1, lost⟩) (m.commit s)
  | raced {lost : Nat} (hpresent : m.bucket bucket ≠ none) :
    Turn m (.creating lost) (.reading (lost + 1)) m
  | corrected {lost : Nat} {old s : Snapshot} (hpresent : m.bucket bucket ≠ none)
      (hsettings : s.settings = (decorate old).settings) :
    Turn m (.correcting lost old) (.ended ⟨bucket, .needsCorrection, s, lost + 1, lost⟩)
      (m.commit s)

end

/-- A bound on the calls that are left. -/
def rank : Phase → Nat
  | .reading lost => 2 * (2 - lost)
  | .creating lost => 2 * (2 - lost) - 1
  | .correcting _ _ => 1
  | .ended _ => 0

end Phase

/-- The program of a reconciler from a phase on. -/
def Reconciler.programAt (r : Reconciler) (bucket : String) (decorate : Decorator)
    (check : Checker) (phase : Phase) :
    Program BucketCall (Except StoreError Snapshot) (Except LifecycleError Outcome) :=
  (phase.rest bucket decorate check r.maxConflictCycles).expand r.retry.execute

/-- A reconciliation starts with a reading. -/
theorem Reconciler.program_eq_programAt (r : Reconciler) (bucket : String) (decorate : Decorator)
    (check : Checker) :
    r.program bucket decorate check = r.programAt bucket decorate check (.reading 0) := by
  unfold programAt
  rw [Phase.rest, Nat.sub_zero]
  rfl

namespace Phase

variable {bucket : String} {decorate : Decorator} {check : Checker} {m after : MemoryStore}
  {phase next : Phase}

/-- A phase without a call has ended. -/
theorem ended_of_call? (h : phase.call? bucket decorate = none) : ∃ o, phase = .ended o := by
  cases phase with
  | reading | creating | correcting => cases h
  | ended o => exact ⟨o, rfl⟩

/-- A reconciliation that fits has lost one race at most. -/
theorem Fits.lost_le {entry : Option Snapshot} {lost : Nat}
    (h : (Phase.reading lost).Fits bucket check entry) : lost ≤ 1 := by
  rcases h with hzero | ⟨hone, -⟩ <;> omega

/-- What a phase takes for granted holds on, as long as the bucket is not deleted. -/
theorem Fits.of_present {entry entry' : Option Snapshot} (h : phase.Fits bucket check entry)
    {c : BucketCall} (hcall : phase.call? bucket decorate = some c)
    (hkept : entry ≠ none → entry' ≠ none) : phase.Fits bucket check entry' := by
  cases phase with
  | reading lost => exact h.imp_right fun hlost => ⟨hlost.1, hkept hlost.2⟩
  | creating lost => exact h
  | correcting lost old => exact ⟨h.1, hkept h.2.1, h.2.2⟩
  | ended o => cases hcall

/-- A phase that fits is followed by one that fits. -/
theorem Turn.fits (hpolicy : Converging bucket decorate check)
    (h : Turn bucket decorate check m phase next after)
    (hfits : phase.Fits bucket check (m.bucket bucket)) :
    next.Fits bucket check (after.bucket bucket) := by
  cases h with
  | matching hstored hcheck => exact ⟨hfits.lost_le, rfl, hstored, hcheck⟩
  | drifted hstored =>
    have hpresent : m.bucket bucket ≠ none := by
      rw [hstored]
      exact nofun
    exact ⟨hfits.lost_le, hpresent, MemoryStore.name_of_bucket hstored⟩
  | absent habsent => exact hfits.resolve_right fun hlost => hlost.2 habsent
  | @created lost s habsent hsettings =>
    have hlost : lost = 0 := hfits
    have hstored := m.bucket_commit_of_settings hsettings
    rw [hpolicy.name_decorate rfl] at hstored
    refine ⟨?_, rfl, hstored, hpolicy.isCompliant _ s rfl hsettings⟩
    show lost ≤ 1
    omega
  | @raced lost hpresent =>
    have hlost : lost = 0 := hfits
    exact .inr ⟨by omega, hpresent⟩
  | @corrected lost old s hpresent hsettings =>
    obtain ⟨hlost, -, hold⟩ := hfits
    have hstored := m.bucket_commit_of_settings hsettings
    rw [hpolicy.name_decorate hold] at hstored
    exact ⟨hlost, rfl, hstored, hpolicy.isCompliant old s hold hsettings⟩

/-- A second reading finds the bucket, so it is the last but for an update. -/
theorem Turn.rank_lt (h : Turn bucket decorate check m phase next after)
    (hfits : phase.Fits bucket check (m.bucket bucket)) : next.rank < phase.rank := by
  cases h with
  | matching | drifted =>
    have hlost := hfits.lost_le
    simp only [rank]
    omega
  | absent habsent =>
    have hlost := hfits.resolve_right fun hlost => hlost.2 habsent
    simp only [rank]
    omega
  | @created lost | @raced lost =>
    have hlost : lost = 0 := hfits
    simp only [rank]
    omega
  | corrected => exact Nat.zero_lt_one

/-- Every phase that fits makes its call, and the answer of the store brings it to the next one. -/
theorem rest_turn (hpolicy : Converging bucket decorate check) {maxCycles : UInt32}
    (hcycles : 1 ≤ maxCycles.toNat) (time : Timestamp) {c : BucketCall}
    (hcall : phase.call? bucket decorate = some c)
    (hfits : phase.Fits bucket check (m.bucket bucket)) :
    ∃ answered, phase.rest bucket decorate check maxCycles = .call c answered ∧
      ∃ next, Turn bucket decorate check m phase next (m.answer time c).2 ∧
        answered ((m.answer time c).1.mapError .permanent) =
          next.rest bucket decorate check maxCycles := by
  cases phase with
  | reading lost =>
    cases hcall
    have hlost := hfits.lost_le
    obtain ⟨room, hroom, hless⟩ :
        ∃ room, counterLimit - lost = room + 1 ∧ counterLimit - (lost + 1) = room := by
      have hlarge : 1 < counterLimit := by decide
      exact ⟨counterLimit - (lost + 1), by omega, rfl⟩
    rw [rest, hroom]
    unfold reconcileFrom
    refine ⟨_, rfl, ?_⟩
    cases hbucket : m.bucket bucket with
    | none =>
      rw [MemoryStore.answer_get_of_absent time hbucket]
      refine ⟨.creating lost, .absent hbucket, ?_⟩
      dsimp only [Except.mapError]
      rw [if_pos (by rfl), hpolicy.desiredState_eq rfl, rest, hless]
    | some s =>
      rw [MemoryStore.answer_get_of_present time hbucket]
      dsimp only [Except.mapError]
      rw [hpolicy.check_eq s]
      cases hcheck : (check s).isCompliant with
      | true => exact ⟨_, .matching hbucket hcheck, rfl⟩
      | false =>
        refine ⟨.correcting lost s, .drifted hbucket hcheck, ?_⟩
        rw [if_neg (by simp)]
        dsimp only
        rw [hpolicy.desiredState_eq (MemoryStore.name_of_bucket hbucket), rest]
  | creating lost =>
    cases hcall
    have hlost : lost = 0 := hfits
    have hname := hpolicy.name_decorate (s := .named bucket) rfl
    refine ⟨_, rfl, ?_⟩
    cases hbucket : m.bucket bucket with
    | none =>
      have habsent : m.bucket (decorate (.named bucket)).name = none := by
        rw [hname]
        exact hbucket
      obtain ⟨s, hsettings, hanswer⟩ := MemoryStore.answer_insert_of_absent time habsent
      rw [hanswer]
      exact ⟨_, .created hbucket hsettings, rfl⟩
    | some s =>
      have hpresent : m.bucket (decorate (.named bucket)).name = some s := by
        rw [hname]
        exact hbucket
      obtain ⟨message, hanswer⟩ := MemoryStore.answer_insert_of_present time hpresent
      rw [hanswer]
      refine ⟨.reading (lost + 1), .raced (by rw [hbucket]; exact nofun), ?_⟩
      dsimp only [Except.mapError]
      rw [if_pos (by rfl), if_neg (by omega)]
      rfl
  | correcting lost old =>
    cases hcall
    obtain ⟨-, hpresent, hold⟩ := hfits
    obtain ⟨s, hbucket⟩ := Option.ne_none_iff_exists'.1 hpresent
    rw [← hpolicy.name_decorate hold] at hbucket
    obtain ⟨updated, hsettings, hanswer⟩ := MemoryStore.answer_update_of_present time hbucket
    rw [hanswer]
    exact ⟨_, rfl, _, .corrected hpresent hsettings, rfl⟩
  | ended o => cases hcall

/-- The same of single attempts.  The store never fails transiently, so each call is made once. -/
theorem exists_turn (hpolicy : Converging bucket decorate check) {r : Reconciler}
    (hcycles : 1 ≤ r.maxConflictCycles.toNat) (time : Timestamp) {c : BucketCall}
    (hcall : phase.call? bucket decorate = some c)
    (hfits : phase.Fits bucket check (m.bucket bucket)) :
    ∃ answered, r.programAt bucket decorate check phase = .call c answered ∧
      ∃ next, Turn bucket decorate check m phase next (m.answer time c).2 ∧
        answered (m.answer time c).1 = r.programAt bucket decorate check next := by
  obtain ⟨logical, hrest, next, hturn, hnext⟩ := rest_turn hpolicy hcycles time hcall hfits
  obtain ⟨answered, hprogram, hanswered⟩ := expand_call_of_prompt r.retry c logical
  unfold Reconciler.programAt
  rw [hrest]
  refine ⟨answered, hprogram, next, hturn, ?_⟩
  rw [← hnext]
  exact hanswered _ fun e he => MemoryStore.isTransient_of_answer he

end Phase

end BucketLifecycle
