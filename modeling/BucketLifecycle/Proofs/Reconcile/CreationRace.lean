import BucketLifecycle.Proofs.Reconcile.Deadline
import BucketLifecycle.Proofs.Reconcile.Phase
import BucketLifecycle.Proofs.Run.Interleaving

/-!
# The race to create a bucket

Any number of reconciliations find the same bucket missing and want to create it.  Whatever the
order of their calls is, one of them creates it and all others find it created, at their first
reading or at a second one behind a lost race; none of them has anything to correct.

The invariant speaks of all phases at once.  Until the bucket is there (`Race.undecided`), every
reconciliation is behind: it has not read yet, or has read that the bucket is missing.  From then on
(`Race.decided`) one reconciliation has created the bucket, and each other one is behind still, or
has joined it. `Phase.Behind.turn` says what a turn of one that is behind can do.
-/

set_option autoImplicit false

namespace BucketLifecycle

/-- A reconciliation that has not created the bucket and has nothing to correct. -/
inductive Phase.Behind (bucket : String) (entry : Option Snapshot) : Phase → Prop where
  | reading : Behind bucket entry (.reading 0)
  | creating : Behind bucket entry (.creating 0)
  | again (hpresent : entry ≠ none) : Behind bucket entry (.reading 1)
  | joined {s : Snapshot} {lost : Nat} (hstored : entry = some s) (hlost : lost ≤ 1) :
    Behind bucket entry (.ended ⟨bucket, .alreadyCompliant, s, lost + 1, lost⟩)

section

variable {n : Nat} {bucket : String} {decorate : Decorator} {check : Checker}
  {start m after : MemoryStore} {entry : Option Snapshot} {phase next : Phase}
  {phases : Fin n → Phase} {c : BucketCall}

namespace Phase.Behind

/-- A reconciliation that is behind and has a call left fits what is stored. -/
theorem fits (h : phase.Behind bucket entry) (hcall : phase.call? bucket decorate = some c) :
    phase.Fits bucket check entry := by
  cases h with
  | reading => exact .inl rfl
  | creating => rfl
  | again hpresent => exact .inr ⟨rfl, hpresent⟩
  | joined => cases hcall

/-- A reconciliation that is behind replaces nothing. -/
theorem operation_ne (h : phase.Behind bucket entry)
    (hcall : phase.call? bucket decorate = some c) : c.operation ≠ .update := by
  cases h <;> cases hcall <;> exact nofun

/-- A reconciliation that is behind and has a call left is at least two turns from its end. -/
theorem two_le_rank (h : phase.Behind bucket entry)
    (hcall : phase.call? bucket decorate = some c) : 2 ≤ phase.rank := by
  cases h with
  | reading | creating | again => decide
  | joined => cases hcall

/-- Who is behind while there is no bucket is behind whatever is stored later. -/
theorem of_absent (h : phase.Behind bucket none) : phase.Behind bucket entry := by
  cases h with
  | reading => exact .reading
  | creating => exact .creating
  | again hpresent => exact absurd rfl hpresent
  | joined hstored => cases hstored

/-- A reconciliation stays behind while another one takes its turn. -/
theorem update {i j : Fin n} (hnext : next.Behind bucket entry)
    (hj : (phases j).Behind bucket entry) :
    (Function.update phases i next j).Behind bucket entry := by
  by_cases h : j = i
  · rw [h, Function.update_self]
    exact hnext
  · rw [Function.update_of_ne h]
    exact hj

/-- One that is behind reads, loses the race or joins, and the bucket stays as it is; or it creates
the bucket, where that is missing. -/
theorem turn (hpolicy : Converging bucket decorate check)
    (hbehind : phase.Behind bucket (m.bucket bucket))
    (hcheck : ∀ s, m.bucket bucket = some s → (check s).isCompliant = true)
    (h : Turn bucket decorate check m phase next after) :
    next.Behind bucket (m.bucket bucket) ∧ after.bucket bucket = m.bucket bucket ∧
        after.mutations = m.mutations ∨
      ∃ s, m.bucket bucket = none ∧ after.bucket bucket = some s ∧ (check s).isCompliant = true ∧
        after.mutations = m.mutations + 1 ∧ next = .ended ⟨bucket, .doesNotExist, s, 1, 0⟩ := by
  cases h with
  | matching hstored =>
    cases hbehind with
    | reading => exact .inl ⟨.joined hstored (Nat.zero_le 1), rfl, rfl⟩
    | again => exact .inl ⟨.joined hstored (Nat.le_refl 1), rfl, rfl⟩
  | @drifted lost s hstored hdrifted =>
    rw [hcheck s hstored] at hdrifted
    cases hdrifted
  | absent habsent =>
    cases hbehind with
    | reading => exact .inl ⟨.creating, rfl, rfl⟩
    | again hpresent => exact absurd habsent hpresent
  | @created lost s habsent hsettings =>
    have hstored := m.bucket_commit_of_settings hsettings
    rw [hpolicy.name_decorate rfl] at hstored
    cases hbehind
    exact .inr ⟨s, habsent, hstored, hpolicy.isCompliant _ s rfl hsettings, rfl, rfl⟩
  | raced hpresent =>
    cases hbehind
    exact .inl ⟨.again hpresent, rfl, rfl⟩
  | corrected => cases hbehind

end Phase.Behind

/-- The state of the race: the bucket and where everybody stands. -/
inductive Race (bucket : String) (check : Checker) (start m : MemoryStore)
    (phases : Fin n → Phase) : Prop where
  | undecided (habsent : m.bucket bucket = none) (hmutations : m.mutations = start.mutations)
      (hbehind : ∀ i, (phases i).Behind bucket none)
  | decided (winner : Fin n) {s : Snapshot} (hstored : m.bucket bucket = some s)
      (hcheck : (check s).isCompliant = true) (hmutations : m.mutations = start.mutations + 1)
      (hwinner : phases winner = .ended ⟨bucket, .doesNotExist, s, 1, 0⟩)
      (hbehind : ∀ i, i ≠ winner → (phases i).Behind bucket (some s))

namespace Race

/-- Who has a call to make is behind. -/
theorem behind (h : Race bucket check start m phases) {i : Fin n}
    (hcall : (phases i).call? bucket decorate = some c) :
    (phases i).Behind bucket (m.bucket bucket) := by
  cases h with
  | undecided habsent _ hbehind =>
    rw [habsent]
    exact hbehind i
  | decided winner hstored _ _ hwinner hbehind =>
    have hne : i ≠ winner := by
      rintro rfl
      rw [hwinner] at hcall
      cases hcall
    rw [hstored]
    exact hbehind i hne

/-- Nothing but what the policy asks for is stored under the name. -/
theorem isCompliant (h : Race bucket check start m phases) {s : Snapshot}
    (hstored : m.bucket bucket = some s) : (check s).isCompliant = true := by
  cases h with
  | undecided habsent =>
    rw [hstored] at habsent
    cases habsent
  | decided winner hcreated hcheck =>
    cases hstored.symm.trans hcreated
    exact hcheck

/-- Every turn keeps the state of the race. -/
theorem turn (hpolicy : Converging bucket decorate check) (h : Race bucket check start m phases)
    {i : Fin n} (hcall : (phases i).call? bucket decorate = some c)
    (hturn : Phase.Turn bucket decorate check m (phases i) next after) :
    Race bucket check start after (Function.update phases i next) := by
  have hcases := (h.behind hcall).turn hpolicy (fun _ hstored => h.isCompliant hstored) hturn
  cases h with
  | undecided habsent hmutations hbehind =>
    rcases hcases with ⟨hnext, hsame, hcount⟩ | ⟨s, -, hstored, hcompliant, hcount, rfl⟩
    · rw [habsent] at hnext hsame
      exact .undecided hsame (hcount.trans hmutations) fun j => hnext.update (hbehind j)
    · refine .decided i hstored hcompliant (by rw [hcount, hmutations])
        (Function.update_self ..) ?_
      intro j hj
      rw [Function.update_of_ne hj]
      exact (hbehind j).of_absent
  | @decided winner s hstored hcompliant hmutations hwinner hbehind =>
    have hne : winner ≠ i := by
      rintro rfl
      rw [hwinner] at hcall
      cases hcall
    rcases hcases with ⟨hnext, hsame, hcount⟩ | ⟨_, habsent, -⟩
    · rw [hstored] at hnext hsame
      refine .decided winner hsame hcompliant (hcount.trans hmutations) ?_ ?_
      · rw [Function.update_of_ne hne]
        exact hwinner
      · intro j hj
        exact hnext.update (hbehind j hj)
    · rw [hstored] at habsent
      cases habsent

end Race

end

/-- Reconciliations of one bucket that share an in-memory store. -/
abbrev Racers (n : Nat) :=
  Crowd MemoryStore BucketCall (Except StoreError Snapshot) (Except LifecycleError Outcome) n

section

variable {n : Nat} {bucket : String} {decorate : Decorator} {check : Checker}
  {start : MemoryStore} {actors : Fin n → Reconciler} {x : Racers n} {phases : Fin n → Phase}

/-- The racers are in these phases, and none of them has sent an update. -/
structure Racing (actors : Fin n → Reconciler) (bucket : String) (decorate : Decorator)
    (check : Checker) (start : MemoryStore) (x : Racers n) (phases : Fin n → Phase) : Prop where
  programs : ∀ i, x.programs i = (actors i).programAt bucket decorate check (phases i)
  calls : ∀ call ∈ x.calls, call.2.operation ≠ .update
  race : Race bucket check start x.state phases

namespace Racing

/-- A turn keeps the race going, and brings who takes it nearer to the end. -/
theorem turn (hpolicy : Converging bucket decorate check)
    (hcycles : ∀ i, 1 ≤ (actors i).maxConflictCycles.toNat)
    (h : Racing actors bucket decorate check start x phases) (clock : Instant → Timestamp)
    (i : Fin n) (now : Instant) :
    ∃ phases', Racing actors bucket decorate check start
        (x.turn (MemoryStore.handler clock) i now) phases' ∧
      (phases' i).rank ≤ (phases i).rank - 1 ∧ ∀ j, j ≠ i → phases' j = phases j := by
  cases hcall : (phases i).call? bucket decorate with
  | none =>
    obtain ⟨o, ho⟩ := Phase.ended_of_call? hcall
    have hdone : x.programs i = .done (.ok o) := by
      rw [h.programs, ho]
      rfl
    refine ⟨phases, ?_, ?_, fun _ _ => rfl⟩
    · rw [Crowd.turn_of_done hdone]
      exact h
    · rw [ho]
      exact Nat.le_refl 0
  | some c =>
    have hbehind := h.race.behind hcall
    have hfits : (phases i).Fits bucket check (x.state.bucket bucket) := hbehind.fits hcall
    obtain ⟨answered, hprogram, next, hturn, hnext⟩ :=
      Phase.exists_turn hpolicy (hcycles i) (clock now) hcall hfits
    have hlower := hturn.rank_lt hfits
    refine ⟨Function.update phases i next, ?_, ?_, fun j hj => Function.update_of_ne hj _ _⟩
    · rw [Crowd.turn_of_call ((h.programs i).trans hprogram)]
      refine ⟨?_, ?_, h.race.turn hpolicy hcall hturn⟩
      · intro j
        dsimp only
        by_cases hj : j = i
        · subst hj
          rw [Function.update_self, Function.update_self]
          exact hnext
        · rw [Function.update_of_ne hj, Function.update_of_ne hj]
          exact h.programs j
      · intro call hmem
        rcases List.mem_append.1 hmem with hmem | hmem
        · exact h.calls call hmem
        · rw [List.mem_singleton.1 hmem]
          exact hbehind.operation_ne hcall
    · rw [Function.update_self]
      omega

/-- A whole schedule keeps the race going, and brings each racer nearer to the end by its turns. -/
theorem play (hpolicy : Converging bucket decorate check)
    (hcycles : ∀ i, 1 ≤ (actors i).maxConflictCycles.toNat) (clock : Instant → Timestamp)
    (schedule : Schedule n) (h : Racing actors bucket decorate check start x phases) :
    ∃ phases', Racing actors bucket decorate check start
        (x.play (MemoryStore.handler clock) schedule) phases' ∧
      ∀ i, (phases' i).rank ≤ (phases i).rank - schedule.turns i := by
  induction schedule generalizing x phases with
  | nil => exact ⟨phases, h, fun i => Nat.le_refl _⟩
  | cons turn schedule ih =>
    obtain ⟨i, now⟩ := turn
    obtain ⟨between, hbetween, hmover, hothers⟩ := h.turn hpolicy hcycles clock i now
    obtain ⟨phases', hrace, hranks⟩ := ih hbetween
    refine ⟨phases', hrace, ?_⟩
    intro j
    have hj := hranks j
    unfold Schedule.turns at hj ⊢
    rw [List.countP_cons]
    by_cases hmoved : i = j
    · subst hmoved
      simp only [beq_self_eq_true, if_true]
      omega
    · rw [hothers j (Ne.symm hmoved)] at hj
      simp only [beq_iff_eq, if_neg hmoved]
      exact hj

/-- A racer with a call to make is not at the end of its program. -/
theorem ended_of_done (hpolicy : Converging bucket decorate check)
    (hcycles : ∀ i, 1 ≤ (actors i).maxConflictCycles.toNat)
    (h : Racing actors bucket decorate check start x phases) (time : Timestamp) {i : Fin n}
    {result : Except LifecycleError Outcome} (hdone : x.programs i = .done result) :
    ∃ o, phases i = .ended o := by
  cases hcall : (phases i).call? bucket decorate with
  | none => exact Phase.ended_of_call? hcall
  | some c =>
    have hfits : (phases i).Fits bucket check (x.state.bucket bucket) :=
      (h.race.behind hcall).fits hcall
    obtain ⟨answered, hprogram, -⟩ := Phase.exists_turn hpolicy (hcycles i) time hcall hfits
    rw [h.programs, hprogram] at hdone
    cases hdone

/-- Below the rank of a second reading, a racer has no call to make. -/
theorem ended_of_rank (h : Racing actors bucket decorate check start x phases) {i : Fin n}
    (hrank : (phases i).rank ≤ 1) : ∃ o, phases i = .ended o := by
  cases hcall : (phases i).call? bucket decorate with
  | none => exact Phase.ended_of_call? hcall
  | some c =>
    have hmore := (h.race.behind hcall).two_le_rank hcall
    omega

end Racing

/-- One racer has created the bucket, and all others have found it. -/
structure OneCreated (bucket : String) (check : Checker) (start : MemoryStore) (x : Racers n)
    (winner : Fin n) (s : Snapshot) : Prop where
  stored : x.state.bucket bucket = some s
  isCompliant : (check s).isCompliant = true
  mutations : x.state.mutations = start.mutations + 1
  created : x.programs winner = .done (.ok ⟨bucket, .doesNotExist, s, 1, 0⟩)
  /-- at their first reading, or at the second one behind a lost race -/
  found : ∀ i, i ≠ winner → x.programs i = .done (.ok ⟨bucket, .alreadyCompliant, s, 1, 0⟩) ∨
    x.programs i = .done (.ok ⟨bucket, .alreadyCompliant, s, 2, 1⟩)

/-- When all have ended, the race is settled. -/
theorem Racing.oneCreated (h : Racing actors bucket decorate check start x phases) (hn : 0 < n)
    (hended : ∀ i, ∃ o, phases i = .ended o) :
    ∃ winner s, OneCreated bucket check start x winner s := by
  cases h.race with
  | undecided _ _ hbehind =>
    -- Nobody can have ended while the bucket is missing.
    obtain ⟨o, ho⟩ := hended ⟨0, hn⟩
    have hfirst := hbehind ⟨0, hn⟩
    rw [ho] at hfirst
    cases hfirst with
    | joined hstored => cases hstored
  | @decided winner s hstored hcheck hmutations hwinner hbehind =>
    refine ⟨winner, s, hstored, hcheck, hmutations, ?_, ?_⟩
    · rw [h.programs, hwinner]
      rfl
    · intro i hi
      obtain ⟨o, ho⟩ := hended i
      have hjoined := hbehind i hi
      rw [h.programs, ho]
      rw [ho] at hjoined
      cases hjoined with
      | @joined t lost hfound hlost =>
        cases hfound
        obtain rfl | rfl : lost = 0 ∨ lost = 1 := by omega
        · exact .inl rfl
        · exact .inr rfl

end

/-- However the calls of reconciliations under one expiry policy are interleaved, which all find the
same bucket missing and may read again after one lost race: nobody sends an update, everybody
succeeds within three turns, and when all have ended, one of them has created the bucket, with the
only change to the store, and all others have found it matching. -/
theorem reconcile_creationRace {n : Nat} (hn : 0 < n) (actors : Fin n → Reconciler)
    (hcycles : ∀ i, 1 ≤ (actors i).maxConflictCycles.toNat) (p : Expiring) (bucket : String)
    (start : MemoryStore) (habsent : start.bucket bucket = none) (clock : Instant → Timestamp)
    (schedule : Schedule n) :
    let crowd : Racers n :=
      (Crowd.start (fun i => (actors i).untimed.program bucket p.decorate p.check) start).play
        (MemoryStore.handler clock) schedule
    (∀ call ∈ crowd.calls, call.2.operation ≠ .update) ∧
      (∀ i, 3 ≤ schedule.turns i → ∃ o, crowd.programs i = .done (.ok o)) ∧
      ((∀ i, ∃ result, crowd.programs i = .done result) →
        ∃ winner s, OneCreated bucket p.check start crowd winner s) := by
  intro crowd
  have hpolicy := p.converging bucket
  have hstart : Racing actors bucket p.decorate p.check start
      (Crowd.start (fun i => (actors i).untimed.program bucket p.decorate p.check) start)
      (fun _ => .reading 0) :=
    ⟨fun i => (actors i).program_eq_programAt _ _ _, fun _ hmem => absurd hmem List.not_mem_nil,
      .undecided habsent rfl fun _ => .reading⟩
  obtain ⟨phases, hracing, hranks⟩ := hstart.play hpolicy hcycles clock schedule
  refine ⟨hracing.calls, ?_, ?_⟩
  · intro i hturns
    have hrank : (phases i).rank ≤ 4 - schedule.turns i := hranks i
    obtain ⟨o, ho⟩ := hracing.ended_of_rank (i := i) (by omega)
    refine ⟨o, ?_⟩
    show crowd.programs i = _
    rw [hracing.programs, ho]
    rfl
  · intro hdone
    apply hracing.oneCreated hn
    intro i
    obtain ⟨result, hresult⟩ := hdone i
    exact hracing.ended_of_done hpolicy hcycles (clock 0) hresult

/-- Two racers find the bucket missing; the second one creates it, and the first one loses the race
and finds the bucket at its second reading. -/
theorem creationRace_of_two :
    let p : Expiring := ⟨30⟩
    let actors : Fin 2 → Reconciler := fun _ => ⟨.immediate 0, 1, none⟩
    let crowd : Racers 2 :=
      (Crowd.start (fun i => (actors i).untimed.program "ci-artifacts" p.decorate p.check)
        .empty).play (MemoryStore.handler fun _ => ⟨⟨2024, 1, 31, by decide⟩, 0, 0, by decide⟩)
        [(0, 0), (1, 1), (1, 2), (0, 3), (0, 4)]
    (∃ o, crowd.programs 0 = .done (.ok o) ∧ o.decision = .alreadyCompliant ∧
        o.conflictCycles = 1) ∧
      (∃ o, crowd.programs 1 = .done (.ok o) ∧ o.decision = .doesNotExist) ∧
      ∃ winner s, OneCreated "ci-artifacts" p.check .empty crowd winner s := by
  refine ⟨⟨_, by rfl, by rfl, by rfl⟩, ⟨_, by rfl, by rfl⟩, ?_⟩
  obtain ⟨-, -, hcreated⟩ := reconcile_creationRace (n := 2) (by decide)
    (fun _ => ⟨.immediate 0, 1, none⟩) (by decide) ⟨30⟩ "ci-artifacts" .empty (by decide)
    (fun _ => ⟨⟨2024, 1, 31, by decide⟩, 0, 0, by decide⟩)
    [(0, 0), (1, 1), (1, 2), (0, 3), (0, 4)]
  exact hcreated (Fin.forall_fin_two.2 ⟨⟨_, by rfl⟩, ⟨_, by rfl⟩⟩)

end BucketLifecycle
