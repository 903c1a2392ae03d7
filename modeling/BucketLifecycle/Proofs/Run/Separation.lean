import BucketLifecycle.Proofs.Run.Interleaving
import Mathlib.Algebra.BigOperators.Group.Finset.Basic
import Mathlib.Tactic.Abel
import Mathlib.Data.Fintype.BigOperators

/-!
# Programs that keep to different places

A store has places, and each call is about one of them: the answer and what becomes of the place
depend on nothing but what is there, and all other places are left alone (`Separation`).  Programs
that keep to different places then take no notice of each other.  However their turns are
interleaved, each of them comes to where its own turns bring it when nobody else takes one
(`Crowd.Alike.play`), and a count of what the calls cost grows by the sum of what it grows by in
these plays (`Crowd.count_play`).
-/

set_option autoImplicit false

namespace BucketLifecycle

variable {σ ι ρ α β κ ν M : Type} [AddCommGroup M]

/-- Every call is about one place, and `view` says what is there. -/
structure Separation (handler : Handler σ ι ρ) (place : ι → κ) (view : σ → κ → ν) : Prop where
  answer_eq : ∀ now c s t, view s (place c) = view t (place c) →
    (handler now c s).answer = (handler now c t).answer
  view_eq : ∀ now c s t, view s (place c) = view t (place c) →
    view (handler now c s).state (place c) = view (handler now c t).state (place c)
  view_of_ne : ∀ now c s k, k ≠ place c → view (handler now c s).state k = view s k

/-- A call adds to a count what it costs, with what is at its place. -/
def Tallies (handler : Handler σ ι ρ) (place : ι → κ) (view : σ → κ → ν) (count : σ → M)
    (cost : ι → ν → M) : Prop :=
  ∀ now c s, count (handler now c s).state = count s + cost c (view s (place c))

namespace Program

variable {ι' ρ' : Type} {place : ι → κ} {k : κ}

/-- Whatever the answers are, the program makes no call that is about another place. -/
inductive KeepsTo (place : ι → κ) (k : κ) : Program ι ρ α → Prop where
  | done (a : α) : KeepsTo place k (.done a)
  | overflow : KeepsTo place k .overflow
  | wait (d : Duration) {next : Program ι ρ α} (h : KeepsTo place k next) :
    KeepsTo place k (.wait d next)
  | call {c : ι} {next : ρ → Program ι ρ α} (hplace : place c = k)
      (h : ∀ r, KeepsTo place k (next r)) : KeepsTo place k (.call c next)

namespace KeepsTo

/-- A program keeps to a place where it does and what follows it does. -/
theorem bind {p : Program ι ρ α} {f : α → Program ι ρ β} (h : p.KeepsTo place k)
    (hf : ∀ a, (f a).KeepsTo place k) : (p.bind f).KeepsTo place k := by
  induction h with
  | done a => exact hf a
  | overflow => exact .overflow
  | wait d _ ih => exact .wait d ih
  | call hplace _ ih => exact .call hplace ih

/-- A program keeps to its place behind a pause. -/
theorem pause {p : Program ι ρ α} (h : p.KeepsTo place k) (d : Duration) :
    (p.pause d).KeepsTo place k := by
  unfold Program.pause
  split
  · exact h
  · exact .wait d h

/-- A program keeps to its place where each of its calls is replaced by calls about the same place.
-/
theorem expand {place' : ι' → κ} {f : ι → Program ι' ρ' ρ}
    (hf : ∀ c, (f c).KeepsTo place' (place c)) {p : Program ι ρ α} (h : p.KeepsTo place k) :
    (p.expand f).KeepsTo place' k := by
  induction h with
  | done a => exact .done a
  | overflow => exact .overflow
  | wait d _ ih => exact .wait d ih
  | @call c next hplace _ ih =>
    have hcall := hf c
    rw [hplace] at hcall
    exact hcall.bind ih

/-- The first call of a program is for the place that it keeps to. -/
theorem place_eq {c : ι} {next : ρ → Program ι ρ α}
    (h : (Program.call c next).KeepsTo place k) : place c = k := by
  cases h
  assumption

end KeepsTo

end Program

/-- The turns of one program. -/
def Schedule.only {n : Nat} (schedule : Schedule n) (i : Fin n) : Schedule n :=
  schedule.filter fun turn => turn.1 == i

/-- The first turn is among those of the program that takes it. -/
theorem Schedule.only_cons_self {n : Nat} (i : Fin n) (now : Instant) (schedule : Schedule n) :
    Schedule.only ((i, now) :: schedule) i = (i, now) :: schedule.only i :=
  List.filter_cons_of_pos (by simp)

/-- The first turn is not among those of the other programs. -/
theorem Schedule.only_cons_of_ne {n : Nat} {i j : Fin n} (h : j ≠ i) (now : Instant)
    (schedule : Schedule n) : Schedule.only ((j, now) :: schedule) i = schedule.only i :=
  List.filter_cons_of_neg (by simpa using h)

/-- The turns of one program differ in their times only. -/
theorem Schedule.exists_only_eq {n : Nat} (schedule : Schedule n) (i : Fin n) :
    ∃ times : List Instant, schedule.only i = times.map (fun time => (i, time)) ∧
      times.length = schedule.turns i := by
  refine ⟨(schedule.only i).map Prod.snd, ?_, ?_⟩
  · rw [List.map_map, List.map_congr_left (g := id), List.map_id]
    intro turn hturn
    have howner : turn.1 = i := by simpa using List.of_mem_filter hturn
    rw [← howner]
    rfl
  · rw [List.length_map]
    exact List.countP_eq_length_filter.symm

/-- The last turn is among those of the program that takes it. -/
theorem Schedule.only_concat_self {n : Nat} (schedule : Schedule n) (i : Fin n) (now : Instant) :
    Schedule.only (schedule ++ [(i, now)]) i = schedule.only i ++ [(i, now)] := by
  unfold Schedule.only
  rw [List.filter_append, List.filter_cons_of_pos (by simp), List.filter_nil]

/-- The last turn is not among those of the other programs. -/
theorem Schedule.only_concat_of_ne {n : Nat} {i j : Fin n} (h : j ≠ i) (schedule : Schedule n)
    (now : Instant) : Schedule.only (schedule ++ [(j, now)]) i = schedule.only i := by
  unfold Schedule.only
  rw [List.filter_append, List.filter_cons_of_neg (by simpa using h), List.filter_nil,
    List.append_nil]

namespace Crowd

variable {n : Nat} {handler : Handler σ ι ρ} {place : ι → κ} {view : σ → κ → ν}
  {home : Fin n → κ} {count : σ → M} {cost : ι → ν → M} {x y z : Crowd σ ι ρ α n} {i j : Fin n}

/-- A schedule in two parts is played part by part. -/
theorem play_append (x : Crowd σ ι ρ α n) (first last : Schedule n) :
    x.play handler (first ++ last) = (x.play handler first).play handler last :=
  List.foldl_append

/-- Every program of the crowd keeps to its own place. -/
def KeepsTo (place : ι → κ) (home : Fin n → κ) (x : Crowd σ ι ρ α n) : Prop :=
  ∀ i, (x.programs i).KeepsTo place (home i)

/-- All programs keep to their places where one is replaced by another that does. -/
theorem keepsTo_update (h : x.KeepsTo place home) {next : Program ι ρ α}
    (hnext : next.KeepsTo place (home j)) (i : Fin n) :
    (Function.update x.programs j next i).KeepsTo place (home i) := by
  by_cases hi : i = j
  · subst hi
    rw [Function.update_self]
    exact hnext
  · rw [Function.update_of_ne hi]
    exact h i

/-- Programs keep to their places while they take turns. -/
theorem KeepsTo.turn (h : x.KeepsTo place home) (j : Fin n) (now : Instant) :
    (x.turn handler j now).KeepsTo place home := by
  have hj := h j
  cases hprogram : x.programs j with
  | done a =>
    rw [turn_of_done hprogram]
    exact h
  | overflow =>
    rw [turn_of_overflow hprogram]
    exact h
  | wait d next =>
    rw [hprogram] at hj
    rw [turn_of_wait hprogram]
    cases hj with
    | wait _ hnext => exact keepsTo_update h hnext
  | call c next =>
    rw [hprogram] at hj
    rw [turn_of_call hprogram]
    cases hj with
    | call _ hnext => exact keepsTo_update h (hnext _)

/-- Programs that keep to their places do so however they take turns. -/
theorem KeepsTo.play (h : x.KeepsTo place home) (schedule : Schedule n) :
    (x.play handler schedule).KeepsTo place home := by
  induction schedule generalizing x with
  | nil => exact h
  | cons turn schedule ih => exact ih (h.turn turn.1 turn.2)

/-- A turn leaves the programs of all others. -/
theorem programs_turn_of_ne (h : i ≠ j) (now : Instant) :
    (x.turn handler j now).programs i = x.programs i := by
  unfold turn
  split
  · exact Function.update_of_ne h _ _
  · exact Function.update_of_ne h _ _
  · rfl
  · rfl

/-- A turn leaves every place but the one of who takes it. -/
theorem view_turn_of_ne (hseparate : Separation handler place view) (h : x.KeepsTo place home)
    {k : κ} (hk : k ≠ home j) (now : Instant) :
    view (x.turn handler j now).state k = view x.state k := by
  have hj := h j
  cases hprogram : x.programs j with
  | done a => rw [turn_of_done hprogram]
  | overflow => rw [turn_of_overflow hprogram]
  | wait d next => rw [turn_of_wait hprogram]
  | call c next =>
    rw [hprogram] at hj
    rw [turn_of_call hprogram]
    apply hseparate.view_of_ne
    rw [hj.place_eq]
    exact hk

/-- A place that is nobody's is left as it is. -/
theorem view_play_of_ne (hseparate : Separation handler place view) (h : x.KeepsTo place home)
    {k : κ} (hk : ∀ i, k ≠ home i) (schedule : Schedule n) :
    view (x.play handler schedule).state k = view x.state k := by
  induction schedule generalizing x with
  | nil => rfl
  | cons turn schedule ih =>
    rw [play_cons, ih (h.turn turn.1 turn.2)]
    exact view_turn_of_ne hseparate h (hk turn.1) turn.2

/-- A program has come to the same point in two crowds, and finds the same at its place. -/
structure Alike (view : σ → κ → ν) (home : Fin n → κ) (i : Fin n) (x y : Crowd σ ι ρ α n) :
    Prop where
  programs_eq : x.programs i = y.programs i
  view_eq : view x.state (home i) = view y.state (home i)

/-- A crowd looks like itself to each of its programs. -/
theorem Alike.refl (x : Crowd σ ι ρ α n) : Alike view home i x x := ⟨rfl, rfl⟩

/-- What looks alike to a program looks alike along a chain. -/
theorem Alike.trans (h : Alike view home i x y) (h' : Alike view home i y z) :
    Alike view home i x z :=
  ⟨h.programs_eq.trans h'.programs_eq, h.view_eq.trans h'.view_eq⟩

/-- Who keeps to another place does not notice a turn. -/
theorem alike_turn_of_ne (hseparate : Separation handler place view)
    (hhome : Function.Injective home) (h : x.KeepsTo place home) (hne : i ≠ j) (now : Instant) :
    Alike view home i (x.turn handler j now) x :=
  ⟨programs_turn_of_ne hne now, view_turn_of_ne hseparate h (hhome.ne hne) now⟩

/-- In crowds that are alike to a program, it takes the same turn. -/
theorem Alike.turn (hseparate : Separation handler place view) (h : x.KeepsTo place home)
    (hxy : Alike view home i x y) (now : Instant) :
    Alike view home i (x.turn handler i now) (y.turn handler i now) := by
  have hi := h i
  cases hprogram : x.programs i with
  | done a =>
    rw [turn_of_done hprogram, turn_of_done (hxy.programs_eq.symm.trans hprogram)]
    exact hxy
  | overflow =>
    rw [turn_of_overflow hprogram, turn_of_overflow (hxy.programs_eq.symm.trans hprogram)]
    exact hxy
  | wait d next =>
    rw [turn_of_wait hprogram, turn_of_wait (hxy.programs_eq.symm.trans hprogram)]
    refine ⟨?_, hxy.view_eq⟩
    simp only [Function.update_self]
  | call c next =>
    rw [hprogram] at hi
    have hplace := hi.place_eq
    have hview : view x.state (place c) = view y.state (place c) := by
      rw [hplace]
      exact hxy.view_eq
    rw [turn_of_call hprogram, turn_of_call (hxy.programs_eq.symm.trans hprogram)]
    refine ⟨?_, ?_⟩
    · simp only [Function.update_self]
      rw [hseparate.answer_eq now c _ _ hview]
    · dsimp only
      rw [← hplace]
      exact hseparate.view_eq now c _ _ hview

/-- However the turns of programs with different places are interleaved, each program comes to where
its own turns bring it. -/
theorem Alike.play (hseparate : Separation handler place view) (hhome : Function.Injective home)
    (h : x.KeepsTo place home) (hxy : Alike view home i x y) (schedule : Schedule n) :
    Alike view home i (x.play handler schedule) (y.play handler (schedule.only i)) := by
  -- The second crowd stands still in the turns of the others, so both crowds vary.
  induction schedule generalizing x y with
  | nil => exact hxy
  | cons turn schedule ih =>
    obtain ⟨j, now⟩ := turn
    rw [play_cons]
    by_cases hj : j = i
    · subst hj
      rw [Schedule.only_cons_self, play_cons]
      exact ih (h.turn j now) (hxy.turn hseparate h now)
    · rw [Schedule.only_cons_of_ne hj]
      apply ih (h.turn j now)
      exact (alike_turn_of_ne hseparate hhome h (Ne.symm hj) now).trans hxy

/-- What the next turn of a program costs. -/
def turnCost (place : ι → κ) (view : σ → κ → ν) (cost : ι → ν → M) (x : Crowd σ ι ρ α n)
    (i : Fin n) : M :=
  match x.programs i with
  | .call c _ => cost c (view x.state (place c))
  | _ => 0

/-- A turn adds to the count what it costs. -/
theorem count_turn (hcount : Tallies handler place view count cost) (x : Crowd σ ι ρ α n)
    (i : Fin n) (now : Instant) :
    count (x.turn handler i now).state = count x.state + turnCost place view cost x i := by
  unfold turnCost
  cases hprogram : x.programs i with
  | done a => rw [turn_of_done hprogram, add_zero]
  | overflow => rw [turn_of_overflow hprogram, add_zero]
  | wait d next => rw [turn_of_wait hprogram, add_zero]
  | call c next =>
    rw [turn_of_call hprogram]
    exact hcount now c x.state

/-- A turn costs the same in crowds that look alike to the program. -/
theorem Alike.turnCost_eq (h : x.KeepsTo place home) (hxy : Alike view home i x y) :
    turnCost place view cost x i = turnCost place view cost y i := by
  have hi := h i
  unfold turnCost
  rw [← hxy.programs_eq]
  cases hprogram : x.programs i with
  | done | overflow | wait => rfl
  | call c next =>
    rw [hprogram] at hi
    dsimp only
    rw [hi.place_eq, hxy.view_eq]

/-- A count grows by the sum of what it grows by when each program takes its turns alone. -/
theorem count_play (hseparate : Separation handler place view)
    (hcount : Tallies handler place view count cost) (hhome : Function.Injective home)
    (h : x.KeepsTo place home) (schedule : Schedule n) :
    count (x.play handler schedule).state - count x.state =
      ∑ i, (count (x.play handler (schedule.only i)).state - count x.state) := by
  -- What a turn costs depends on all that was done before it, so the last turn is taken off.
  induction schedule using List.reverseRecOn with
  | nil =>
    show count x.state - count x.state = ∑ i : Fin n, (count x.state - count x.state)
    simp
  | append_singleton schedule turn ih =>
    obtain ⟨j, now⟩ := turn
    have hlast (y : Crowd σ ι ρ α n) : y.play handler [(j, now)] = y.turn handler j now := rfl
    generalize hcost : turnCost place view cost (x.play handler schedule) j = last
    have halone :
        turnCost place view cost (x.play handler (Schedule.only schedule j)) j = last := by
      rw [← hcost]
      exact (((Alike.refl x).play hseparate hhome h schedule).turnCost_eq (h.play schedule)).symm
    have hstep (i : Fin n) :
        count (x.play handler (Schedule.only (schedule ++ [(j, now)]) i)).state - count x.state =
          (count (x.play handler (Schedule.only schedule i)).state - count x.state) +
            if i = j then last else 0 := by
      by_cases hi : i = j
      · subst hi
        rw [Schedule.only_concat_self, play_append, hlast, count_turn hcount, halone, if_pos rfl]
        abel
      · rw [Schedule.only_concat_of_ne (Ne.symm hi), if_neg hi, add_zero]
    rw [Finset.sum_congr rfl fun i _ => hstep i, Finset.sum_add_distrib, ← ih,
      Finset.sum_ite_eq' Finset.univ j, if_pos (Finset.mem_univ j), play_append, hlast,
      count_turn hcount, hcost]
    abel

end Crowd

end BucketLifecycle
