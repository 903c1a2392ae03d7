import BucketLifecycle.Retry

/-!
# The waits between attempts

A wait is the base of the policy doubled for each repetition before it, thirty-one times at most,
and cut to the longest wait.  Durations stop at a longest one, and so does their multiplication;
since the longest wait is a duration too, no wait shows this (`nanoseconds_delay`).

On a machine a duration is two words, seconds and nanoseconds, and its multiples carry from one into
the other or leave the range.  `WordDuration` computes a wait in such words, and
`nanoseconds_wordDelay` says that it is the same wait.
-/

set_option autoImplicit false

namespace BucketLifecycle

/-- A multiple of a duration is cut to the longest one. -/
theorem Duration.nanoseconds_times (d : Duration) (k : Nat) :
    (d.times k).nanoseconds = min (d.nanoseconds * k) maxNanoseconds :=
  rfl

/-- A multiple that is cut to a duration is not cut by the range of durations. -/
theorem Duration.nanoseconds_shorter_times (d e : Duration) (k : Nat) :
    ((d.times k).shorter e).nanoseconds = min (d.nanoseconds * k) e.nanoseconds := by
  have hbound := e.bounded
  rw [nanoseconds_shorter, nanoseconds_times]
  omega

/-- How often the base is doubled for a repetition. -/
def doublings (retry : Nat) : Nat :=
  min (max retry 1 - 1) 31

/-- The number of doublings is that of the repetitions behind the first, and 31 at most. -/
theorem doublings_eq (retry : Nat) : min (retry - 1) 31 = doublings retry := by
  unfold doublings
  omega

/-- Later repetitions are doubled no less often. -/
theorem doublings_mono {retry later : Nat} (h : retry ≤ later) :
    doublings retry ≤ doublings later := by
  unfold doublings
  omega

namespace RetryPolicy

/-- The wait before a repetition, in whole numbers without bounds. -/
theorem nanoseconds_delay (p : RetryPolicy) (retry : Nat) :
    (p.delay retry).nanoseconds =
      min (p.baseDelay.nanoseconds * Nat.pow 2 (doublings retry)) p.maxDelay.nanoseconds := by
  unfold delay
  rw [doublings_eq]
  split
  · next hzero =>
    rw [hzero, Nat.zero_mul, Nat.zero_min]
    rfl
  · exact Duration.nanoseconds_shorter_times _ _ _

/-- Waits do not get shorter from one repetition to a later one. -/
theorem delay_mono (p : RetryPolicy) {retry later : Nat} (h : retry ≤ later) :
    (p.delay retry).nanoseconds ≤ (p.delay later).nanoseconds := by
  have hpow : Nat.pow 2 (doublings retry) ≤ Nat.pow 2 (doublings later) :=
    Nat.pow_le_pow_right (by decide) (doublings_mono h)
  have hmul := Nat.mul_le_mul_left p.baseDelay.nanoseconds hpow
  rw [nanoseconds_delay, nanoseconds_delay]
  omega

/-- No wait is shorter than the base of a policy whose longest wait is not. -/
theorem le_delay_withBackoff (p : RetryPolicy) (base longest : Duration) (retry : Nat) :
    base.nanoseconds ≤ ((p.withBackoff base longest).delay retry).nanoseconds := by
  have hlongest : base.nanoseconds ≤ (longest.longer base).nanoseconds := by
    rw [Duration.nanoseconds_longer]
    exact Nat.le_max_right _ _
  rw [nanoseconds_delay]
  refine Nat.le_min.2 ⟨?_, hlongest⟩
  exact Nat.le_mul_of_pos_right _ (Nat.pow_pos (by decide))

end RetryPolicy

/-! ### Durations in machine words -/

/-- Multiplying a number in two places, the lower of which carries. -/
theorem carry_mul (high low base k : Nat) :
    (high * base + low) * k = (high * k + low * k / base) * base + low * k % base := by
  rw [Nat.add_mul, Nat.add_mul, Nat.mul_right_comm, Nat.add_assoc, Nat.div_add_mod']

/-- So many seconds as a word counts are one nanosecond longer than the longest duration. -/
theorem size_mul_second : UInt64.size * 1000000000 = maxNanoseconds + 1 := by decide

/-- Seconds that fit their word make a duration, whatever the nanoseconds. -/
theorem carried_le {seconds subsecond : Nat} (hlt : subsecond < 1000000000)
    (h : seconds < UInt64.size) : seconds * 1000000000 + subsecond ≤ maxNanoseconds := by
  have hmul : (seconds + 1) * 1000000000 ≤ maxNanoseconds + 1 :=
    size_mul_second ▸ Nat.mul_le_mul_right _ h
  omega

/-- Seconds that do not fit their word are longer than any duration. -/
theorem le_carried {seconds : Nat} (subsecond : Nat) (h : UInt64.size ≤ seconds) :
    maxNanoseconds ≤ seconds * 1000000000 + subsecond := by
  have hmul : maxNanoseconds + 1 ≤ seconds * 1000000000 :=
    size_mul_second ▸ Nat.mul_le_mul_right _ h
  omega

/-- A span of time in two machine words: whole seconds, and the nanoseconds behind them. -/
structure WordDuration where
  seconds : UInt64
  subsecond : UInt32
  subsecond_lt : subsecond.toNat < 1000000000
  deriving DecidableEq

/-- The product of two words, if it is one. -/
def checkedProduct (a b : UInt64) : Option UInt64 :=
  if a.toNat * b.toNat < UInt64.size then some (a * b) else none

/-- The sum of two words, if it is one. -/
def checkedSum (a b : UInt64) : Option UInt64 :=
  if a.toNat + b.toNat < UInt64.size then some (a + b) else none

namespace WordDuration

def nanoseconds (w : WordDuration) : Nat :=
  w.seconds.toNat * 1000000000 + w.subsecond.toNat

def zero : WordDuration := ⟨0, 0, by decide⟩

def longest : WordDuration := ⟨18446744073709551615, 999999999, by decide⟩

def ofDuration (d : Duration) : WordDuration :=
  ⟨UInt64.ofNat d.seconds, UInt32.ofNat d.subsecond, by
    have hlt : d.subsecond < 1000000000 := Nat.mod_lt _ (by decide)
    rw [UInt32.toNat_ofNat_of_lt' (Nat.lt_trans hlt (by decide))]
    exact hlt⟩

/-- The nanoseconds of a multiple before they carry; their number is a word. -/
def spread (w : WordDuration) (k : UInt32) : UInt64 :=
  w.subsecond.toUInt64 * k.toUInt64

/-- The nanoseconds of a multiple fit a word. -/
theorem toNat_spread (w : WordDuration) (k : UInt32) :
    (w.spread k).toNat = w.subsecond.toNat * k.toNat := by
  have hk := k.toNat_lt
  have hsubsecond := w.subsecond_lt
  have hproduct : w.subsecond.toNat * k.toNat ≤ 1000000000 * 4294967296 :=
    Nat.mul_le_mul (by omega) (by omega)
  unfold spread
  rw [UInt64.toNat_mul, UInt32.toNat_toUInt64, UInt32.toNat_toUInt64]
  exact Nat.mod_eq_of_lt (by omega)

/-- A multiple: the nanoseconds carry into the seconds, unless these leave their word. -/
def times? (w : WordDuration) (k : UInt32) : Option WordDuration :=
  ((checkedProduct w.seconds k.toUInt64).bind fun seconds =>
    checkedSum seconds (w.spread k / 1000000000)).map fun seconds =>
      ⟨seconds, (w.spread k % 1000000000).toUInt32, by
        have hlt : (w.spread k).toNat % 1000000000 < 1000000000 := Nat.mod_lt _ (by decide)
        rw [UInt64.toNat_toUInt32, UInt64.toNat_mod]
        exact Nat.lt_of_le_of_lt (Nat.mod_le _ _) hlt⟩

/-- A multiple, or the longest duration. -/
def times (w : WordDuration) (k : UInt32) : WordDuration :=
  (w.times? k).getD longest

/-- The shorter one of two durations: the seconds decide, and then the nanoseconds. -/
def shorter (a b : WordDuration) : WordDuration :=
  if b.seconds < a.seconds ∨ (b.seconds = a.seconds ∧ b.subsecond < a.subsecond) then b else a

/-- A product that does not fit a word has none. -/
theorem checkedProduct_eq_none {a b : UInt64} (h : UInt64.size ≤ a.toNat * b.toNat) :
    checkedProduct a b = none :=
  if_neg (Nat.not_lt.2 h)

/-- A sum that does not fit a word has none. -/
theorem checkedSum_eq_none {a b : UInt64} (h : UInt64.size ≤ a.toNat + b.toNat) :
    checkedSum a b = none :=
  if_neg (Nat.not_lt.2 h)

/-- A product that fits a word is the product of the numbers. -/
theorem checkedProduct_eq_some {a b : UInt64} (h : a.toNat * b.toNat < UInt64.size) :
    checkedProduct a b = some (a * b) ∧ (a * b).toNat = a.toNat * b.toNat := by
  refine ⟨if_pos h, ?_⟩
  rw [UInt64.toNat_mul]
  exact Nat.mod_eq_of_lt h

/-- A sum that fits a word is the sum of the numbers. -/
theorem checkedSum_eq_some {a b : UInt64} (h : a.toNat + b.toNat < UInt64.size) :
    checkedSum a b = some (a + b) ∧ (a + b).toNat = a.toNat + b.toNat := by
  refine ⟨if_pos h, ?_⟩
  rw [UInt64.toNat_add]
  exact Nat.mod_eq_of_lt h

/-- What a multiple comes to in seconds and nanoseconds, where no word is too small. -/
theorem nanoseconds_mul (w : WordDuration) (k : UInt32) :
    w.nanoseconds * k.toNat =
      (w.seconds.toNat * k.toNat + (w.spread k).toNat / 1000000000) * 1000000000 +
        (w.spread k).toNat % 1000000000 := by
  rw [nanoseconds, toNat_spread]
  exact carry_mul _ _ _ _

/-- The longest duration in words is the longest of all. -/
theorem nanoseconds_longest : longest.nanoseconds = maxNanoseconds := by decide

/-- A multiple in machine words is the multiple, or the longest duration where that is longer. -/
theorem nanoseconds_times (w : WordDuration) (k : UInt32) :
    (w.times k).nanoseconds = min (w.nanoseconds * k.toNat) maxNanoseconds := by
  have hextra : (w.spread k / 1000000000).toNat = (w.spread k).toNat / 1000000000 :=
    UInt64.toNat_div _ _
  have hlt : (w.spread k).toNat % 1000000000 < 1000000000 := Nat.mod_lt _ (by decide)
  have hwide := k.toNat_toUInt64
  rw [nanoseconds_mul, times, times?]
  -- the seconds leave their word in the product, with the carry, or not at all
  rcases Nat.lt_or_ge (w.seconds.toNat * k.toNat) UInt64.size with hproduct | hproduct
  · obtain ⟨hseconds, hvalue⟩ := checkedProduct_eq_some (b := k.toUInt64) (hwide.symm ▸ hproduct)
    rw [hwide] at hvalue
    rw [hseconds, Option.bind_some]
    rcases Nat.lt_or_ge (w.seconds.toNat * k.toNat + (w.spread k).toNat / 1000000000)
      UInt64.size with hsum | hsum
    · obtain ⟨htotal, hcarried⟩ := checkedSum_eq_some
        (a := w.seconds * k.toUInt64) (b := w.spread k / 1000000000)
        (by rw [hvalue, hextra]; exact hsum)
      rw [htotal, Option.map_some, Option.getD_some, Nat.min_eq_left (carried_le hlt hsum),
        nanoseconds, hcarried, hvalue, hextra, UInt64.toNat_toUInt32, UInt64.toNat_mod]
      exact congrArg _ (Nat.mod_eq_of_lt (Nat.lt_trans hlt (by decide)))
    · rw [checkedSum_eq_none (by rw [hvalue, hextra]; exact hsum), Option.map_none,
        Option.getD_none, nanoseconds_longest, Nat.min_eq_right (le_carried _ hsum)]
  · rw [checkedProduct_eq_none (hwide.symm ▸ hproduct), Option.bind_none, Option.map_none,
      Option.getD_none, nanoseconds_longest,
      Nat.min_eq_right (le_carried _ (Nat.le_trans hproduct (Nat.le_add_right _ _)))]

/-- A duration in words is as long as the duration itself. -/
theorem nanoseconds_ofDuration (d : Duration) : (ofDuration d).nanoseconds = d.nanoseconds := by
  have hbound := d.bounded
  have hsubsecond : d.subsecond < 1000000000 := Nat.mod_lt _ (by decide)
  have hseconds : d.seconds < UInt64.size := by
    unfold Duration.seconds UInt64.size
    unfold maxNanoseconds at hbound
    omega
  unfold nanoseconds ofDuration
  rw [UInt64.toNat_ofNat_of_lt' hseconds,
    UInt32.toNat_ofNat_of_lt' (Nat.lt_trans hsubsecond (by decide))]
  exact Nat.div_add_mod' _ _

/-- The shorter of two durations in words has the smaller number of nanoseconds. -/
theorem nanoseconds_shorter (a b : WordDuration) :
    (a.shorter b).nanoseconds = min a.nanoseconds b.nanoseconds := by
  have ha := a.subsecond_lt
  have hb := b.subsecond_lt
  unfold shorter nanoseconds
  simp only [UInt64.lt_iff_toNat_lt, UInt32.lt_iff_toNat_lt, ← UInt64.toNat_inj]
  split <;> omega

end WordDuration

/-- The number of doublings for a repetition, in machine words. -/
def wordDoublings (retry : UInt32) : UInt32 :=
  let before := if retry = 0 then 0 else retry - 1
  if before < 31 then before else 31

/-- The wait before a repetition, in machine words. -/
def RetryPolicy.wordDelay (p : RetryPolicy) (retry : UInt32) : WordDuration :=
  let base := WordDuration.ofDuration p.baseDelay
  if base = .zero then .zero
  else (base.times (1 <<< wordDoublings retry)).shorter (.ofDuration p.maxDelay)

/-- A shifted one is a power of two. -/
theorem toNat_one_shiftLeft {shift : UInt32} (h : shift.toNat ≤ 31) :
    (1 <<< shift).toNat = Nat.pow 2 shift.toNat := by
  have hlt : Nat.pow 2 shift.toNat < 2 ^ 32 := Nat.pow_lt_pow_right (by decide) (by omega)
  have hmod : shift.toNat % 32 = shift.toNat := Nat.mod_eq_of_lt (by omega)
  rw [UInt32.toNat_shiftLeft, hmod, UInt32.toNat_one, Nat.one_shiftLeft]
  exact Nat.mod_eq_of_lt hlt

/-- The doublings in words are those of the numbers. -/
theorem toNat_wordDoublings (retry : UInt32) :
    (wordDoublings retry).toNat = doublings retry.toNat := by
  unfold wordDoublings doublings
  by_cases hzero : retry = 0
  · subst hzero
    decide
  · have hpos : 1 ≤ retry.toNat := by
      have hne : retry.toNat ≠ 0 := fun h => hzero (UInt32.toNat_inj.1 h)
      omega
    have hbefore : (retry - 1).toNat = retry.toNat - 1 := UInt32.toNat_sub_of_le _ _ hpos
    rw [if_neg hzero]
    dsimp only
    split
    · next hlt =>
      have hsmall : (retry - 1).toNat < 31 := UInt32.lt_iff_toNat_lt.1 hlt
      omega
    · next hge =>
      have hlarge : ¬(retry - 1).toNat < 31 := fun h => hge (UInt32.lt_iff_toNat_lt.2 h)
      show 31 = _
      omega

/-- Machine words give the same waits. -/
theorem RetryPolicy.nanoseconds_wordDelay (p : RetryPolicy) (retry : UInt32) :
    (p.wordDelay retry).nanoseconds = (p.delay retry.toNat).nanoseconds := by
  have hbase := WordDuration.nanoseconds_ofDuration p.baseDelay
  rw [nanoseconds_delay]
  unfold wordDelay
  dsimp only
  split
  · next hzero =>
    have hnone : p.baseDelay.nanoseconds = 0 := by
      rw [← hbase, hzero]
      rfl
    rw [hnone, Nat.zero_mul, Nat.zero_min]
    rfl
  · have hshift := toNat_wordDoublings retry
    have hsmall : doublings retry.toNat ≤ 31 := Nat.min_le_right _ _
    have hbound := p.maxDelay.bounded
    rw [WordDuration.nanoseconds_shorter, WordDuration.nanoseconds_times,
      toNat_one_shiftLeft (by rw [hshift]; exact hsmall), hshift, hbase,
      WordDuration.nanoseconds_ofDuration]
    omega

/-- The wait before each repetition is exactly the base doubled for each repetition before it,
thirty-one times at most, and cut to the longest wait; computed in machine words, with their carries
and their largest values, it is the same.  So it is never longer than the longest wait, never
shorter than the one before, undisturbed by the limit of doublings up to the thirty-second
repetition, and not below the base where the longest wait is not. -/
theorem delay_isExact (p : RetryPolicy) (retry : UInt32) :
    let base := p.baseDelay.nanoseconds
    let longest := p.maxDelay.nanoseconds
    let r := retry.toNat
    (p.delay r).nanoseconds = min (base * Nat.pow 2 (min (max r 1 - 1) 31)) longest ∧
      (p.wordDelay retry).nanoseconds = (p.delay r).nanoseconds ∧
      (p.delay r).nanoseconds ≤ longest ∧
      (∀ later : UInt32, retry ≤ later →
        (p.delay r).nanoseconds ≤ (p.delay later.toNat).nanoseconds) ∧
      (1 ≤ r → r ≤ 32 → (p.delay r).nanoseconds = min (base * Nat.pow 2 (r - 1)) longest) ∧
      ∀ first cap : Duration,
        first.nanoseconds ≤ ((p.withBackoff first cap).delay r).nanoseconds := by
  intro base longest r
  have hexact : (p.delay r).nanoseconds = min (base * Nat.pow 2 (doublings r)) longest :=
    p.nanoseconds_delay r
  refine ⟨hexact, p.nanoseconds_wordDelay retry, ?_, fun later h => p.delay_mono h,
    fun hpos hsmall => ?_, fun first cap => p.le_delay_withBackoff first cap r⟩
  · rw [hexact]
    exact Nat.min_le_right _ _
  · have hdoublings : doublings r = r - 1 := by
      unfold doublings
      omega
    rw [hexact, hdoublings]

/-- A base near the longest duration, doubled beyond it, is cut to a longest wait below the base,
and under a policy with a longer one the thirty-second repetition waits `2^31` times the base. -/
theorem delay_of_saturating_base :
    let huge : RetryPolicy := ⟨40, .saturate maxNanoseconds, .ofSeconds 5⟩
    let tiny : RetryPolicy := ⟨40, .saturate 1, .saturate maxNanoseconds⟩
    (1 : UInt32) ≤ 2 ∧ 1 ≤ (32 : UInt32).toNat ∧ (32 : UInt32).toNat ≤ 32 ∧
      (huge.delay 1).nanoseconds = 5000000000 ∧
      (huge.delay 1).nanoseconds ≤ (huge.delay 2).nanoseconds ∧
      (tiny.delay 32).nanoseconds = 2147483648 := by
  intro huge tiny
  obtain ⟨hfirst, -, -, hmono, -, -⟩ := delay_isExact huge 1
  obtain ⟨-, -, -, -, hlast, -⟩ := delay_isExact tiny 32
  exact ⟨by decide, by decide, by decide, hfirst.trans (by decide), hmono 2 (by decide),
    (hlast (by decide) (by decide)).trans (by decide)⟩

end BucketLifecycle
