import ContentClient.Backoff.Policy
import Mathlib.Algebra.Order.Field.Basic
import Mathlib.Data.Rat.Floor
import Mathlib.Tactic.Linarith
import Mathlib.Tactic.NormNum

/-!
# Delays in exact numbers

The delays of a policy are stretched in whatever numbers there are. In the **rational** numbers
nothing is lost until the result is rounded once, half a millisecond going away from zero, and held
to the counts of 64 bits. Rounding and holding are monotone and leave the counts of 64 bits as they
are, so that every bound on a delay is one on the product that is rounded.

Everything that a delay depends on is held within its range before it is used: the doubled base by
the greatest delay, the jitter factor and the sample between zero and one. So the promises of
`BackoffPolicy.Jitters` hold for every attempt, every jitter factor and every sample, and for every
base that a count of 64 bits of seconds can hold, with which the doubling never overflows
(`BackoffPolicy.jitters`).
-/

namespace ContentClient

namespace JitterNumber

/-- The greatest count of 64 bits. -/
def maxWord : Nat := 0xFFFFFFFFFFFFFFFF

/-- The nearest whole number, a half going away from zero. -/
def roundAway (x : ℚ) : ℤ := if 0 ≤ x then ⌊x + 1 / 2⌋ else -⌊-x + 1 / 2⌋

/-- A whole number held between zero and the greatest count of 64 bits. -/
def saturate (n : ℤ) : Nat := min n.toNat maxWord

/-- The rational numbers, in which nothing but the result is rounded. -/
instance : JitterNumber ℚ where
  whole n := n
  less x y := x < y
  roundToWord x := saturate (roundAway x)

/-! ### Rounding -/

theorem roundAway_natCast (n : Nat) : roundAway n = n := by
  have hfloor : ⌊(n : ℚ) + 1 / 2⌋ = n := by
    rw [Int.floor_eq_iff]
    constructor <;> push_cast <;> linarith
  rw [roundAway, if_pos (Nat.cast_nonneg n), hfloor]

theorem roundAway_nonneg {x : ℚ} (h : 0 ≤ x) : 0 ≤ roundAway x := by
  rw [roundAway, if_pos h, Int.floor_nonneg]
  linarith

theorem roundAway_nonpos {x : ℚ} (h : x < 0) : roundAway x ≤ 0 := by
  rw [roundAway, if_neg (not_le.mpr h), neg_nonpos, Int.floor_nonneg]
  linarith

theorem roundAway_mono {x y : ℚ} (h : x ≤ y) : roundAway x ≤ roundAway y := by
  rcases le_or_gt 0 x with hx | hx
  · rw [roundAway, roundAway, if_pos hx, if_pos (hx.trans h)]
    exact Int.floor_le_floor (by linarith)
  · rcases le_or_gt 0 y with hy | hy
    · exact (roundAway_nonpos hx).trans (roundAway_nonneg hy)
    · -- below zero the order is turned twice
      rw [roundAway, roundAway, if_neg (not_le.mpr hx), if_neg (not_le.mpr hy), neg_le_neg_iff]
      exact Int.floor_le_floor (by linarith)

theorem saturate_mono {m n : ℤ} (h : m ≤ n) : saturate m ≤ saturate n :=
  min_le_min_right maxWord (Int.toNat_le_toNat h)

theorem roundToWord_mono : Monotone (roundToWord : ℚ → Nat) := fun _ _ h =>
  saturate_mono (roundAway_mono h)

/-- A count is rounded to itself. -/
theorem roundToWord_natCast (n : Nat) : roundToWord (n : ℚ) = min n maxWord := by
  show saturate (roundAway n) = _
  rw [roundAway_natCast, saturate, Int.toNat_natCast]

/-! ### Factors -/

/-- Holding a number between zero and one is cutting it off at both ends. -/
theorem clampUnit_eq (x : ℚ) : clampUnit x = max 0 (min x 1) := by
  have hzero : (whole 0 : ℚ) = 0 := Nat.cast_zero
  have hone : (whole 1 : ℚ) = 1 := Nat.cast_one
  unfold clampUnit
  rw [hzero, hone]
  simp only [less, decide_eq_true_eq]
  split_ifs with hneg habove
  · rw [min_eq_left (by linarith), max_eq_left hneg.le]
  · rw [min_eq_right habove.le, max_eq_right zero_le_one]
  · rw [min_eq_left (not_lt.mp habove), max_eq_right (not_lt.mp hneg)]

theorem clampUnit_nonneg (x : ℚ) : 0 ≤ clampUnit x := by
  rw [clampUnit_eq]
  exact le_max_left _ _

theorem clampUnit_le_one (x : ℚ) : clampUnit x ≤ 1 := by
  rw [clampUnit_eq]
  exact max_le zero_le_one (min_le_right _ _)

theorem clampUnit_mono : Monotone (clampUnit : ℚ → ℚ) := by
  intro x y h
  rw [clampUnit_eq, clampUnit_eq]
  exact max_le_max_left 0 (min_le_min_right 1 h)

variable (spread sample : ℚ)

theorem factor_eq : factor spread sample =
    1 - clampUnit spread + clampUnit sample * 2 * clampUnit spread := by
  have hone : (whole 1 : ℚ) = 1 := Nat.cast_one
  have htwo : (whole 2 : ℚ) = 2 := Nat.cast_two
  rw [factor, hone, htwo]

theorem le_factor : 1 - clampUnit spread ≤ factor spread sample := by
  have hprod := mul_nonneg (clampUnit_nonneg sample) (clampUnit_nonneg spread)
  rw [factor_eq]
  linarith

theorem factor_le : factor spread sample ≤ 1 + clampUnit spread := by
  have hprod := mul_le_of_le_one_left (clampUnit_nonneg spread) (clampUnit_le_one sample)
  rw [factor_eq]
  linarith

theorem factor_nonneg : 0 ≤ factor spread sample := by
  have hle := le_factor spread sample
  have hspread := clampUnit_le_one spread
  linarith

theorem factor_mono : Monotone (factor spread) := by
  intro x y h
  have hprod := mul_le_mul_of_nonneg_right (clampUnit_mono h) (clampUnit_nonneg spread)
  rw [factor_eq, factor_eq]
  linarith

/-! ### Stretching -/

theorem stretch_eq (millis : Nat) :
    stretch millis spread sample = roundToWord ((millis : ℚ) * factor spread sample) := rfl

/-- A count that is stretched lies between the stretches with the least and the greatest factor. -/
theorem stretch_mem (millis : Nat) :
    roundToWord ((millis : ℚ) * (1 - clampUnit spread)) ≤ stretch millis spread sample ∧
      stretch millis spread sample ≤ roundToWord ((millis : ℚ) * (1 + clampUnit spread)) :=
  ⟨roundToWord_mono (mul_le_mul_of_nonneg_left (le_factor spread sample) millis.cast_nonneg),
    roundToWord_mono (mul_le_mul_of_nonneg_left (factor_le spread sample) millis.cast_nonneg)⟩

/-- Stretching at most doubles a count. -/
theorem stretch_le (millis : Nat) : stretch millis spread sample ≤ 2 * millis := by
  have hfactor : (millis : ℚ) * (1 + clampUnit spread) ≤ (2 * millis : Nat) := by
    have hspread := mul_le_mul_of_nonneg_left (clampUnit_le_one spread)
      (millis.cast_nonneg : (0 : ℚ) ≤ millis)
    push_cast
    linarith
  calc stretch millis spread sample
      ≤ roundToWord ((millis : ℚ) * (1 + clampUnit spread)) := (stretch_mem spread sample millis).2
    _ ≤ roundToWord ((2 * millis : Nat) : ℚ) := roundToWord_mono hfactor
    _ = min (2 * millis) maxWord := roundToWord_natCast _
    _ ≤ 2 * millis := Nat.min_le_left _ _

variable {spread sample}

theorem stretch_mono {millis millis' : Nat} {sample' : ℚ} (hmillis : millis ≤ millis')
    (hsample : sample ≤ sample') :
    stretch millis spread sample ≤ stretch millis' spread sample' :=
  roundToWord_mono (mul_le_mul (Nat.cast_le.mpr hmillis) (factor_mono spread hsample)
    (factor_nonneg spread sample) millis'.cast_nonneg)

/-- Without a spread, no sample stretches. -/
theorem stretch_of_nonpos (h : spread ≤ 0) (millis : Nat) :
    stretch millis spread sample = min millis maxWord := by
  have hspread : clampUnit spread = 0 := by
    rw [clampUnit_eq, max_eq_left ((min_le_left _ _).trans h)]
  rw [stretch_eq, factor_eq, hspread, mul_zero, sub_zero, add_zero, mul_one, roundToWord_natCast]

end JitterNumber

namespace BackoffPolicy

open JitterNumber

variable {p : BackoffPolicy}

/-! ### Doubling -/

/-- The doublings of a base that a count of 64 bits of seconds can hold stay far below the counts of
128 bits. -/
theorem doubled_le_maxWide (h : p.baseDelay.toSecs < 2 ^ 64) (attempt : Nat) :
    p.baseDelay.toMillis * 2 ^ min attempt maxDoublings ≤ maxWide := by
  have hmillis : p.baseDelay.toMillis ≤ 2 ^ 64 * 1000 := by
    unfold Duration.toSecs at h
    unfold Duration.toMillis
    omega
  calc p.baseDelay.toMillis * 2 ^ min attempt maxDoublings
      ≤ 2 ^ 64 * 1000 * 2 ^ maxDoublings :=
        Nat.mul_le_mul hmillis (Nat.pow_le_pow_right Nat.two_pos (Nat.min_le_right _ _))
    _ ≤ maxWide := by decide

theorem cappedMillis_eq (h : p.baseDelay.toSecs < 2 ^ 64) (attempt : Nat) :
    p.cappedMillis attempt =
      min (p.baseDelay.toMillis * 2 ^ min attempt maxDoublings) p.maxDelay.toMillis :=
  congrArg (min · p.maxDelay.toMillis) (Nat.min_eq_left (doubled_le_maxWide h attempt))

theorem cappedMillis_le (p : BackoffPolicy) (attempt : Nat) :
    p.cappedMillis attempt ≤ p.maxDelay.toMillis := Nat.min_le_right _ _

theorem cappedMillis_mono (p : BackoffPolicy) : Monotone p.cappedMillis := by
  intro attempt attempt' h
  have hpow : 2 ^ min attempt maxDoublings ≤ 2 ^ min attempt' maxDoublings :=
    Nat.pow_le_pow_right Nat.two_pos (min_le_min_right maxDoublings h)
  exact min_le_min_right _ (min_le_min_right _ (Nat.mul_le_mul_left _ hpow))

theorem cappedMillis_of_le (p : BackoffPolicy) {attempt : Nat} (h : maxDoublings ≤ attempt) :
    p.cappedMillis attempt = p.cappedMillis maxDoublings := by
  rw [cappedMillis, cappedMillis, Nat.min_eq_right h, Nat.min_self]

/-! ### Delays -/

/-- What a policy promises of its delays in exact numbers, for a jitter factor. -/
structure Jitters (p : BackoffPolicy) (spread : ℚ) : Prop where
  /-- The doubled base never has to be held to the counts of 128 bits. -/
  fits : ∀ attempt, p.baseDelay.toMillis * 2 ^ min attempt maxDoublings ≤ maxWide
  /-- So only the greatest delay caps it. -/
  capped : ∀ attempt, p.cappedMillis attempt =
    min (p.baseDelay.toMillis * 2 ^ min attempt maxDoublings) p.maxDelay.toMillis
  /-- A delay lies in the window around the capped one, rounded and held to the counts of 64
  bits. -/
  window : ∀ attempt sample, ∃ millis, p.delayIn spread attempt sample = .ofMillis millis ∧
    min (roundAway (p.cappedMillis attempt * (1 - max 0 (min spread 1)))).toNat maxWord ≤ millis ∧
    millis ≤ min (roundAway (p.cappedMillis attempt * (1 + max 0 (min spread 1)))).toNat maxWord
  /-- It is never more than twice the greatest delay. -/
  bounded : ∀ attempt sample,
    (p.delayIn spread attempt sample).nanos ≤ 2 * p.maxDelay.nanos
  /-- Neither a later attempt nor a greater sample makes it shorter. -/
  monotone : ∀ attempt attempt' sample sample', attempt ≤ attempt' → sample ≤ sample' →
    p.delayIn spread attempt sample ≤ p.delayIn spread attempt' sample'
  /-- After the last doubling it no longer depends on the attempt. -/
  settled : ∀ attempt sample, maxDoublings ≤ attempt →
    p.delayIn spread attempt sample = p.delayIn spread maxDoublings sample
  /-- Without a spread it does not depend on the sample. -/
  fixed : spread ≤ 0 → ∀ attempt sample,
    p.delayIn spread attempt sample = .ofMillis (min (p.cappedMillis attempt) maxWord)

/-- **Delays.** Every policy whose base is a count of 64 bits of seconds keeps its promises for
every jitter factor. -/
theorem jitters (h : p.baseDelay.toSecs < 2 ^ 64) (spread : ℚ) : p.Jitters spread where
  fits := doubled_le_maxWide h
  capped := cappedMillis_eq h
  window := by
    intro attempt sample
    rw [← clampUnit_eq]
    exact ⟨_, rfl, stretch_mem spread sample (p.cappedMillis attempt)⟩
  bounded := by
    intro attempt sample
    have hmillis : p.maxDelay.toMillis * 1000000 ≤ p.maxDelay.nanos :=
      Nat.div_mul_le_self p.maxDelay.nanos 1000000
    have hstretch : stretch (p.cappedMillis attempt) spread sample ≤ 2 * p.maxDelay.toMillis :=
      (stretch_le spread sample _).trans (Nat.mul_le_mul_left 2 (p.cappedMillis_le attempt))
    calc (p.delayIn spread attempt sample).nanos
        = stretch (p.cappedMillis attempt) spread sample * 1000000 := rfl
      _ ≤ 2 * p.maxDelay.toMillis * 1000000 := Nat.mul_le_mul_right _ hstretch
      _ = 2 * (p.maxDelay.toMillis * 1000000) := Nat.mul_assoc _ _ _
      _ ≤ 2 * p.maxDelay.nanos := Nat.mul_le_mul_left 2 hmillis
  monotone := fun attempt attempt' sample sample' hattempt hsample =>
    Nat.mul_le_mul_right _ (stretch_mono (p.cappedMillis_mono hattempt) hsample)
  settled := by
    intro attempt sample hattempt
    rw [delayIn, delayIn, p.cappedMillis_of_le hattempt]
  fixed := by
    intro hspread attempt sample
    rw [delayIn, stretch_of_nonpos hspread]

/-- A sample beyond one stretches no more than one does. -/
example : ({ baseDelay := .ofMillis 100, maxDelay := .ofMillis 1000, randomizationFactor := 0.5 } :
    BackoffPolicy).delayIn (1 / 2 : ℚ) 0 7 = .ofMillis 150 := by decide +kernel

/-- The policy with the longest delays that there are. -/
def longest : BackoffPolicy :=
  { baseDelay := .ofSecs (2 ^ 64 - 1)
    maxDelay := .ofSecs (2 ^ 64 - 1)
    randomizationFactor := 0.5 }

/-- With the longest delays the doubling does not overflow either, and the result is held to the
counts of 64 bits. -/
theorem jitters_longest :
    longest.baseDelay.toSecs < 2 ^ 64 ∧ longest.Jitters 1 ∧
      longest.delayIn (1 : ℚ) 3 1 = .ofMillis maxWord := by
  have hsecs : longest.baseDelay.toSecs < 2 ^ 64 := by decide +kernel
  exact ⟨hsecs, jitters hsecs 1, by decide +kernel⟩

end BackoffPolicy

end ContentClient
