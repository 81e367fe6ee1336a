import Gumstix.Synchronization.QuartzErrors
import Mathlib.Algebra.Order.BigOperators.Group.List
import Mathlib.Algebra.Order.Field.Basic
import Mathlib.Algebra.Order.Field.Rat
import Mathlib.Tactic.FieldSimp
import Mathlib.Tactic.Linarith
import Mathlib.Tactic.NormNum

/-!
# Value of the quartz error

The error of one second against the elapsed ticks, and the published error against the mean
of the table. Both are computed in 32-bit words whose signs the computations do not follow.
-/
namespace Gumstix.Synchronization
open RingLog

/-- The entry written last. -/
def appendedError (d : Driver) : Option Word :=
  d.ppsTimerErrorValueTable[d.lastUsedTimerErrorValueTableCase - 1]?

/-- The ticks of the capture timer from the last PPS to this one. -/
def elapsedTicks (d : Driver) (captureTimerValue : Word) : Int :=
  ((captureTimerValue.toNat : Int) - d.lastTimerValue.toNat) % 2 ^ 32

/-- The recorded error is the elapsed ticks less the clock rate, as is the count from which the
relay timer would be reloaded. -/
structure ErrorOfElapsed (d : Driver) (r : PpsReads) : Prop where
  value : (appendedError (computeAndAddQuartzError d r.captureTimerValue)).map BitVec.toInt =
    some ((elapsedTicks d r.captureTimerValue - d.ppsTimerInputClock.toNat).bmod (2 ^ 32))
  reload : appendedError (computeAndAddQuartzError d r.captureTimerValue) =
    some (-(launchRelayTimer d r).timerReloadValue - d.ppsTimerInputClock)

section second
variable {d : Driver}

theorem appendedError_valid (valid : quartzErrorValid d) (c : Word) :
    appendedError (computeAndAddQuartzError d c) = some (quartzError d c) := by
  have after := errorLog_after d c (computeAndAddQuartzError d c)
    (by rw [computeAndAddQuartzError_eq]) (by rw [computeAndAddQuartzError_eq])
  rw [if_pos valid] at after
  have last := d.errorLog.last_record (quartzError d c) (by decide)
  rwa [← after] at last

/-- The branch for an overflow counts one tick too few. -/
theorem quartzError_iff (c : Word) :
    quartzError d c = c - d.lastTimerValue - d.ppsTimerInputClock ↔ d.lastTimerValue ≤ c := by
  unfold quartzError
  split
  case isTrue overflow =>
    constructor
    · intro equal
      bv_omega
    · intro early
      bv_omega
  case isFalse same => exact iff_of_true rfl (BitVec.not_lt.mp same)

theorem elapsed_toInt (c : Word) :
    (c - d.lastTimerValue - d.ppsTimerInputClock).toInt =
      (elapsedTicks d c - d.ppsTimerInputClock.toNat).bmod (2 ^ 32) := by
  have elapsed : ((c - d.lastTimerValue).toNat : Int) = elapsedTicks d c := by
    unfold elapsedTicks
    have := c.isLt
    have := d.lastTimerValue.isLt
    rw [BitVec.toNat_sub]
    omega
  rw [BitVec.toInt_sub, BitVec.toInt_eq_toNat_bmod, BitVec.toInt_eq_toNat_bmod,
    Int.bmod_sub_bmod, Int.sub_bmod_bmod, elapsed]

theorem reload_elapsed (r : PpsReads) :
    -(launchRelayTimer d r).timerReloadValue = r.captureTimerValue - d.lastTimerValue := by
  change -((0xFFFFFFFF : Word) - (r.captureTimerValue - d.lastTimerValue - 1)) = _
  bv_omega

end second

/-- A recorded error is exact if and only if the capture timer has not overflowed since the
last PPS. -/
theorem errorOfElapsed_iff {d : Driver} (valid : quartzErrorValid d) (r : PpsReads) :
    ErrorOfElapsed d r ↔ d.lastTimerValue ≤ r.captureTimerValue := by
  rw [← quartzError_iff]
  constructor
  · intro measured
    have reload := measured.reload
    rw [appendedError_valid valid, reload_elapsed] at reload
    exact Option.some.inj reload
  · intro equal
    constructor
    · rw [appendedError_valid valid, equal, Option.map_some, elapsed_toInt]
    · rw [appendedError_valid valid, equal, reload_elapsed]

/-- A driver on 26 MHz timers with two valid records, whose last PPS was captured at `last`. -/
def suppliedSince (last : Word) : Driver :=
  { loaded26 with
    gpsOfficialData := fixRecord 0
    gpsTemporaryData := fixRecord 1
    dataSupplied := 1
    lastTimerValue := last }

theorem errorOfElapsed_iff_same_round :
    ErrorOfElapsed (suppliedSince 26000000) ⟨52000040, 52000000⟩ :=
  (errorOfElapsed_iff (by decide +kernel) _).mpr (by decide)

/-- A second of 26000000 ticks across the overflow is recorded as one tick short. -/
theorem errorOfElapsed_refuted :
    ¬ ∀ (d : Driver) (r : PpsReads), quartzErrorValid d → ErrorOfElapsed d r := by
  intro every
  have measured := every (suppliedSince 0xFFFFFFFF) ⟨26000039, 25999999⟩ (by decide +kernel)
  exact absurd measured.value (by decide +kernel)

/-- The signed sum of the table. -/
def errorSum (d : Driver) : Int := (d.ppsTimerErrorValueTable.toList.map BitVec.toInt).sum

/-- The mean error in parts per million of the clock rate. -/
def exactError (d : Driver) : ℚ :=
  1000000 * (errorSum d / quartzDriftNumber) / d.ppsTimerInputClock.toNat

/-- What two integer truncations can lose. -/
def truncationLoss (d : Driver) : ℚ := 1 + 1000000 / d.ppsTimerInputClock.toNat

/-- The published error is the exact one up to truncation, and has no opposite sign. -/
structure PublishedWithinTruncation (d : Driver) : Prop where
  near : |(d.averageTimerErrorValue.toInt : ℚ) - exactError d| ≤ truncationLoss d
  notNegative : truncationLoss d < exactError d → 0 ≤ d.averageTimerErrorValue.toInt
  notPositive : exactError d < -truncationLoss d → d.averageTimerErrorValue.toInt ≤ 0

/-- Every entry is at most 2000 ticks off. -/
def SmallErrors (d : Driver) : Prop :=
  ∀ j, ∀ bound : j < quartzDriftNumber, -2000 ≤ d.ppsTimerErrorValueTable[j].toInt ∧
    d.ppsTimerErrorValueTable[j].toInt ≤ 2000

/-- The errors do not sum up to a negative number, or the clock is so fast that the division
hides the sign that was lost. -/
def SignKept (d : Driver) : Prop :=
  0 ≤ errorSum d ∨ 2 ^ 32 < d.ppsTimerInputClock.toNat + 1000000 * ((15 - errorSum d) / 16) ∨
    (-16 ≤ errorSum d ∧ 2 ^ 32 < 2 * (d.ppsTimerInputClock.toNat : Int) + 1000000)

instance (d : Driver) : Decidable (SignKept d) := inferInstanceAs (Decidable (_ ∨ _ ∨ _ ∧ _))

section mean
variable {d : Driver}

theorem foldl_add_toInt (words : List Word) (start : Word) :
    words.foldl (· + ·) start = start + BitVec.ofInt 32 (words.map BitVec.toInt).sum := by
  induction words generalizing start with
  | nil => simp
  | cons w words ih =>
    rw [List.foldl_cons, ih, List.map_cons, List.sum_cons, BitVec.ofInt_add, BitVec.ofInt_toInt,
      BitVec.add_assoc]

theorem getAverageQuartzError_eq (d : Driver) :
    (getAverageQuartzError d).toNat = (errorSum d % 2 ^ 32).toNat / 16 := by
  unfold getAverageQuartzError errorSum
  rw [← Vector.foldl_toList, foldl_add_toInt]
  simp

theorem SmallErrors.sum_bounds (h : SmallErrors d) :
    -32000 ≤ errorSum d ∧ errorSum d ≤ 32000 := by
  have entries : ∀ e ∈ d.ppsTimerErrorValueTable.toList.map BitVec.toInt,
      -2000 ≤ e ∧ e ≤ 2000 := by
    intro e inTable
    obtain ⟨word, stored, rfl⟩ := List.mem_map.mp inTable
    obtain ⟨j, bound, rfl⟩ := Vector.getElem_of_mem (Vector.mem_toList_iff.mp stored)
    exact h j bound
  have length : (d.ppsTimerErrorValueTable.toList.map BitVec.toInt).length = 16 := by
    rw [List.length_map, Vector.length_toList]
  have low := List.card_nsmul_le_sum _ (-2000) fun e inTable => (entries e inTable).1
  have high := List.sum_le_card_nsmul _ 2000 fun e inTable => (entries e inTable).2
  rw [length] at low high
  exact ⟨low, high⟩

/-- The dividend of the published error: a sum below zero returns from the two unsigned
operations as `2 ^ 32` less the mean, rounded away from zero. -/
def dividend (sum : Int) : Nat :=
  if 0 ≤ sum then (sum / 16 * 1000000).toNat else (2 ^ 32 - (15 - sum) / 16 * 1000000).toNat

theorem average_mul_toNat (d : Driver) (low : -32000 ≤ errorSum d) (high : errorSum d ≤ 32000) :
    (getAverageQuartzError d * 1000000).toNat = dividend (errorSum d) := by
  rw [BitVec.toNat_mul, getAverageQuartzError_eq]
  change (errorSum d % 4294967296).toNat / 16 * 1000000 % 4294967296 = _
  unfold dividend
  split
  case isTrue nonnegative =>
    have residue : errorSum d % 4294967296 = errorSum d := by omega
    rw [residue]
    omega
  case isFalse negative =>
    have residue : errorSum d % 4294967296 = errorSum d + 4294967296 := by omega
    have mean : (errorSum d + 4294967296).toNat / 16 =
        268435456 - ((15 - errorSum d) / 16).toNat := by omega
    rw [residue, mean]
    omega

/-- The error published at a PPS in `STATE_Gps_Fixed`. -/
def Published (d : Driver) : Prop :=
  d.averageTimerErrorValue = getAverageQuartzError d * 1000000 / d.ppsTimerInputClock

theorem pps_published (fixed : d.driverCurrentState = .gpsFixed) (r : PpsReads) :
    Published (ppsTimerIrqHandler d r) := by
  change Published (ppsStateBranch d r)
  have measured : Published (gpsFixedMeasured d r) := rfl
  refine ppsStateBranch_cases d r ?_ ?_ ?_ ?_ ?_ ?_ ?_
  · intro hs; exact absurd (fixed.symm.trans hs) (by decide)
  · intro hs; exact absurd (fixed.symm.trans hs) (by decide)
  · intro _ _; exact measured
  · intro _; exact measured
  · intro _ _ _; exact measured
  · intro hs; exact absurd (fixed.symm.trans hs) (by decide)
  · intro hs; exact absurd (fixed.symm.trans hs) (by decide)

/-- The bound on the published error without its denominators. -/
theorem near_iff (published sum : Int) {clock : Int} (positive : 0 < clock) :
    |(published : ℚ) - 1000000 * (sum / (16 : Nat)) / clock| ≤ 1 + 1000000 / clock ↔
      |16 * (clock * published) - 1000000 * sum| ≤ 16 * (clock + 1000000) := by
  have cleared : (0 : ℚ) < clock := by exact_mod_cast positive
  have left : (published : ℚ) - 1000000 * (sum / (16 : Nat)) / clock =
      ((16 * (clock * published) - 1000000 * sum : Int) : ℚ) / (16 * clock) := by
    push_cast
    field_simp
  have right : (1 : ℚ) + 1000000 / clock =
      ((16 * (clock + 1000000) : Int) : ℚ) / (16 * clock) := by
    push_cast
    field_simp
  have denominator : (0 : ℚ) < 16 * clock := by linarith
  rw [left, right, abs_div, abs_of_pos denominator, div_le_div_iff_of_pos_right denominator]
  exact_mod_cast Iff.rfl

theorem mul_div_cases (x clock : Nat) (positive : 0 < clock) :
    clock * (x / clock) ≤ x ∧ x < clock * (x / clock) + clock ∧
      (clock * (x / clock) = 0 ∨ clock * (x / clock) = clock ∨
        2 * clock ≤ clock * (x / clock)) := by
  refine ⟨Nat.mul_div_le _ _, Nat.lt_mul_div_succ _ positive, ?_⟩
  rcases x / clock with _ | _ | q
  · exact .inl rfl
  · exact .inr (.inl (Nat.mul_one clock))
  · refine .inr (.inr ?_)
    rw [Nat.mul_comm 2]
    exact Nat.mul_le_mul_left clock (Nat.le_add_left 2 q)

theorem near_dividend_iff {sum : Int} {clock : Nat} (low : -32000 ≤ sum) (high : sum ≤ 32000)
    (fast : 1000000 ≤ clock) :
    |16 * ((clock : Int) * (dividend sum / clock : Nat)) - 1000000 * sum| ≤
        16 * ((clock : Int) + 1000000) ↔
      0 ≤ sum ∨ 2 ^ 32 < clock + 1000000 * ((15 - sum) / 16) ∨
        (-16 ≤ sum ∧ 2 ^ 32 < 2 * (clock : Int) + 1000000) := by
  obtain ⟨below, above, multiple⟩ := mul_div_cases (dividend sum) clock (by omega)
  rw [← Nat.cast_mul, abs_le]
  generalize clock * (dividend sum / clock) = ticks at below above multiple ⊢
  unfold dividend at below above
  by_cases nonnegative : 0 ≤ sum
  · rw [if_pos nonnegative] at below above
    refine iff_of_true ⟨?_, ?_⟩ (.inl nonnegative)
    · omega
    · omega
  · rw [if_neg nonnegative] at below above
    constructor
    · rintro ⟨-, near⟩
      omega
    · intro hidden
      omega

theorem Published.toInt_eq (h : Published d) (fast : 1000000 ≤ d.ppsTimerInputClock.toNat)
    (low : -32000 ≤ errorSum d) (high : errorSum d ≤ 32000) :
    d.averageTimerErrorValue.toInt =
      (dividend (errorSum d) / d.ppsTimerInputClock.toNat : Nat) := by
  have quotient : d.averageTimerErrorValue.toNat =
      dividend (errorSum d) / d.ppsTimerInputClock.toNat := by
    rw [h, BitVec.toNat_udiv, average_mul_toNat d low high]
  have word : dividend (errorSum d) < 2 ^ 32 := by
    rw [← average_mul_toNat d low high]
    exact (getAverageQuartzError d * 1000000).isLt
  have short : dividend (errorSum d) / d.ppsTimerInputClock.toNat < 2 ^ 31 := by
    have slower : dividend (errorSum d) / d.ppsTimerInputClock.toNat ≤
        dividend (errorSum d) / 1000000 := Nat.div_le_div_left fast (by decide)
    omega
  rw [BitVec.toInt_eq_toNat_of_lt (by omega), quotient]

theorem Published.near_iff_signKept (h : Published d)
    (fast : 1000000 ≤ d.ppsTimerInputClock.toNat) (small : SmallErrors d) :
    |(d.averageTimerErrorValue.toInt : ℚ) - exactError d| ≤ truncationLoss d ↔ SignKept d := by
  obtain ⟨low, high⟩ := small.sum_bounds
  have positive : (0 : Int) < d.ppsTimerInputClock.toNat := by omega
  have cleared := near_iff d.averageTimerErrorValue.toInt (errorSum d) positive
  rw [h.toInt_eq fast low high] at cleared ⊢
  exact cleared.trans (near_dividend_iff low high fast)

/-- The sign is a matter of the bound. -/
theorem publishedWithinTruncation_iff :
    PublishedWithinTruncation d ↔
      |(d.averageTimerErrorValue.toInt : ℚ) - exactError d| ≤ truncationLoss d := by
  constructor
  · exact PublishedWithinTruncation.near
  · intro near
    have bounds := abs_le.mp near
    refine ⟨near, ?_, ?_⟩
    · intro above
      have : (0 : ℚ) ≤ d.averageTimerErrorValue.toInt := by linarith [bounds.1]
      exact_mod_cast this
    · intro below
      have : (d.averageTimerErrorValue.toInt : ℚ) ≤ 0 := by linarith [bounds.2]
      exact_mod_cast this

end mean

/-- The error published in `STATE_Gps_Fixed` is right if and only if the sign of the mean
survives its unsigned division. -/
theorem published_error_iff {d : Driver} (fixed : d.driverCurrentState = .gpsFixed)
    (r : PpsReads) (fast : 1000000 ≤ d.ppsTimerInputClock.toNat)
    (small : SmallErrors (ppsTimerIrqHandler d r)) :
    PublishedWithinTruncation (ppsTimerIrqHandler d r) ↔ SignKept (ppsTimerIrqHandler d r) := by
  rw [publishedWithinTruncation_iff]
  apply (pps_published fixed r).near_iff_signKept _ small
  rw [(pps_settings d r).ppsClock]
  exact fast

/-- The driver after sixteen valid seconds of exactly 26000000 ticks. -/
def fixedDriver : Driver := driverMachine.run loaded26 fixedRun

set_option maxRecDepth 8000 in
theorem published_error_iff_fixedDriver :
    PublishedWithinTruncation (ppsTimerIrqHandler fixedDriver (edgeReads 17)) :=
  (published_error_iff (by decide +kernel) (edgeReads 17) (by decide +kernel)
    (by unfold SmallErrors; decide +kernel)).mpr (by decide +kernel)

/-- The PPS of second `k` on a timer that counts 16 ticks too few. -/
def slowReads (k : Nat) : PpsReads :=
  ⟨BitVec.ofNat 32 (25999984 * k + 40), BitVec.ofNat 32 (25999984 * k)⟩

/-- The driver after sixteen valid seconds of such a timer. -/
def slowDriver : Driver :=
  driverMachine.run loaded26 <| .pps (slowReads 0) ::
    (List.range 16).flatMap fun k => [supplyEvent (fixRecord k), .pps (slowReads (k + 1))]

set_option maxRecDepth 8000 in
/-- Sixteen ticks per second too few are published as 164 too many. -/
theorem published_error_refuted :
    ¬ ∀ (d : Driver) (r : PpsReads), d.driverCurrentState = .gpsFixed →
      1000000 ≤ d.ppsTimerInputClock.toNat → SmallErrors (ppsTimerIrqHandler d r) →
        PublishedWithinTruncation (ppsTimerIrqHandler d r) := by
  intro every
  have published := every slowDriver (slowReads 17) (by decide +kernel) (by decide +kernel)
    (by unfold SmallErrors; decide +kernel)
  have sum : errorSum (ppsTimerIrqHandler slowDriver (slowReads 17)) = -256 := by decide +kernel
  have average : (ppsTimerIrqHandler slowDriver (slowReads 17)).averageTimerErrorValue.toInt =
      164 := by decide +kernel
  have clock : (ppsTimerIrqHandler slowDriver (slowReads 17)).ppsTimerInputClock.toNat =
      26000000 := by decide +kernel
  have near := published.near
  rw [exactError, truncationLoss, sum, average, clock] at near
  norm_num [abs_le] at near

end Gumstix.Synchronization
