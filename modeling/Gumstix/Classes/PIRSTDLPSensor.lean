import Gumstix.Synchronization.State
import Mathlib.Algebra.Order.AbsoluteValue.Basic
import Mathlib.Data.Rat.Cast.Order
import Mathlib.Logic.Function.Basic
import Mathlib.Tactic.Linarith
import Mathlib.Tactic.Positivity

/-!
# Presence rates

`Presencerate` reads the sensor once a second into an array of 30 samples, in a loop that runs 31
times, and counts the samples that are 0 in another such loop.
-/
namespace Gumstix.Classes.PIRSTDLPSensor
open Gumstix.Synchronization (Word)

/-- The length of `mesures`. -/
def mesuresLength : Nat := 30

/-- The bound of both loops. -/
def sampleCount : Nat := 31

/-- The stack from the start of `mesures` on, and the indices that have been stored to. -/
structure Frame where
  mesures : Nat → Word
  stored : List Nat

def Frame.store (s : Frame) (i : Nat) (value : Word) : Frame :=
  ⟨Function.update s.mesures i value, s.stored ++ [i]⟩

/-- The first loop, with the results of `CGPIO::Read`. -/
def acquireLoop (value : Nat → Word) (s : Frame) : Nat → Frame
  | 0 => s
  | i + 1 => (acquireLoop value s i).store i (value i)

/-- What the second loop finds: `behind` says what a word that is not in the array holds by then. -/
def readBack (behind : Word → Word) (mesures : Nat → Word) (j : Nat) : Word :=
  if j < mesuresLength then mesures j else behind (mesures j)

/-- The second loop. -/
def countLoop (mesures : Nat → Word) : Nat → Nat
  | 0 => 0
  | j + 1 => countLoop mesures j + if mesures j = 0 then 1 else 0

section rate
variable (round : ℚ → ℚ) (behind : Word → Word) (value : Nat → Word) (s : Frame)

/-- The samples that count. -/
def presenceCount : Nat :=
  countLoop (readBack behind (acquireLoop value s sampleCount).mesures) sampleCount

/-- `Presencerate`. `round` is the rounding of a quotient to a `double`; the counts are exact. -/
def presencerate : ℚ := round ((presenceCount behind value s : ℚ) * 100 / 30)

/-- The number of zero samples. -/
def zeroSamples : Nat := (List.range sampleCount).countP fun i => value i = 0

/-- All samples go into the array, and the rate is that of the zero samples. -/
structure PresenceRateRight : Prop where
  inside : ∀ i ∈ (acquireLoop value s sampleCount).stored, i < mesuresLength
  exact : presencerate round behind value s = round (100 * zeroSamples value / sampleCount)
  percentage : 0 ≤ presencerate round behind value s ∧ presencerate round behind value s ≤ 100

end rate

section loops
variable (value : Nat → Word) (s : Frame)

theorem acquireLoop_mesures (n j : Nat) :
    (acquireLoop value s n).mesures j = if j < n then value j else s.mesures j := by
  induction n with
  | zero => rfl
  | succ n ih =>
      change Function.update (acquireLoop value s n).mesures n (value n) j = _
      by_cases last : j = n
      · subst last
        rw [Function.update_self, if_pos (Nat.lt_succ_self j)]
      · have earlier : j < n + 1 ↔ j < n := by omega
        rw [Function.update_of_ne last, ih]
        simp only [earlier]

theorem acquireLoop_stored (n : Nat) :
    (acquireLoop value s n).stored = s.stored ++ List.range n := by
  induction n with
  | zero => exact (List.append_nil _).symm
  | succ n ih =>
      change (acquireLoop value s n).stored ++ [n] = _
      rw [ih, List.append_assoc, List.range_succ]

theorem countLoop_eq (mesures : Nat → Word) (n : Nat) :
    countLoop mesures n = (List.range n).countP fun i => mesures i = 0 := by
  induction n with
  | zero => rfl
  | succ n ih =>
      rw [countLoop, ih, List.range_succ, List.countP_append, List.countP_singleton]
      simp only [decide_eq_true_eq]

/-- What was on the stack before does not count, nor do results of later reads. -/
theorem presencerate_congr (round : ℚ → ℚ) (behind : Word → Word) {value value' : Nat → Word}
    (same : ∀ i < sampleCount, value i = value' i) (s s' : Frame) :
    presencerate round behind value s = presencerate round behind value' s' := by
  have count : presenceCount behind value s = presenceCount behind value' s' := by
    rw [presenceCount, presenceCount, countLoop_eq, countLoop_eq]
    refine List.countP_congr fun i inRange => ?_
    have before := List.mem_range.mp inRange
    rw [readBack, readBack, acquireLoop_mesures, acquireLoop_mesures, if_pos before,
      if_pos before, same i before]
  rw [presencerate, presencerate, count]

/-- The last sample is stored behind the array. -/
theorem stored_behind : mesuresLength ∈ (acquireLoop value s sampleCount).stored := by
  rw [acquireLoop_stored]
  exact List.mem_append_right _ (List.mem_range.mpr (by decide))

/-- If the word behind the array keeps its value, the zero samples count. -/
theorem presenceCount_of_kept : presenceCount id value s = zeroSamples value := by
  rw [presenceCount, countLoop_eq, zeroSamples]
  refine List.countP_congr fun i inRange => ?_
  have read : readBack id (acquireLoop value s sampleCount).mesures i = value i := by
    rw [readBack, id, ite_self, acquireLoop_mesures, if_pos (List.mem_range.mp inRange)]
  rw [read]

end loops

/-- The samples of no call are all stored in the array. -/
theorem presencerate_never_right (round : ℚ → ℚ) (behind : Word → Word) (value : Nat → Word)
    (s : Frame) : ¬ PresenceRateRight round behind value s :=
  fun right => absurd (right.inside _ (stored_behind value s)) (lt_irrefl _)

/-- The rounding of a `double` is off by the 53rd binary digit. -/
def RoundsTo53 (round : ℚ → ℚ) : Prop := ∀ q, |round q - q| ≤ |q| / 2 ^ 53

/-- Even where the word behind the array keeps its value the rate is right for a room that is
empty all the time only: the divisor is 30 and the samples are 31. -/
theorem presencerate_exact_iff {round : ℚ → ℚ} (rounds : RoundsTo53 round) (value : Nat → Word)
    (s : Frame) :
    presencerate round id value s = round (100 * zeroSamples value / sampleCount) ↔
      zeroSamples value = 0 := by
  have samples : ((sampleCount : Nat) : ℚ) = 31 := rfl
  rw [presencerate, presenceCount_of_kept, samples]
  generalize zeroSamples value = n
  constructor
  · intro same
    have nonnegative : (0 : ℚ) ≤ n := Nat.cast_nonneg n
    have divided := rounds ((n : ℚ) * 100 / 30)
    have wanted := rounds (100 * (n : ℚ) / 31)
    rw [same, abs_of_nonneg (by positivity : (0 : ℚ) ≤ n * 100 / 30), abs_le] at divided
    rw [abs_of_nonneg (by positivity : (0 : ℚ) ≤ 100 * n / 31), abs_le] at wanted
    have zero : (n : ℚ) ≤ 0 := by linarith
    exact Nat.le_zero.mp (by exact_mod_cast zero)
  · rintro rfl
    norm_num

/-- A room that is occupied all the time has more than 100 percent. -/
theorem presencerate_occupied {round : ℚ → ℚ} (rounds : RoundsTo53 round) {value : Nat → Word}
    (s : Frame) (occupied : zeroSamples value = sampleCount) :
    100 < presencerate round id value s := by
  have samples : ((sampleCount : Nat) : ℚ) = 31 := rfl
  rw [presencerate, presenceCount_of_kept, occupied, samples]
  have near := abs_le.mp (rounds (31 * 100 / 30))
  rw [abs_of_nonneg (by norm_num)] at near
  linarith

theorem presence_rate_refuted :
    ¬ ∀ (round : ℚ → ℚ) (behind : Word → Word) (value : Nat → Word) (s : Frame),
      PresenceRateRight round behind value s := by
  intro every
  have right := every id id (fun _ => 0) ⟨fun _ => 0, []⟩
  exact absurd (right.inside 30 (stored_behind _ _)) (by decide)

end Gumstix.Classes.PIRSTDLPSensor
