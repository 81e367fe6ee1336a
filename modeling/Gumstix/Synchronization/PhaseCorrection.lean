import Gumstix.Synchronization.StateMachine
import Mathlib.Tactic.Abel

/-!
# One-time phase correction

Once, when its static counter is 10, the relay handler rewrites the relay counter, so that the
next overflow falls 3 microseconds before a real PPS. Counters, captures and edges are placed on
one time line of ticks; what the handler reads of it is taken modulo `2 ^ 32`.
-/
namespace Gumstix.Synchronization

/-- The ticks between two relay overflows. -/
def relayPeriod (d : Driver) : Int := 2 ^ 32 - d.timerReloadValue.toNat

def threeMicroSeconds (d : Driver) : Int := 3 * (d.relayTimerInputClock.toNat / 1000000 : Nat)

/-- A relay overflow and the reads of its handler. Real PPS edges are one period apart; `edge` is
the nearest one, and `captured` the last one when the capture register is read. -/
structure RelayOverflow (d : Driver) where
  overflow : Int
  edge : Int
  captured : Int
  preemptRead : Int
  ppsRead : Int
  captureRead : Int
  correctionRead : Int
  /-- The capture timer's count at time 0. -/
  ppsOrigin : Word
  afterOverflow : overflow ≤ preemptRead
  inOrder : preemptRead ≤ ppsRead ∧ ppsRead ≤ captureRead ∧ captureRead ≤ correctionRead
  samePeriod : correctionRead < overflow + relayPeriod d
  nearest : 2 * |overflow - edge| < relayPeriod d
  capturedEdge : captured = edge ∨ overflow < edge ∧ captured = edge - relayPeriod d
  lastCaptured : captured ≤ captureRead ∧ captureRead < captured + relayPeriod d

namespace RelayOverflow
variable {d : Driver} (o : RelayOverflow d)

/-- The relay counter restarts from the reload value, the capture timer runs freely. -/
def reads : RelayReads where
  preemptTimerValue := d.timerReloadValue + BitVec.ofInt 32 (o.preemptRead - o.overflow)
  ppsTimerValue := o.ppsOrigin + BitVec.ofInt 32 o.ppsRead
  ppsCaptureValue := o.ppsOrigin + BitVec.ofInt 32 o.captured
  correctionTimerValue := d.timerReloadValue + BitVec.ofInt 32 (o.correctionRead - o.overflow)

/-- The ticks the correction is to leave. -/
def intended : Int := o.edge + relayPeriod d - o.correctionRead - threeMicroSeconds d

/-- The counter written leaves exactly the intended ticks until the next overflow. -/
def Corrected : Prop :=
  ∃ v, (relayTimerIrqHandler d o.reads).relayTimer.writtenCounter = some v ∧
    2 ^ 32 - (v.toNat : Int) = o.intended

/-- The phase measured is the one of the nearest edge: that edge has been captured and the two
counters were read at one tick, or the ticks between the reads make up for the period. -/
def PhaseMeasured : Prop :=
  o.captured = o.edge ∧ o.ppsRead = o.preemptRead ∨
    o.captured = o.edge - relayPeriod d ∧ o.ppsRead - o.preemptRead + relayPeriod d = 2 ^ 32

/-- The intended ticks can be set. -/
def Settable : Prop := 0 < o.intended ∧ o.intended ≤ 2 ^ 32

theorem writtenCounter (reached : d.relayHandlerCount = 10) (r : RelayReads) :
    (relayTimerIrqHandler d r).relayTimer.writtenCounter = some (relayCorrection d r) := by
  refine relay_cases d r ?_ ?_
  · intro _; exact if_pos reached
  · intro _; exact if_pos reached

/-- The overflow itself drops out of the correction. -/
theorem relayCorrection_eq : relayCorrection d o.reads =
    d.timerReloadValue + BitVec.ofInt 32 (o.correctionRead - o.captured +
      (o.ppsRead - o.preemptRead) + threeMicroSeconds d) := by
  have three : d.relayTimerInputClock / 1000000 * 3 = BitVec.ofInt 32 (threeMicroSeconds d) := by
    unfold threeMicroSeconds
    rw [Int.mul_comm, BitVec.ofInt_mul, BitVec.ofInt_natCast]
    congr 1
    rw [← BitVec.toNat_inj, BitVec.toNat_udiv, BitVec.toNat_ofNat]
    exact (Nat.mod_eq_of_lt ((Nat.div_le_self _ _).trans_lt d.relayTimerInputClock.isLt)).symm
  unfold relayCorrection reads
  dsimp only
  rw [three]
  simp only [Int.sub_eq_add_neg, BitVec.ofInt_add, BitVec.ofInt_neg]
  abel

theorem relayCorrection_toNat : ((relayCorrection d o.reads).toNat : Int) =
    (o.correctionRead - o.captured + (o.ppsRead - o.preemptRead) + threeMicroSeconds d -
      relayPeriod d) % 2 ^ 32 := by
  rw [relayCorrection_eq, BitVec.toNat_add, BitVec.toNat_ofInt]
  unfold relayPeriod
  omega

theorem corrected_iff (reached : d.relayHandlerCount = 10) :
    o.Corrected ↔ 2 ^ 32 - ((relayCorrection d o.reads).toNat : Int) = o.intended := by
  unfold Corrected
  rw [writtenCounter reached]
  simp

end RelayOverflow

/-- A counter leaves an intended number of ticks despite an error of less than two rounds. -/
theorem leaves_intended_iff {error intended : Int} (nonnegative : 0 ≤ error)
    (less : error < 2 * 2 ^ 32) :
    2 ^ 32 - (error - intended) % 2 ^ 32 = intended ↔
      (error = 0 ∨ error = 2 ^ 32) ∧ 0 < intended ∧ intended ≤ 2 ^ 32 := by omega

/-- The correction is exact if and only if the phase it measures is the one of the nearest edge,
and the intended ticks are a positive number of at most 32 bits. -/
theorem phase_corrected_iff {d : Driver} (reached : d.relayHandlerCount = 10)
    (o : RelayOverflow d) : o.Corrected ↔ o.PhaseMeasured ∧ o.Settable := by
  have positive : 0 < relayPeriod d := by
    have := d.timerReloadValue.isLt
    unfold relayPeriod
    omega
  have short : relayPeriod d ≤ 2 ^ 32 := Int.sub_le_self _ (Int.natCast_nonneg _)
  have after := o.afterOverflow
  have inPeriod := o.samePeriod
  obtain ⟨first, second, third⟩ := o.inOrder
  -- the edge that was captured instead of the nearest, and the ticks between the two reads
  have error : o.correctionRead - o.captured + (o.ppsRead - o.preemptRead) + threeMicroSeconds d -
      relayPeriod d = o.edge - o.captured + (o.ppsRead - o.preemptRead) - o.intended := by
    unfold RelayOverflow.intended
    omega
  have before : o.captured = o.edge ∨ o.captured = o.edge - relayPeriod d :=
    o.capturedEdge.imp_right And.right
  have measured : o.PhaseMeasured ↔ o.edge - o.captured + (o.ppsRead - o.preemptRead) = 0 ∨
      o.edge - o.captured + (o.ppsRead - o.preemptRead) = 2 ^ 32 := by
    unfold RelayOverflow.PhaseMeasured
    omega
  rw [o.corrected_iff reached, o.relayCorrection_toNat, error, measured]
  apply leaves_intended_iff
  · omega
  · omega

/-- The driver when the relay overflow that corrects the phase is handled. -/
def correcting : Driver :=
  driverMachine.run switchedOff
    (List.replicate 10 (.relay ⟨0xFE7345C0, 468000040, 468000000, 0xFE7345C0⟩))

set_option maxRecDepth 8000 in
theorem correcting_reached : correcting.relayHandlerCount = 10 := by decide +kernel

set_option maxRecDepth 8000 in
theorem correcting_period : relayPeriod correcting = 26000000 := by decide +kernel

/-- An overflow 100 ticks after the edge, whose handler reads both counters at one tick. -/
def lateOverflow : RelayOverflow correcting where
  overflow := 100
  edge := 0
  captured := 0
  preemptRead := 110
  ppsRead := 110
  captureRead := 112
  correctionRead := 120
  ppsOrigin := 468000000
  afterOverflow := by decide
  inOrder := by decide
  samePeriod := by rw [correcting_period]; decide
  nearest := by rw [correcting_period]; decide
  capturedEdge := .inl rfl
  lastCaptured := by rw [correcting_period]; decide

/-- An overflow 100 ticks before the edge, whose handler has read everything before the edge. -/
def earlyOverflow : RelayOverflow correcting where
  overflow := -100
  edge := 0
  captured := -26000000
  preemptRead := -90
  ppsRead := -90
  captureRead := -88
  correctionRead := -80
  ppsOrigin := 468000000
  afterOverflow := by decide
  inOrder := by decide
  samePeriod := by rw [correcting_period]; decide
  nearest := by rw [correcting_period]; decide
  capturedEdge := by rw [correcting_period]; decide
  lastCaptured := by rw [correcting_period]; decide

set_option maxRecDepth 8000 in
theorem phase_corrected_iff_lateOverflow : lateOverflow.Corrected :=
  (phase_corrected_iff correcting_reached lateOverflow).mpr
    ⟨.inl ⟨rfl, rfl⟩, by decide +kernel, by decide +kernel⟩

set_option maxRecDepth 8000 in
/-- After an early overflow the next one follows 2 ticks later. -/
theorem phase_corrected_refuted :
    ¬ ∀ d : Driver, d.relayHandlerCount = 10 → ∀ o : RelayOverflow d, o.Corrected := by
  intro every
  have corrected := every correcting correcting_reached earlyOverflow
  rw [earlyOverflow.corrected_iff correcting_reached] at corrected
  exact absurd corrected (by decide +kernel)

end Gumstix.Synchronization
