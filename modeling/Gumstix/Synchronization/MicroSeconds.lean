import Gumstix.Synchronization.Loading
import Gumstix.Synchronization.StateMachine

/-!
# Range of the microseconds

`ComputeMicroSecond` divides the elapsed ticks by the clock rate in whole megahertz. The rate
is what `clk_get_rate` gave, and neither timer configuration looks at it.
-/
namespace Gumstix.Synchronization
open Loading

/-- The part of a timer configuration that sets the clock rate: a missing clock is an error, the
rate of any other is taken. -/
def timerInputClock (error : Int) : Option Word → Except Int Word
  | none => .error (-error)
  | some rate => .ok rate

def ppsTimerClock : Option Word → Except Int Word :=
  timerInputClock errPpsTimerConfigurationTimerGetSrcClk

def relayTimerClock : Option Word → Except Int Word :=
  timerInputClock errRelayTimerConfigurationTimerGetSrcClk

/-- Less than a second of ticks is less than a million microseconds, whatever the counters. -/
structure MicroSecondsInRange (ppsClock relayClock : Word) : Prop where
  ppsDivisor : ppsClock / 1000000 ≠ 0
  relayDivisor : relayClock / 1000000 ≠ 0
  pps : ∀ (d : Driver) (c : Counters), d.ppsTimerInputClock = ppsClock →
    c.ppsCounter - d.lastTimerValue < ppsClock → computeMicroSecond d c captureTimerId ≤ 999999
  relay : ∀ (d : Driver) (c : Counters), d.relayTimerInputClock = relayClock →
    c.relayCounter - d.timerReloadValue < relayClock →
      computeMicroSecond d c relayTimerId ≤ 999999

def WholeMegahertz (clock : Word) : Prop := 0 < clock ∧ 1000000 ∣ clock.toNat

instance (clock : Word) : Decidable (WholeMegahertz clock) := inferInstanceAs (Decidable (_ ∧ _))

section range
variable {clock : Word}

theorem computeMicroSecond_capture (d : Driver) (c : Counters) :
    computeMicroSecond d c captureTimerId =
      (c.ppsCounter - d.lastTimerValue) / (d.ppsTimerInputClock / 1000000) := if_pos rfl

theorem computeMicroSecond_relay (d : Driver) (c : Counters) :
    computeMicroSecond d c relayTimerId =
      (c.relayCounter - d.timerReloadValue) / (d.relayTimerInputClock / 1000000) := by
  unfold computeMicroSecond
  rw [if_neg (by decide), if_pos rfl]

theorem microSeconds_le (elapsed : Word) :
    elapsed / (clock / 1000000) ≤ 999999 ↔ elapsed.toNat / (clock.toNat / 1000000) ≤ 999999 := by
  rw [BitVec.le_def, BitVec.toNat_udiv, BitVec.toNat_udiv]
  rfl

theorem WholeMegahertz.divisor (h : WholeMegahertz clock) : clock / 1000000 ≠ 0 := by
  obtain ⟨positive, megahertz, rate⟩ := h
  intro zero
  have quotient : clock.toNat / 1000000 = 0 := by
    have := congrArg BitVec.toNat zero
    rwa [BitVec.toNat_udiv] at this
  have : 0 < clock.toNat := positive
  omega

theorem WholeMegahertz.range (h : WholeMegahertz clock) {elapsed : Word}
    (less : elapsed < clock) : elapsed / (clock / 1000000) ≤ 999999 := by
  obtain ⟨positive, megahertz, rate⟩ := h
  have less : elapsed.toNat < clock.toNat := less
  rw [microSeconds_le, rate, Nat.mul_div_cancel_left _ (by decide)]
  apply Nat.le_of_lt_succ
  rw [Nat.div_lt_iff_lt_mul (by omega)]
  omega

/-- Otherwise the ticks of the last incomplete megahertz reach a million microseconds. -/
theorem wholeMegahertz_of_range (divisor : clock / 1000000 ≠ 0)
    (range : ∀ elapsed < clock, elapsed / (clock / 1000000) ≤ 999999) : WholeMegahertz clock := by
  have divisor : clock.toNat / 1000000 ≠ 0 := by
    intro zero
    apply divisor
    rw [← BitVec.toNat_inj, BitVec.toNat_udiv]
    exact zero
  constructor
  · rw [BitVec.lt_def]
    change 0 < clock.toNat
    omega
  · by_contra remainder
    have below := clock.isLt
    have million := range (BitVec.ofNat 32 (1000000 * (clock.toNat / 1000000)))
    rw [microSeconds_le, BitVec.lt_def, BitVec.toNat_ofNat, Nat.mod_eq_of_lt (by omega),
      Nat.mul_div_cancel _ (Nat.pos_of_ne_zero divisor)] at million
    have := million (by omega)
    omega

end range

/-- The configurations accept every clock rate, and the microseconds are in range if and only if
both rates are whole megahertz. -/
theorem microSecondsInRange_iff (ppsClock relayClock : Word) :
    ppsTimerClock (some ppsClock) = .ok ppsClock ∧
      relayTimerClock (some relayClock) = .ok relayClock ∧
      (MicroSecondsInRange ppsClock relayClock ↔
        WholeMegahertz ppsClock ∧ WholeMegahertz relayClock) := by
  refine ⟨rfl, rfl, ?_⟩
  constructor
  · intro range
    constructor
    · apply wholeMegahertz_of_range range.ppsDivisor
      intro elapsed less
      let d := synchronizationInitialize ppsClock relayClock
      have result := range.pps d ⟨elapsed, 0⟩ rfl
      have whole : elapsed - d.lastTimerValue = elapsed :=
        BitVec.sub_zero elapsed
      rw [computeMicroSecond_capture, whole] at result
      exact result less
    · apply wholeMegahertz_of_range range.relayDivisor
      intro elapsed less
      let d := synchronizationInitialize ppsClock relayClock
      have result := range.relay d ⟨0, elapsed⟩ rfl
      have whole : elapsed - d.timerReloadValue = elapsed :=
        BitVec.sub_zero elapsed
      rw [computeMicroSecond_relay, whole] at result
      exact result less
  · rintro ⟨pps, relay⟩
    refine ⟨pps.divisor, relay.divisor, ?_, ?_⟩
    · intro d c clock less
      rw [computeMicroSecond_capture, clock]
      exact pps.range less
    · intro d c clock less
      rw [computeMicroSecond_relay, clock]
      exact relay.range less

/-- At 19.2 MHz the last tick of a second is microsecond 1010526. -/
theorem microSecondsInRange_refuted :
    ¬ ∀ (ppsFclk relayFclk : Option Word) (ppsClock relayClock : Word),
      ppsTimerClock ppsFclk = .ok ppsClock → relayTimerClock relayFclk = .ok relayClock →
        MicroSecondsInRange ppsClock relayClock := by
  intro every
  have range := every (some 19200000) (some 19200000) 19200000 19200000 rfl rfl
  have last := range.pps (synchronizationInitialize 19200000 19200000) ⟨19199999, 0⟩ rfl
  exact absurd (last (by decide)) (by decide)

end Gumstix.Synchronization
