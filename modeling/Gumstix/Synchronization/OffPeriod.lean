import Gumstix.Synchronization.StateMachine

/-!
# The off period

The relay timer replaces the PPS while the GPS is off. First the second at which the two
interrupts meet, then the countdown of relay overflows that ends the period.
-/
namespace Gumstix.Synchronization
open EventMachine

def ppsThenRelay (d : Driver) (p : PpsReads) (r : RelayReads) : Driver :=
  relayTimerIrqHandler (ppsTimerIrqHandler d p) r

def relayThenPps (d : Driver) (r : RelayReads) (p : PpsReads) : Driver :=
  ppsTimerIrqHandler (relayTimerIrqHandler d r) p

/-- The two interrupts of one second, handled from `d` in the two orders with the results
`a` and `b`, advance the clock by that second and agree on the rest. -/
structure SecondHandledOnce (d a b : Driver) : Prop where
  seconds : a.gpsOfficialData.timeInSeconds = d.gpsOfficialData.timeInSeconds + 1
  sameSeconds : b.gpsOfficialData.timeInSeconds = a.gpsOfficialData.timeInSeconds
  sameLeftTime : b.relayTimerLeftTime = a.relayTimerLeftTime
  sameState : b.driverCurrentState = a.driverCurrentState

section handover
variable {d : Driver}

/-- The PPS counts the second and enters `STATE_Gps_Off`, where the overflow of the same
second counts it again. -/
theorem ppsThenRelay_switch (hs : d.driverCurrentState = .switchGpsToOff) (p : PpsReads)
    (r : RelayReads) :
    (ppsThenRelay d p r).gpsOfficialData.timeInSeconds =
        d.gpsOfficialData.timeInSeconds + 2 ∧
      (ppsThenRelay d p r).relayTimerLeftTime = d.relayTimerLeftTime - 1 ∧
      (ppsThenRelay d p r).driverCurrentState = .gpsOff := by
  have state : (ppsTimerIrqHandler d p).driverCurrentState = .gpsOff := by
    rw [pps_driverCurrentState, ppsNextState, hs]
  have left : (ppsTimerIrqHandler d p).relayTimerLeftTime = d.relayTimerLeftTime := by
    rw [pps_relayTimerLeftTime, if_neg (by simp [Launches, hs])]
  have seconds : (ppsTimerIrqHandler d p).gpsOfficialData.timeInSeconds =
      d.gpsOfficialData.timeInSeconds + 1 := by
    rw [pps_gpsOfficialData, hs]
    rfl
  obtain ⟨clock, countdown, -⟩ := relay_off (ppsTimerIrqHandler d p) r state
  refine ⟨?_, ?_, ?_⟩
  · rw [ppsThenRelay, clock, secondIncrements, seconds, BitVec.add_assoc]
    rfl
  · rw [ppsThenRelay, countdown, left]
  · rw [ppsThenRelay, relay_driverCurrentState, state]

theorem relayThenPps_switch (hs : d.driverCurrentState = .switchGpsToOff) (r : RelayReads)
    (p : PpsReads) :
    (relayThenPps d r p).gpsOfficialData.timeInSeconds =
        d.gpsOfficialData.timeInSeconds + 1 ∧
      (relayThenPps d r p).relayTimerLeftTime = d.relayTimerLeftTime ∧
      (relayThenPps d r p).driverCurrentState = .gpsOff := by
  have state : (relayTimerIrqHandler d r).driverCurrentState = .switchGpsToOff := by
    rw [relay_driverCurrentState, hs]
  obtain ⟨clock, countdown, -⟩ := relay_quiet d r (by rw [hs]; decide)
  refine ⟨?_, ?_, ?_⟩
  · rw [relayThenPps, pps_gpsOfficialData, state]
    simp only [secondIncrements, clock]
  · rw [relayThenPps, pps_relayTimerLeftTime, if_neg (by simp [Launches, hs]), countdown]
  · rw [relayThenPps, pps_driverCurrentState, ppsNextState, state]

theorem not_secondHandledOnce (hs : d.driverCurrentState = .switchGpsToOff) (p : PpsReads)
    (r : RelayReads) (b : Driver) : ¬ SecondHandledOnce d (ppsThenRelay d p r) b := by
  intro once
  have twice := once.seconds
  rw [(ppsThenRelay_switch hs p r).1, BitVec.add_right_inj] at twice
  exact absurd twice (by decide)

end handover

/-- In every state right after the launch, PPS before overflow advances the clock by two
seconds and the countdown by one, overflow before PPS the clock by one and the countdown
by none: the two orders never handle the second as one. -/
theorem handover_counts_second_twice {d : Driver}
    (hs : d.driverCurrentState = .switchGpsToOff) (p p' : PpsReads) (r r' : RelayReads) :
    (ppsThenRelay d p r).gpsOfficialData.timeInSeconds =
        d.gpsOfficialData.timeInSeconds + 2 ∧
      (relayThenPps d r' p').gpsOfficialData.timeInSeconds =
        d.gpsOfficialData.timeInSeconds + 1 ∧
      (ppsThenRelay d p r).relayTimerLeftTime = d.relayTimerLeftTime - 1 ∧
      (relayThenPps d r' p').relayTimerLeftTime = d.relayTimerLeftTime ∧
      ¬ SecondHandledOnce d (ppsThenRelay d p r) (relayThenPps d r' p') := by
  obtain ⟨twice, less, -⟩ := ppsThenRelay_switch hs p r
  obtain ⟨once, same, -⟩ := relayThenPps_switch hs r' p'
  exact ⟨twice, once, less, same, not_secondHandledOnce hs p r _⟩

/-- The reads of the overflow one second after the launch. -/
def overflowReads : RelayReads := ⟨0xFE7345C0, 468000040, 468000000, 0xFE7345C0⟩

theorem handover_counts_second_twice_launched :
    ¬ SecondHandledOnce launched
      (ppsThenRelay launched ⟨468000040, 468000000⟩ overflowReads)
      (relayThenPps launched overflowReads ⟨468000040, 468000000⟩) :=
  (handover_counts_second_twice launched_state _ _ _ _).2.2.2.2

theorem second_handled_once_refuted :
    ¬ ∀ (ppsClock relayClock : Word) (d : Driver), Reachable ppsClock relayClock d →
      d.driverCurrentState = .switchGpsToOff → ∀ (p : PpsReads) (r : RelayReads),
        SecondHandledOnce d (ppsThenRelay d p r) (relayThenPps d r p) := fun every =>
  not_secondHandledOnce launched_state ⟨468000040, 468000000⟩ overflowReads _
    (every _ _ launched launched_reachable launched_state _ _)

/-- What an observer knows of the off period: the minutes in force when the relay timer
was launched, and the overflows handled in `STATE_Gps_Off` since. -/
structure OffPeriod where
  minutes : Nat
  overflows : Nat
  deriving DecidableEq, Repr

def watchOffPeriod (d : Driver) (e : Event) (o : OffPeriod) : OffPeriod :=
  match e with
  | .pps _ => if Launches d then ⟨d.gpsTimeToOff.toNat / 60, 0⟩ else o
  | .relay _ =>
      if d.driverCurrentState = .gpsOff then { o with overflows := o.overflows + 1 } else o
  | .ioctl _ _ _ => o

def offPeriodMachine : EventMachine (Driver × OffPeriod) Event :=
  driverMachine.observe watchOffPeriod

/-- The GPS is on again from overflow `60 * T` on (from the first if `T = 0`), not
earlier, and the countdown has not wrapped. -/
structure CountdownRight (s : Driver × OffPeriod) : Prop where
  bound : s.1.relayTimerLeftTime.toNat ≤ 60 * gpsMaximumOffTime.toNat
  power : s.1.driverCurrentState = .gpsOff →
    (s.1.gpsStatus = 1 ↔ max (60 * s.2.minutes) 1 ≤ s.2.overflows)

/-- The event is not an overflow in `STATE_Gps_Off` after overflow number `60 * T`. -/
def WithinOffTime (s : Driver × OffPeriod) : Event → Prop
  | .relay _ => s.1.driverCurrentState = .gpsOff → s.2.overflows < 60 * s.2.minutes
  | .pps _ | .ioctl _ _ _ => True

instance (s : Driver × OffPeriod) : (e : Event) → Decidable (WithinOffTime s e)
  | .relay _ => inferInstanceAs (Decidable (_ → _))
  | .pps _ => .isTrue trivial
  | .ioctl _ _ _ => .isTrue trivial

/-- The off time in force is a whole number of minutes within the maximum. -/
def SettingAllowed (d : Driver) : Prop :=
  d.gpsTimeToOff.toNat = 60 * (d.gpsTimeToOff.toNat / 60) ∧
    d.gpsTimeToOff.toNat ≤ 60 * gpsMaximumOffTime.toNat

theorem settingAllowed_minutes {d : Driver} {arg : Word} (small : arg ≤ gpsMaximumOffTime) :
    SettingAllowed { d with gpsTimeToOff := arg * 60 } := by
  have small' : arg.toNat ≤ 60 := small
  have product : (arg * 60).toNat = 60 * arg.toNat := by bv_omega
  change (arg * 60).toNat = 60 * ((arg * 60).toNat / 60) ∧ (arg * 60).toNat ≤ 60 * 60
  rw [product]
  omega

theorem ioctl_settingAllowed {d : Driver} (cmd arg : Word) (u : UserAccess) (h : SettingAllowed d) :
    SettingAllowed (synchronizationIoctl d cmd arg u).driver :=
  ioctl_cases d cmd arg u h (fun _ _ _ => h) (fun _ => h) (fun _ => h)
    fun _ small => settingAllowed_minutes small

/-- The induction invariant: left time and handled overflows add up to the off time. -/
structure Counting (s : Driver × OffPeriod) : Prop where
  consistent : Consistent s.1
  setting : SettingAllowed s.1
  right : CountdownRight s
  fresh : s.1.driverCurrentState = .switchGpsToOff → s.2.overflows = 0
  total : s.1.driverCurrentState = .switchGpsToOff ∨ s.1.driverCurrentState = .gpsOff →
    s.1.relayTimerLeftTime.toNat + s.2.overflows = 60 * s.2.minutes

theorem initialize_counting (ppsClock relayClock : Word) :
    Counting (synchronizationInitialize ppsClock relayClock, ⟨0, 0⟩) where
  consistent := initialize_consistent ppsClock relayClock
  setting := by simp [SettingAllowed, synchronizationInitialize]
  right := by constructor <;> simp [synchronizationInitialize]
  fresh := by simp [synchronizationInitialize]
  total := by simp [synchronizationInitialize]

theorem Counting.transport {d d' : Driver} {o : OffPeriod} (h : Counting (d, o))
    (setting : SettingAllowed d') (state : d'.driverCurrentState = d.driverCurrentState)
    (left : d'.relayTimerLeftTime = d.relayTimerLeftTime) (gps : d'.gpsStatus = d.gpsStatus)
    (consistent : Consistent d') : Counting (d', o) where
  consistent := consistent
  setting := setting
  right := ⟨left ▸ h.right.bound, by rw [state, gps]; exact h.right.power⟩
  fresh := by rw [state]; exact h.fresh
  total := by rw [state, left]; exact h.total

theorem Counting.outside {d : Driver} {o : OffPeriod} (consistent : Consistent d)
    (setting : SettingAllowed d)
    (bound : d.relayTimerLeftTime.toNat ≤ 60 * gpsMaximumOffTime.toNat)
    (hs : d.driverCurrentState ≠ .switchGpsToOff) (ho : d.driverCurrentState ≠ .gpsOff) :
    Counting (d, o) where
  consistent := consistent
  setting := setting
  right := ⟨bound, fun off => absurd off ho⟩
  fresh switch := absurd switch hs
  total running := running.elim (fun h => absurd h hs) (fun h => absurd h ho)

theorem pps_counting {d : Driver} {o : OffPeriod} (r : PpsReads) (h : Counting (d, o)) :
    Counting (ppsTimerIrqHandler d r, watchOffPeriod d (.pps r) o) := by
  have state := pps_driverCurrentState d r
  have left := pps_relayTimerLeftTime d r
  have gps := pps_gpsStatus d r
  have consistent := pps_consistent r h.consistent
  have setting : SettingAllowed (ppsTimerIrqHandler d r) := by
    simpa only [SettingAllowed, (pps_settings d r).offTime] using h.setting
  have bound : (ppsTimerIrqHandler d r).relayTimerLeftTime.toNat ≤
      60 * gpsMaximumOffTime.toNat := by
    rw [left]
    split
    · exact h.setting.2
    · exact h.right.bound
  by_cases launch : Launches d
  · rw [ppsNextState_switch.mpr launch] at state
    rw [if_pos (.inr launch)] at left
    simp only [watchOffPeriod, if_pos launch]
    refine ⟨consistent, setting, ⟨bound, fun off => ?_⟩, fun _ => rfl, fun _ => ?_⟩
    · exact absurd (state.symm.trans off) (by decide)
    · rw [left]
      exact h.setting.1
  · simp only [watchOffPeriod, if_neg launch]
    by_cases hs : d.driverCurrentState = .switchGpsToOff
    · simp only [hs] at gps
      rw [ppsNextState, hs] at state
      rw [if_neg (by simp [hs, launch])] at left
      have total := h.total (.inl hs)
      have fresh := h.fresh hs
      refine ⟨consistent, setting, ⟨bound, fun _ => ?_⟩, fun _ => fresh, fun _ => ?_⟩
      · -- The GPS has just been switched off and no overflow has been counted yet.
        simp only at fresh
        rw [gps, fresh]
        simp
      · rw [left]
        exact total
    · by_cases ho : d.driverCurrentState = .gpsOff
      · simp only [ho] at gps
        rw [ppsNextState, ho] at state
        rw [if_neg (by simp [ho, launch])] at left
        exact h.transport setting (state.trans ho.symm) left gps consistent
      · apply Counting.outside consistent setting bound
        · rw [state]
          exact mt ppsNextState_switch.mp launch
        · rw [state]
          exact mt ppsNextState_off.mp (not_or.mpr ⟨hs, ho⟩)

theorem relay_counting {d : Driver} {o : OffPeriod} (r : RelayReads) (h : Counting (d, o))
    (within : WithinOffTime (d, o) (.relay r)) :
    Counting (relayTimerIrqHandler d r, watchOffPeriod d (.relay r) o) := by
  have state := relay_driverCurrentState d r
  have consistent := relay_consistent r h.consistent
  have setting : SettingAllowed (relayTimerIrqHandler d r) := by
    simpa only [SettingAllowed, (relay_settings d r).offTime] using h.setting
  by_cases ho : d.driverCurrentState = .gpsOff
  · obtain ⟨-, countdown, gps⟩ := relay_off d r ho
    have total : d.relayTimerLeftTime.toNat + o.overflows = 60 * o.minutes := h.total (.inr ho)
    have less : o.overflows < 60 * o.minutes := within ho
    have left : (relayTimerIrqHandler d r).relayTimerLeftTime.toNat =
        d.relayTimerLeftTime.toNat - 1 := by
      rw [countdown]
      bv_omega
    have bound := h.right.bound
    have power := h.right.power ho
    simp only [watchOffPeriod, if_pos ho]
    refine ⟨consistent, setting, ⟨?_, fun _ => ?_⟩, fun switch => ?_, fun _ => ?_⟩
    · rw [left]
      exact (Nat.sub_le _ _).trans bound
    · rw [gps]
      have expired : 0 < d.relayTimerLeftTime - 1 ↔ o.overflows + 1 < 60 * o.minutes := by
        bv_omega
      by_cases more : o.overflows + 1 < 60 * o.minutes
      · rw [if_pos (expired.mpr more), power]
        simp only
        omega
      · rw [if_neg (mt expired.mp more)]
        simp only [true_iff]
        omega
    · exact absurd (ho.symm.trans (state.symm.trans switch)) (by decide)
    · rw [left]
      change d.relayTimerLeftTime.toNat - 1 + (o.overflows + 1) = 60 * o.minutes
      omega
  · obtain ⟨-, left, gps⟩ := relay_quiet d r ho
    simp only [watchOffPeriod, if_neg ho]
    exact h.transport setting state left gps consistent

theorem ioctl_counting {d : Driver} {o : OffPeriod} (cmd arg : Word) (u : UserAccess)
    (h : Counting (d, o)) : Counting ((synchronizationIoctl d cmd arg u).driver, o) := by
  have same := ioctl_sameRun d cmd arg u
  exact h.transport (ioctl_settingAllowed cmd arg u h.setting) same.state same.left same.gps
    (ioctl_consistent cmd arg u h.consistent)

theorem next_counting (s : Driver × OffPeriod) (e : Event) (h : Counting s)
    (within : WithinOffTime s e) : Counting (offPeriodMachine.next s e) := by
  cases e with
  | pps r => exact pps_counting r h
  | relay r => exact relay_counting r h within
  | ioctl cmd arg u => exact ioctl_counting cmd arg u h

/-- Past the end of the off time the countdown wraps. -/
theorem within_of_bound (s : Driver × OffPeriod) (e : Event) (h : Counting s)
    (right : CountdownRight (offPeriodMachine.next s e)) : WithinOffTime s e := by
  cases e with
  | pps r => exact trivial
  | ioctl cmd arg u => exact trivial
  | relay r =>
      intro ho
      by_contra late
      have total := h.total (.inr ho)
      have wrapped : s.1.relayTimerLeftTime = 0 := by bv_omega
      have bound : (relayTimerIrqHandler s.1 r).relayTimerLeftTime.toNat ≤ _ := right.bound
      rw [(relay_off s.1 r ho).2.1, wrapped] at bound
      exact absurd bound (by decide)

/-- Along every run after the load the countdown is right exactly if no overflow is
handled in `STATE_Gps_Off` after number `60 * T`, where `T` is the off time in force at
the launch. -/
theorem countdown_right_iff {ppsClock relayClock : Word} {es : List Event}
    (h : driverMachine.Admits (synchronizationInitialize ppsClock relayClock) es) :
    offPeriodMachine.Always CountdownRight
        (synchronizationInitialize ppsClock relayClock, ⟨0, 0⟩) es ↔
      offPeriodMachine.EveryStep WithinOffTime
        (synchronizationInitialize ppsClock relayClock, ⟨0, 0⟩) es :=
  always_iff_everyStep (fun _ counting => counting.right)
    (fun s e hs _ within => next_counting s e hs within)
    (fun s e hs _ right => within_of_bound s e hs right)
    (initialize_counting ppsClock relayClock) ((observe_admits _ _ es).mpr h)

/-- Two seconds after the launch, the second of them counted by the relay timer. -/
def overflowRun : List Event := launchRun ++ [edgeEvent 18, .relay overflowReads]

set_option maxRecDepth 4000 in
theorem overflowRun_admitted : driverMachine.Admits loaded26 overflowRun := by decide +kernel

set_option maxRecDepth 4000 in
theorem countdown_right_iff_overflowRun :
    offPeriodMachine.Always CountdownRight (loaded26, ⟨0, 0⟩) overflowRun :=
  (countdown_right_iff overflowRun_admitted).mpr (by decide +kernel)

/-- The same run with an off time of 0 minutes. -/
def zeroMinutesRun : List Event :=
  .ioctl syncIoctlSetGpsOffTime 0 ⟨⟨0, 0⟩, 0, .zero, 0⟩ :: overflowRun

set_option maxRecDepth 4000 in
theorem countdown_right_refuted :
    ¬ ∀ (ppsClock relayClock : Word) (es : List Event),
      driverMachine.Admits (synchronizationInitialize ppsClock relayClock) es →
        offPeriodMachine.Always CountdownRight
          (synchronizationInitialize ppsClock relayClock, ⟨0, 0⟩) es := by
  intro every
  have admitted : driverMachine.Admits loaded26 zeroMinutesRun := by decide +kernel
  have wrapped : (offPeriodMachine.run (loaded26, ⟨0, 0⟩)
      zeroMinutesRun).1.relayTimerLeftTime = 0xFFFFFFFF := by decide +kernel
  have bound := (every _ _ _ admitted).last.bound
  rw [show synchronizationInitialize 26000000 26000000 = loaded26 from rfl, wrapped] at bound
  exact absurd bound (by decide)

end Gumstix.Synchronization
