import Gumstix.Synchronization.Ioctl

/-!
# The state machine of the synchronization driver

The joint invariant of the state, the drift indicator, the relay timer and the GPS power,
the order in which the states are entered, and the set of states that no event leaves.
-/
namespace Gumstix.Synchronization

/-- What the state says about the rest of the driver. -/
structure Consistent (d : Driver) : Prop where
  waitDrift : d.driverCurrentState = .waitForGpsFixed →
    d.timerDriftCounter.toNat < quartzDriftNumber
  fixedDrift : d.driverCurrentState = .gpsFixed ∨ d.driverCurrentState = .switchGpsToOff ∨
      d.driverCurrentState = .gpsOff → quartzDriftNumber ≤ d.timerDriftCounter.toNat
  relay : d.relayTimer.started = true ↔
    d.driverCurrentState = .switchGpsToOff ∨ d.driverCurrentState = .gpsOff
  gps : d.gpsStatus = 0 → d.driverCurrentState = .gpsOff

theorem initialize_consistent (ppsClock relayClock : Word) :
    Consistent (synchronizationInitialize ppsClock relayClock) := by
  constructor <;> simp [synchronizationInitialize]

theorem Consistent.stopped {d : Driver} (h : Consistent d)
    (hs : d.driverCurrentState ≠ .switchGpsToOff) (ho : d.driverCurrentState ≠ .gpsOff) :
    d.relayTimer.started = false := by
  rw [← Bool.not_eq_true, h.relay]
  exact fun running => running.elim hs ho

theorem Consistent.gpsOn {d : Driver} (h : Consistent d) (ho : d.driverCurrentState ≠ .gpsOff) :
    ¬ d.gpsStatus = 0#32 := fun off => ho (h.gps off)

/-- The invariant only reads the fields that ioctls and quiet handlers keep. -/
theorem Consistent.transport {d d' : Driver} (h : Consistent d)
    (state : d'.driverCurrentState = d.driverCurrentState)
    (drift : d'.timerDriftCounter = d.timerDriftCounter)
    (relay : d'.relayTimer.started = d.relayTimer.started)
    (gps : d'.gpsStatus = 0 → d.gpsStatus = 0) : Consistent d' where
  waitDrift := by rw [state, drift]; exact h.waitDrift
  fixedDrift := by rw [state, drift]; exact h.fixedDrift
  relay := by rw [state, relay]; exact h.relay
  gps := by rw [state]; exact fun g => h.gps (gps g)

theorem not_launches_of_state {d : Driver} (h : d.driverCurrentState ≠ .gpsFixed) :
    ¬ Launches d := fun launch => h launch.1

theorem pps_consistent {d : Driver} (r : PpsReads) (h : Consistent d) :
    Consistent (ppsTimerIrqHandler d r) := by
  have stateAfter := pps_driverCurrentState d r
  have driftAfter := pps_timerDriftCounter d r
  have relayAfter := pps_relayStarted d r
  have gpsAfter := pps_gpsStatus d r
  unfold ppsNextState at stateAfter
  cases hs : d.driverCurrentState with
  | initialization =>
      have stopped := h.stopped (by simp [hs]) (by simp [hs])
      simp only [hs] at stateAfter driftAfter gpsAfter
      rw [decide_eq_false (not_launches_of_state (by simp [hs])), Bool.or_false, stopped]
        at relayAfter
      constructor <;> simp [stateAfter, driftAfter, relayAfter, gpsAfter]
  | waitForGpsFixed =>
      have stopped := h.stopped (by simp [hs]) (by simp [hs])
      have on := h.gpsOn (by simp [hs])
      simp only [hs] at stateAfter driftAfter gpsAfter
      rw [decide_eq_false (not_launches_of_state (by simp [hs])), Bool.or_false, stopped]
        at relayAfter
      by_cases low : (ppsDriftCounter d).toNat < quartzDriftNumber
      · rw [if_pos low] at stateAfter
        constructor <;> simp [stateAfter, driftAfter, relayAfter, gpsAfter, low, on]
      · rw [if_neg low] at stateAfter
        constructor <;> simp [stateAfter, driftAfter, relayAfter, gpsAfter, on, Nat.not_lt.mp low]
  | gpsFixed =>
      have stopped := h.stopped (by simp [hs]) (by simp [hs])
      have on := h.gpsOn (by simp [hs])
      simp only [hs] at stateAfter driftAfter gpsAfter
      rw [stopped, Bool.false_or] at relayAfter
      by_cases low : (ppsDriftCounter d).toNat < quartzDriftNumber
      · have quiet : ¬ Launches d := fun launch => Nat.not_lt.mpr launch.2.1 low
        rw [if_pos low] at stateAfter
        rw [decide_eq_false quiet] at relayAfter
        constructor <;> simp [stateAfter, driftAfter, relayAfter, gpsAfter, low, on]
      · rw [if_neg low] at stateAfter
        by_cases allowed : relayLaunchAllowed d
        · rw [if_pos allowed] at stateAfter
          rw [decide_eq_true ⟨hs, Nat.not_lt.mp low, allowed⟩] at relayAfter
          constructor <;>
            simp [stateAfter, driftAfter, relayAfter, gpsAfter, on, Nat.not_lt.mp low]
        · have quiet : ¬ Launches d := fun launch => allowed launch.2.2
          rw [if_neg allowed] at stateAfter
          rw [decide_eq_false quiet] at relayAfter
          constructor <;>
            simp [stateAfter, driftAfter, relayAfter, gpsAfter, on, Nat.not_lt.mp low]
  | switchGpsToOff =>
      have running := h.relay.mpr (.inl hs)
      have drift := h.fixedDrift (.inr (.inl hs))
      simp only [hs] at stateAfter driftAfter gpsAfter
      rw [running, Bool.true_or] at relayAfter
      constructor <;> simp [stateAfter, driftAfter, relayAfter, drift]
  | gpsOff =>
      have running := h.relay.mpr (.inr hs)
      have drift := h.fixedDrift (.inr (.inr hs))
      simp only [hs] at stateAfter driftAfter gpsAfter
      rw [running, Bool.true_or] at relayAfter
      constructor <;> simp [stateAfter, driftAfter, relayAfter, drift]

theorem relay_consistent {d : Driver} (r : RelayReads) (h : Consistent d) :
    Consistent (relayTimerIrqHandler d r) := by
  refine h.transport (relay_driverCurrentState d r) (relay_timerDriftCounter d r)
    (relay_relayStarted d r) fun off => ?_
  by_cases hs : d.driverCurrentState = .gpsOff
  · rw [(relay_off d r hs).2.2] at off
    by_cases left : 0 < d.relayTimerLeftTime - 1
    · rwa [if_pos left] at off
    · rw [if_neg left] at off
      exact absurd off (by decide)
  · rwa [(relay_quiet d r hs).2.2] at off

theorem ioctl_consistent {d : Driver} (cmd arg : Word) (u : UserAccess) (h : Consistent d) :
    Consistent (synchronizationIoctl d cmd arg u).driver := by
  have same := ioctl_sameRun d cmd arg u
  exact h.transport same.state same.drift (by rw [same.relay]) (by rw [same.gps]; exact id)

theorem handle_consistent {d : Driver} (e : Event) (h : Consistent d) :
    Consistent (handle d e) := by
  cases e with
  | pps r => exact pps_consistent r h
  | relay r => exact relay_consistent r h
  | ioctl cmd arg u => exact ioctl_consistent cmd arg u h

theorem Reachable.consistent {ppsClock relayClock : Word} {d : Driver}
    (h : Reachable ppsClock relayClock d) : Consistent d :=
  EventMachine.Reachable.invariant h (initialize_consistent ppsClock relayClock)
    fun _ e hd _ => handle_consistent e hd

/-- The states after the first two are entered one after the other. -/
structure EntersInOrder (d d' : Driver) : Prop where
  fixed : d'.driverCurrentState = .gpsFixed →
    d.driverCurrentState = .gpsFixed ∨ d.driverCurrentState = .waitForGpsFixed
  switch : d'.driverCurrentState = .switchGpsToOff →
    d.driverCurrentState = .switchGpsToOff ∨ d.driverCurrentState = .gpsFixed
  off : d'.driverCurrentState = .gpsOff →
    d.driverCurrentState = .gpsOff ∨ d.driverCurrentState = .switchGpsToOff

/-- An event that starts the relay timer is a PPS in `MODE3` with equal timer clocks. -/
def StartsInMode3 (d : Driver) (e : Event) : Prop :=
  d.relayTimer.started = false → (handle d e).relayTimer.started = true →
    (∃ r, e = .pps r) ∧ d.driverRunningMode = mode3 ∧
      d.ppsTimerInputClock = d.relayTimerInputClock

theorem EntersInOrder.of_eq {d d' : Driver}
    (state : d'.driverCurrentState = d.driverCurrentState) : EntersInOrder d d' where
  fixed h := .inl (state ▸ h)
  switch h := .inl (state ▸ h)
  off h := .inl (state ▸ h)

theorem pps_entersInOrder (d : Driver) (r : PpsReads) :
    EntersInOrder d (ppsTimerIrqHandler d r) := by
  have after := pps_driverCurrentState d r
  unfold ppsNextState at after
  cases hs : d.driverCurrentState with
  | initialization =>
      simp only [hs] at after
      constructor <;> simp [after]
  | waitForGpsFixed =>
      simp only [hs] at after
      split_ifs at after <;> constructor <;> simp [after, hs]
  | gpsFixed =>
      simp only [hs] at after
      split_ifs at after <;> constructor <;> simp [after, hs]
  | switchGpsToOff =>
      simp only [hs] at after
      constructor <;> simp [after, hs]
  | gpsOff =>
      simp only [hs] at after
      constructor <;> simp [after, hs]

theorem handle_entersInOrder (d : Driver) (e : Event) : EntersInOrder d (handle d e) := by
  cases e with
  | pps r => exact pps_entersInOrder d r
  | relay r => exact .of_eq (relay_driverCurrentState d r)
  | ioctl cmd arg u => exact .of_eq (ioctl_sameRun d cmd arg u).state

theorem handle_startsInMode3 (d : Driver) (e : Event) : StartsInMode3 d e := by
  intro stopped started
  cases e with
  | pps r =>
      have launch : Launches d := by
        simpa only [handle, pps_relayStarted, stopped, Bool.false_or, decide_eq_true_eq]
          using started
      exact ⟨⟨r, rfl⟩, launch.2.2⟩
  | relay r =>
      rw [handle, relay_relayStarted, stopped] at started
      exact absurd started Bool.false_ne_true
  | ioctl cmd arg u =>
      rw [handle, (ioctl_sameRun d cmd arg u).relay, stopped] at started
      exact absurd started Bool.false_ne_true

def fixRecord (n : Nat) : GpsData :=
  ⟨BitVec.ofNat 32 (1340982289 + n), 0x40b2655fecfe9b7c, 0x4061495e89225311, 78, 87, 1, 8⟩

def supplyEvent (g : GpsData) : Event :=
  .ioctl syncIoctlSetTemporaryGpsData 0 ⟨⟨0, 0⟩, 0, g, sizeofGpsData⟩

/-- The PPS edge of second `k` on 26 MHz timers, handled 40 ticks later. -/
def edgeReads (k : Nat) : PpsReads :=
  ⟨BitVec.ofNat 32 (26000000 * k + 40), BitVec.ofNat 32 (26000000 * k)⟩

def edgeEvent (k : Nat) : Event := .pps (edgeReads k)

/-- Sixteen seconds with a record each: the driver is then in `STATE_Gps_Fixed`. -/
def fixedRun : List Event :=
  edgeEvent 0 :: (List.range 16).flatMap fun k => [supplyEvent (fixRecord k), edgeEvent (k + 1)]

def setModeEvent (mode : Word) : Event :=
  .ioctl syncIoctlSetDriverMode mode ⟨⟨0, 0⟩, 0, .zero, 0⟩

def launchRun : List Event :=
  fixedRun ++ [setModeEvent mode3, supplyEvent (fixRecord 16), edgeEvent 17]

def loaded26 : Driver := synchronizationInitialize 26000000 26000000

/-- The driver right after the relay timer was launched. -/
def launched : Driver := driverMachine.run loaded26 launchRun

/-- The driver one second later. -/
def switchedOff : Driver := driverMachine.run launched [edgeEvent 18]

set_option maxRecDepth 4000 in
theorem launchRun_admitted : driverMachine.Admits loaded26 launchRun := by decide +kernel

theorem launched_reachable : Reachable 26000000 26000000 launched := .run launchRun_admitted

set_option maxRecDepth 4000 in
theorem launched_state : launched.driverCurrentState = .switchGpsToOff := by decide +kernel

theorem switchedOff_reachable : Reachable 26000000 26000000 switchedOff :=
  launched_reachable.step (e := edgeEvent 18) trivial

theorem switchedOff_state : switchedOff.driverCurrentState = .gpsOff := by
  change (ppsTimerIrqHandler launched _).driverCurrentState = _
  rw [pps_driverCurrentState, ppsNextState, launched_state]

/-- State, drift indicator, relay timer and GPS power agree in every reachable state, and
every event from there enters the states in order. -/
theorem reachable_state_machine {ppsClock relayClock : Word} {d : Driver}
    (h : Reachable ppsClock relayClock d) :
    Consistent d ∧
      ∀ e, possible d e → EntersInOrder d (handle d e) ∧ StartsInMode3 d e :=
  ⟨h.consistent, fun e _ => ⟨handle_entersInOrder d e, handle_startsInMode3 d e⟩⟩

theorem reachable_state_machine_launched :
    Consistent launched ∧
      ∀ e, possible launched e → EntersInOrder launched (handle launched e) ∧
        StartsInMode3 launched e :=
  reachable_state_machine launched_reachable

/-- `MODE3` alternates: from this state some events lead back to
`STATE_Wait_for_Gps_Fixed`. -/
def ReturnsToWait (d : Driver) : Prop :=
  ∃ es, driverMachine.Admits d es ∧
    (driverMachine.run d es).driverCurrentState = .waitForGpsFixed

theorem handle_keeps_off (d : Driver) (e : Event) (h : d.driverCurrentState = .gpsOff) :
    (handle d e).driverCurrentState = .gpsOff := by
  cases e with
  | pps r => rw [handle, pps_driverCurrentState, ppsNextState, h]
  | relay r => rw [handle, relay_driverCurrentState, h]
  | ioctl cmd arg u => rw [handle, (ioctl_sameRun d cmd arg u).state, h]

theorem run_keeps_off {d : Driver} {es : List Event} (h : d.driverCurrentState = .gpsOff)
    (admitted : driverMachine.Admits d es) :
    (driverMachine.run d es).driverCurrentState = .gpsOff :=
  EventMachine.kept_by_run (fun d e hd _ => handle_keeps_off d e hd) h admitted

/-- No interrupts and no ioctls, in any order and number, lead out of `STATE_Gps_Off`. -/
theorem gps_off_never_returns {d : Driver} (h : d.driverCurrentState = .gpsOff) :
    ¬ ReturnsToWait d := by
  rintro ⟨es, admitted, wait⟩
  rw [run_keeps_off h admitted] at wait
  exact absurd wait (by decide)

theorem gps_off_never_returns_switchedOff : ¬ ReturnsToWait switchedOff :=
  gps_off_never_returns switchedOff_state

theorem gps_off_alternation_refuted :
    ¬ ∀ (ppsClock relayClock : Word) (d : Driver), Reachable ppsClock relayClock d →
      d.driverCurrentState = .gpsOff → ReturnsToWait d := by
  intro alternates
  obtain ⟨es, admitted, wait⟩ := alternates _ _ _ switchedOff_reachable switchedOff_state
  rw [run_keeps_off switchedOff_state admitted] at wait
  exact absurd wait (by decide)

end Gumstix.Synchronization
