import Gumstix.Synchronization.Handlers

/-!
# What the interrupt handlers change

For every field the later proofs need, its value after a handler in terms of the driver
before it. Nothing after this module unfolds a handler.
-/
namespace Gumstix.Synchronization

def errorCaseAfter (d : Driver) : Nat :=
  if quartzErrorValid d then
    (if quartzDriftNumber ≤ d.lastUsedTimerErrorValueTableCase then 0
      else d.lastUsedTimerErrorValueTableCase) + 1
  else d.lastUsedTimerErrorValueTableCase

def errorTableAfter (d : Driver) (captureTimerValue : Word) : Vector Word quartzDriftNumber :=
  if quartzErrorValid d then
    d.ppsTimerErrorValueTable.setIfInBounds (errorCaseAfter d - 1) (quartzError d captureTimerValue)
  else d.ppsTimerErrorValueTable

def driftCounterAfter (d : Driver) : Word :=
  if quartzErrorValid d then d.timerDriftCounter + 1
  else if 0 < d.timerDriftCounter then d.timerDriftCounter - 1
  else d.timerDriftCounter

theorem computeAndAddQuartzError_eq (d : Driver) (captureTimerValue : Word) :
    computeAndAddQuartzError d captureTimerValue =
      { d with
        ppsTimerErrorValueTable := errorTableAfter d captureTimerValue
        lastUsedTimerErrorValueTableCase := errorCaseAfter d
        timerDriftCounter := driftCounterAfter d } := by
  unfold computeAndAddQuartzError errorTableAfter errorCaseAfter driftCounterAfter
  by_cases valid : quartzErrorValid d
  · simp only [if_pos valid, Nat.add_sub_cancel]
  · simp only [if_neg valid]
    split <;> rfl

/-- The drift indicator after a PPS in `STATE_Wait_for_Gps_Fixed` or `STATE_Gps_Fixed`. -/
def ppsDriftCounter (d : Driver) : Word := driftCounterAfter (uploadSupplied d)

/-- The PPS that starts the relay timer. -/
def Launches (d : Driver) : Prop :=
  d.driverCurrentState = .gpsFixed ∧ quartzDriftNumber ≤ (ppsDriftCounter d).toNat ∧
    relayLaunchAllowed d

instance (d : Driver) : Decidable (Launches d) := inferInstanceAs (Decidable (_ ∧ _ ∧ _))

def ppsNextState (d : Driver) : DriverState :=
  match d.driverCurrentState with
  | .initialization => .waitForGpsFixed
  | .waitForGpsFixed =>
      if (ppsDriftCounter d).toNat < quartzDriftNumber then .waitForGpsFixed else .gpsFixed
  | .gpsFixed =>
      if (ppsDriftCounter d).toNat < quartzDriftNumber then .waitForGpsFixed
      else if relayLaunchAllowed d then .switchGpsToOff else .gpsFixed
  | .switchGpsToOff => .gpsOff
  | .gpsOff => .gpsOff

theorem ppsWaitForGpsFixed_eq (d : Driver) (r : PpsReads) :
    ppsWaitForGpsFixed d r =
      { uploadSupplied d with
        ppsTimerErrorValueTable := errorTableAfter (uploadSupplied d) r.captureTimerValue
        lastUsedTimerErrorValueTableCase := errorCaseAfter (uploadSupplied d)
        timerDriftCounter := ppsDriftCounter d
        driverCurrentState := if (ppsDriftCounter d).toNat < quartzDriftNumber
          then .waitForGpsFixed else .gpsFixed } := by
  unfold ppsWaitForGpsFixed
  simp only [computeAndAddQuartzError_eq]
  change (if quartzDriftNumber ≤ (ppsDriftCounter d).toNat then _ else _) = _
  by_cases low : (ppsDriftCounter d).toNat < quartzDriftNumber
  · rw [if_neg (Nat.not_le.mpr low), if_pos low]
    rfl
  · rw [if_pos (Nat.not_lt.mp low), if_neg low]
    rfl

/-- The fields `STATE_Gps_Fixed` computes whether or not it launches the relay timer. -/
def gpsFixedMeasured (d : Driver) (r : PpsReads) : Driver :=
  let d' := { uploadSupplied d with
    ppsTimerErrorValueTable := errorTableAfter (uploadSupplied d) r.captureTimerValue
    lastUsedTimerErrorValueTableCase := errorCaseAfter (uploadSupplied d)
    timerDriftCounter := ppsDriftCounter d }
  { d' with averageTimerErrorValue :=
      (getAverageQuartzError d' * 1000000) / d.ppsTimerInputClock }

theorem ppsGpsFixed_eq (d : Driver) (r : PpsReads) :
    ppsGpsFixed d r =
      if (ppsDriftCounter d).toNat < quartzDriftNumber then
        { gpsFixedMeasured d r with driverCurrentState := .waitForGpsFixed }
      else if relayLaunchAllowed d then launchRelayTimer (gpsFixedMeasured d r) r
      else { gpsFixedMeasured d r with driverCurrentState := .gpsFixed } := by
  unfold ppsGpsFixed
  rw [computeAndAddQuartzError_eq]
  rfl

/-- A PPS in `STATE_Wait_for_Gps_Fixed` or `STATE_Gps_Fixed`. -/
def Tracking (d : Driver) : Prop :=
  d.driverCurrentState = .waitForGpsFixed ∨ d.driverCurrentState = .gpsFixed

instance (d : Driver) : Decidable (Tracking d) := inferInstanceAs (Decidable (_ ∨ _))

/-- The settings no interrupt handler touches. -/
structure SameSettings (d d' : Driver) : Prop where
  mode : d'.driverRunningMode = d.driverRunningMode
  ppsClock : d'.ppsTimerInputClock = d.ppsTimerInputClock
  relayClock : d'.relayTimerInputClock = d.relayTimerInputClock
  offTime : d'.gpsTimeToOff = d.gpsTimeToOff

section pps
variable (d : Driver) (r : PpsReads)

/-- The outcomes of the state switch, one for each path through it. -/
@[elab_as_elim] theorem ppsStateBranch_cases {P : Driver → Prop}
    (initialization : d.driverCurrentState = .initialization → P (ppsInitialization d))
    (wait : d.driverCurrentState = .waitForGpsFixed → P (ppsWaitForGpsFixed d r))
    (lost : d.driverCurrentState = .gpsFixed → (ppsDriftCounter d).toNat < quartzDriftNumber →
      P { gpsFixedMeasured d r with driverCurrentState := .waitForGpsFixed })
    (launch : Launches d → P (launchRelayTimer (gpsFixedMeasured d r) r))
    (stay : d.driverCurrentState = .gpsFixed → quartzDriftNumber ≤ (ppsDriftCounter d).toNat →
      ¬ relayLaunchAllowed d → P { gpsFixedMeasured d r with driverCurrentState := .gpsFixed })
    (switch : d.driverCurrentState = .switchGpsToOff → P (ppsSwitchGpsToOff d))
    (off : d.driverCurrentState = .gpsOff → P { d with driverCurrentState := .gpsOff }) :
    P (ppsStateBranch d r) := by
  unfold ppsStateBranch
  cases hs : d.driverCurrentState with
  | initialization => exact initialization hs
  | waitForGpsFixed => exact wait hs
  | gpsFixed =>
      simp only [ppsGpsFixed_eq]
      split_ifs with low allowed
      · exact lost hs low
      · exact launch ⟨hs, Nat.not_lt.mp low, allowed⟩
      · exact stay hs (Nat.not_lt.mp low) allowed
  | switchGpsToOff => exact switch hs
  | gpsOff => exact off hs

theorem pps_settings : SameSettings d (ppsTimerIrqHandler d r) := by
  change SameSettings d (ppsTail (ppsStateBranch d r) r)
  refine ppsStateBranch_cases d r ?_ ?_ ?_ ?_ ?_ ?_ ?_ <;> intros
  · exact ⟨rfl, rfl, rfl, rfl⟩
  · rw [ppsWaitForGpsFixed_eq]
    exact ⟨rfl, rfl, rfl, rfl⟩
  all_goals exact ⟨rfl, rfl, rfl, rfl⟩

theorem pps_driverCurrentState :
    (ppsTimerIrqHandler d r).driverCurrentState = ppsNextState d := by
  change (ppsStateBranch d r).driverCurrentState = ppsNextState d
  unfold ppsNextState
  refine ppsStateBranch_cases d r ?_ ?_ ?_ ?_ ?_ ?_ ?_
  · intro hs; rw [hs]; rfl
  · intro hs; rw [hs, ppsWaitForGpsFixed_eq]
  · intro hs low
    rw [hs]
    exact (if_pos low).symm
  · rintro ⟨hs, high, allowed⟩
    rw [hs]
    exact ((if_neg (Nat.not_lt.mpr high)).trans (if_pos allowed)).symm
  · intro hs high denied
    rw [hs]
    exact ((if_neg (Nat.not_lt.mpr high)).trans (if_neg denied)).symm
  · intro hs; rw [hs]; rfl
  · intro hs; rw [hs]

theorem pps_timerDriftCounter :
    (ppsTimerIrqHandler d r).timerDriftCounter =
      match d.driverCurrentState with
      | .initialization => 0
      | .waitForGpsFixed | .gpsFixed => ppsDriftCounter d
      | .switchGpsToOff | .gpsOff => d.timerDriftCounter := by
  change (ppsStateBranch d r).timerDriftCounter = _
  refine ppsStateBranch_cases d r ?_ ?_ ?_ ?_ ?_ ?_ ?_
  · intro hs; rw [hs]; rfl
  · intro hs; rw [hs, ppsWaitForGpsFixed_eq]
  · intro hs _; rw [hs]; rfl
  · intro h; rw [h.1]; rfl
  · intro hs _ _; rw [hs]; rfl
  · intro hs; rw [hs]; rfl
  · intro hs; rw [hs]

theorem pps_relayStarted :
    (ppsTimerIrqHandler d r).relayTimer.started =
      (d.relayTimer.started || decide (Launches d)) := by
  change (ppsStateBranch d r).relayTimer.started = _
  have quiet : ¬ Launches d →
      d.relayTimer.started = (d.relayTimer.started || decide (Launches d)) :=
    fun h => by rw [decide_eq_false h, Bool.or_false]
  refine ppsStateBranch_cases d r ?_ ?_ ?_ ?_ ?_ ?_ ?_
  · intro hs; exact quiet (by simp [Launches, hs])
  · intro hs; rw [ppsWaitForGpsFixed_eq]; exact quiet (by simp [Launches, hs])
  · intro hs low; exact quiet fun h => absurd low (Nat.not_lt.mpr h.2.1)
  · intro h; rw [decide_eq_true h, Bool.or_true]; rfl
  · intro hs _ denied; exact quiet fun h => denied h.2.2
  · intro hs; exact quiet (by simp [Launches, hs])
  · intro hs; exact quiet (by simp [Launches, hs])

theorem pps_gpsStatus :
    (ppsTimerIrqHandler d r).gpsStatus =
      match d.driverCurrentState with
      | .initialization => 1
      | .switchGpsToOff => 0
      | .waitForGpsFixed | .gpsFixed | .gpsOff => d.gpsStatus := by
  change (ppsStateBranch d r).gpsStatus = _
  refine ppsStateBranch_cases d r ?_ ?_ ?_ ?_ ?_ ?_ ?_
  · intro hs; rw [hs]; rfl
  · intro hs; rw [hs, ppsWaitForGpsFixed_eq]; rfl
  · intro hs _; rw [hs]; rfl
  · intro h; rw [h.1]; rfl
  · intro hs _ _; rw [hs]; rfl
  · intro hs; rw [hs]; rfl
  · intro hs; rw [hs]

theorem pps_relayTimerLeftTime :
    (ppsTimerIrqHandler d r).relayTimerLeftTime =
      if d.driverCurrentState = .initialization ∨ Launches d then d.gpsTimeToOff
      else d.relayTimerLeftTime := by
  change (ppsStateBranch d r).relayTimerLeftTime = _
  refine ppsStateBranch_cases d r ?_ ?_ ?_ ?_ ?_ ?_ ?_
  · intro hs; rw [if_pos (.inl hs)]; rfl
  · intro hs; rw [if_neg (by simp [Launches, hs]), ppsWaitForGpsFixed_eq]; rfl
  · intro hs low
    rw [if_neg (by simp only [Launches, hs]; simp only [reduceCtorEq, true_and, false_or]; omega)]
    rfl
  · intro h; rw [if_pos (.inr h)]; rfl
  · intro hs _ denied; rw [if_neg (by simp [Launches, hs, denied])]; rfl
  · intro hs; rw [if_neg (by simp [Launches, hs])]; rfl
  · intro hs; rw [if_neg (by simp [Launches, hs])]

/-- The official record after a PPS. -/
theorem pps_gpsOfficialData :
    (ppsTimerIrqHandler d r).gpsOfficialData =
      match d.driverCurrentState with
      | .initialization => initialOfficialData
      | .waitForGpsFixed | .gpsFixed =>
          if d.dataSupplied = 1 then d.gpsTemporaryData else d.gpsOfficialData
      | .switchGpsToOff => (secondIncrements d 1).gpsOfficialData
      | .gpsOff => d.gpsOfficialData := by
  change (ppsStateBranch d r).gpsOfficialData = _
  refine ppsStateBranch_cases d r ?_ ?_ ?_ ?_ ?_ ?_ ?_
  · intro hs; rw [hs]; rfl
  · intro hs; rw [hs, ppsWaitForGpsFixed_eq]; rfl
  · intro hs _; rw [hs]; rfl
  · intro h; rw [h.1]; rfl
  · intro hs _ _; rw [hs]; rfl
  · intro hs; rw [hs]; rfl
  · intro hs; rw [hs]

theorem pps_gpsTemporaryData :
    (ppsTimerIrqHandler d r).gpsTemporaryData =
      if d.driverCurrentState = .initialization then .zero else d.gpsTemporaryData := by
  change (ppsStateBranch d r).gpsTemporaryData = _
  refine ppsStateBranch_cases d r ?_ ?_ ?_ ?_ ?_ ?_ ?_
  · intro hs; rw [if_pos hs]; rfl
  · intro hs; rw [if_neg (by simp [hs]), ppsWaitForGpsFixed_eq]; rfl
  · intro hs _; rw [if_neg (by simp [hs])]; rfl
  · intro h; rw [if_neg (by simp [h.1])]; rfl
  · intro hs _ _; rw [if_neg (by simp [hs])]; rfl
  · intro hs; rw [if_neg (by simp [hs])]; rfl
  · intro hs; rw [if_neg (by simp [hs])]

theorem pps_timerReloadValue (h : ¬ Launches d) :
    (ppsTimerIrqHandler d r).timerReloadValue = d.timerReloadValue := by
  change (ppsStateBranch d r).timerReloadValue = _
  refine ppsStateBranch_cases d r ?_ ?_ ?_ ?_ ?_ ?_ ?_
  · intro _; rfl
  · intro _; rw [ppsWaitForGpsFixed_eq]; rfl
  · intro _ _; rfl
  · intro launch; exact absurd launch h
  · intro _ _ _; rfl
  · intro _; rfl
  · intro _; rfl

end pps

theorem ppsNextState_switch {d : Driver} : ppsNextState d = .switchGpsToOff ↔ Launches d := by
  unfold ppsNextState
  constructor
  · intro next
    cases hs : d.driverCurrentState with
    | gpsFixed =>
        simp only [hs] at next
        split_ifs at next with low allowed
        exact ⟨hs, Nat.not_lt.mp low, allowed⟩
    | waitForGpsFixed =>
        simp only [hs] at next
        split_ifs at next
    | initialization | switchGpsToOff | gpsOff => simp [hs] at next
  · rintro ⟨hs, high, allowed⟩
    simp only [hs]
    rw [if_neg (Nat.not_lt.mpr high), if_pos allowed]

theorem ppsNextState_off {d : Driver} : ppsNextState d = .gpsOff ↔
    d.driverCurrentState = .switchGpsToOff ∨ d.driverCurrentState = .gpsOff := by
  unfold ppsNextState
  cases hs : d.driverCurrentState with
  | initialization | switchGpsToOff | gpsOff => simp
  | waitForGpsFixed =>
      dsimp only
      split_ifs <;> simp
  | gpsFixed =>
      dsimp only
      split_ifs <;> simp

/-- A PPS that does not launch the relay timer leaves the driver in the first two states
after initialization. -/
theorem pps_tracking {d : Driver} (r : PpsReads) (h : Tracking d) (stays : ¬ Launches d) :
    Tracking (ppsTimerIrqHandler d r) := by
  rw [Tracking, pps_driverCurrentState]
  rcases h with hs | hs
  · simp only [ppsNextState, hs]
    split_ifs
    · exact .inl rfl
    · exact .inr rfl
  · simp only [ppsNextState, hs]
    split_ifs with low allowed
    · exact .inl rfl
    · exact absurd ⟨hs, Nat.not_lt.mp low, allowed⟩ stays
    · exact .inr rfl

theorem pps_official_tracking {d : Driver} (r : PpsReads) (h : Tracking d) :
    (ppsTimerIrqHandler d r).gpsOfficialData =
      if d.dataSupplied = 1 then d.gpsTemporaryData else d.gpsOfficialData := by
  rw [pps_gpsOfficialData]
  rcases h with hs | hs <;> rw [hs]

section relay
variable (d : Driver) (r : RelayReads)

/-- The countdown step of `STATE_Gps_Off`, field by field. -/
theorem relayStateBranch_off (hs : d.driverCurrentState = .gpsOff) :
    relayStateBranch d =
      { secondIncrements d 1 with
        relayTimerLeftTime := d.relayTimerLeftTime - 1
        gpsStatus := if 0 < d.relayTimerLeftTime - 1 then d.gpsStatus else 1
        readKind := 2
        readDone := 1 } := by
  unfold relayStateBranch
  rw [if_pos hs]
  by_cases left : 0 < d.relayTimerLeftTime - 1
  · simp only [secondIncrements, if_pos left, hs]
  · simp only [secondIncrements, if_neg left, setGpsStatus, hs]
    rfl

theorem relayStateBranch_quiet (hs : d.driverCurrentState ≠ .gpsOff) : relayStateBranch d = d :=
  if_neg hs

theorem relayPhaseCorrection_eq :
    relayPhaseCorrection d r =
      { d with relayTimer.writtenCounter := if d.relayHandlerCount = 10
          then some (relayCorrection d r) else d.relayTimer.writtenCounter } := by
  unfold relayPhaseCorrection
  split <;> rfl

/-- What every overflow does after the branch for its state. -/
def relayFinished : Driver :=
  let d := { d with
    relayTimer.writtenCounter := if d.relayHandlerCount = 10
      then some (relayCorrection d r) else d.relayTimer.writtenCounter
    dataSupplied := 0 }
  let d := savePreemptionTime d
    ((r.preemptTimerValue - d.timerReloadValue) / (d.relayTimerInputClock / 1000000))
  { d with relayHandlerCount := d.relayHandlerCount + 1 }

/-- The outcomes of an overflow, inside and outside the off period. -/
@[elab_as_elim] theorem relay_cases {P : Driver → Prop}
    (off : d.driverCurrentState = .gpsOff → P (relayFinished { secondIncrements d 1 with
      relayTimerLeftTime := d.relayTimerLeftTime - 1
      gpsStatus := if 0 < d.relayTimerLeftTime - 1 then d.gpsStatus else 1
      readKind := 2
      readDone := 1 } r))
    (quiet : d.driverCurrentState ≠ .gpsOff → P (relayFinished d r)) :
    P (relayTimerIrqHandler d r) := by
  have finished : relayTimerIrqHandler d r = relayFinished (relayStateBranch d) r := by
    unfold relayTimerIrqHandler
    rw [relayPhaseCorrection_eq]
    rfl
  rw [finished]
  by_cases hs : d.driverCurrentState = .gpsOff
  · rw [relayStateBranch_off d hs]
    exact off hs
  · rw [relayStateBranch_quiet d hs]
    exact quiet hs

theorem relay_settings : SameSettings d (relayTimerIrqHandler d r) := by
  refine relay_cases d r ?_ ?_
  · intro _; exact ⟨rfl, rfl, rfl, rfl⟩
  · intro _; exact ⟨rfl, rfl, rfl, rfl⟩

/-- The fields that the relay handler leaves alone in every state. -/
theorem relay_frame :
    let d' := relayTimerIrqHandler d r
    d'.driverCurrentState = d.driverCurrentState ∧ d'.timerDriftCounter = d.timerDriftCounter ∧
      d'.relayTimer.started = d.relayTimer.started ∧ d'.lastTimerValue = d.lastTimerValue ∧
      d'.timerReloadValue = d.timerReloadValue ∧ d'.gpsTemporaryData = d.gpsTemporaryData := by
  refine relay_cases d r ?_ ?_
  · intro _; exact ⟨rfl, rfl, rfl, rfl, rfl, rfl⟩
  · intro _; exact ⟨rfl, rfl, rfl, rfl, rfl, rfl⟩

@[simp] theorem relay_driverCurrentState :
    (relayTimerIrqHandler d r).driverCurrentState = d.driverCurrentState := (relay_frame d r).1

@[simp] theorem relay_timerDriftCounter :
    (relayTimerIrqHandler d r).timerDriftCounter = d.timerDriftCounter := (relay_frame d r).2.1

@[simp] theorem relay_relayStarted :
    (relayTimerIrqHandler d r).relayTimer.started = d.relayTimer.started := (relay_frame d r).2.2.1

@[simp] theorem relay_lastTimerValue :
    (relayTimerIrqHandler d r).lastTimerValue = d.lastTimerValue := (relay_frame d r).2.2.2.1

@[simp] theorem relay_timerReloadValue :
    (relayTimerIrqHandler d r).timerReloadValue = d.timerReloadValue :=
  (relay_frame d r).2.2.2.2.1

@[simp] theorem relay_gpsTemporaryData :
    (relayTimerIrqHandler d r).gpsTemporaryData = d.gpsTemporaryData :=
  (relay_frame d r).2.2.2.2.2

/-- Outside `STATE_Gps_Off` the relay handler touches neither clock, countdown nor GPS. -/
theorem relay_quiet (hs : d.driverCurrentState ≠ .gpsOff) :
    (relayTimerIrqHandler d r).gpsOfficialData = d.gpsOfficialData ∧
      (relayTimerIrqHandler d r).relayTimerLeftTime = d.relayTimerLeftTime ∧
      (relayTimerIrqHandler d r).gpsStatus = d.gpsStatus := by
  refine relay_cases d r ?_ ?_
  · intro off; exact absurd off hs
  · intro _; exact ⟨rfl, rfl, rfl⟩

theorem relay_off (hs : d.driverCurrentState = .gpsOff) :
    (relayTimerIrqHandler d r).gpsOfficialData = (secondIncrements d 1).gpsOfficialData ∧
      (relayTimerIrqHandler d r).relayTimerLeftTime = d.relayTimerLeftTime - 1 ∧
      (relayTimerIrqHandler d r).gpsStatus =
        if 0 < d.relayTimerLeftTime - 1 then d.gpsStatus else 1 := by
  refine relay_cases d r ?_ ?_
  · intro _; exact ⟨rfl, rfl, rfl⟩
  · intro quiet; exact absurd hs quiet

end relay

end Gumstix.Synchronization
