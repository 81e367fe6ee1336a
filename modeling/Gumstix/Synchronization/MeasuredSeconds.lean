import Gumstix.Synchronization.QuartzErrors

/-!
# Measured seconds

Between which seconds a quartz error is measured. The upload that precedes
`ComputeAndAddQuartzError` makes the supplied record the official one, so the helper checks
one record twice and the record that was official before never.
-/
namespace Gumstix.Synchronization
open EventMachine

/-- The record supplied last since the previous interrupt. -/
def watchSupply (_ : Driver) (e : Event) (supplied : Option GpsData) : Option GpsData :=
  match e with
  | .pps _ => none
  | .relay _ => none
  | .ioctl cmd _ u => if cmd = syncIoctlSetTemporaryGpsData ∧ sizeofGpsData ≤ u.copiedFromUser
      then some u.record else supplied

def supplyMachine : EventMachine (Driver × Option GpsData) Event :=
  driverMachine.observe watchSupply

/-- The PPS appends an entry to the table, or increments the drift indicator. -/
def MeasuresError (d : Driver) (r : PpsReads) : Prop :=
  (ppsTimerIrqHandler d r).lastUsedTimerErrorValueTableCase ≠ d.lastUsedTimerErrorValueTableCase ∨
    (ppsTimerIrqHandler d r).timerDriftCounter = d.timerDriftCounter + 1

instance (d : Driver) (r : PpsReads) : Decidable (MeasuresError d r) :=
  inferInstanceAs (Decidable (_ ∨ _))

/-- A PPS measures an error only after a valid record, and with a valid official one. -/
def MeasuredBetweenValid (s : Driver × Option GpsData) : Event → Prop
  | .pps r => Tracking s.1 → MeasuresError s.1 r →
      (∃ g, s.2 = some g ∧ g.valid) ∧ s.1.gpsOfficialData.valid
  | .relay _ => True
  | .ioctl _ _ _ => True

/-- No record with a fix has been supplied for the PPS. -/
def NoValidPps (d : Driver) : Event → Prop
  | .pps _ => Tracking d → ¬ ValidPps d
  | .relay _ => True
  | .ioctl _ _ _ => True

instance (d : Driver) : (e : Event) → Decidable (NoValidPps d e)
  | .pps _ => inferInstanceAs (Decidable (_ → _))
  | .relay _ => .isTrue trivial
  | .ioctl _ _ _ => .isTrue trivial

section measured
variable {d : Driver}

theorem ppsDriftCounter_valid (valid : ValidPps d) :
    ppsDriftCounter d = d.timerDriftCounter + 1 := if_pos (quartzErrorValid_upload.mpr valid)

theorem ppsDriftCounter_ne (invalid : ¬ ValidPps d) :
    ppsDriftCounter d ≠ d.timerDriftCounter + 1 := by
  intro grown
  have fallen := ppsDriftCounter_invalid invalid
  rw [grown] at fallen
  bv_omega

/-- The table and the indicator grow together, with every valid record. -/
theorem measuresError_iff (tracking : Tracking d) (r : PpsReads) :
    MeasuresError d r ↔ ValidPps d := by
  have case := congrArg RingLog.used (pps_errorLog_tracking d r tracking)
  have drift : (ppsTimerIrqHandler d r).timerDriftCounter = ppsDriftCounter d := by
    rw [pps_timerDriftCounter]
    rcases tracking with hs | hs <;> rw [hs]
  rw [MeasuresError, drift]
  constructor
  · intro measures
    by_contra invalid
    rw [if_neg (mt quartzErrorValid_upload.mp invalid)] at case
    exact measures.elim (absurd case) (ppsDriftCounter_ne invalid)
  · intro valid
    exact .inr (ppsDriftCounter_valid valid)

/-- A record with a fix becomes official only by a PPS it is supplied for. -/
theorem pps_official_invalid (r : PpsReads) (invalid : ¬ d.gpsOfficialData.valid)
    (unmeasured : NoValidPps d (.pps r)) :
    ¬ (ppsTimerIrqHandler d r).gpsOfficialData.valid := by
  rw [pps_gpsOfficialData]
  have upload : Tracking d →
      ¬ (if d.dataSupplied = 1 then d.gpsTemporaryData else d.gpsOfficialData).valid := by
    intro tracking valid
    split_ifs at valid with supplied
    · exact unmeasured tracking ⟨supplied, valid⟩
    · exact invalid valid
  cases hs : d.driverCurrentState with
  | initialization =>
      change ¬ initialOfficialData.valid
      decide
  | waitForGpsFixed => exact upload (.inl hs)
  | gpsFixed => exact upload (.inr hs)
  | switchGpsToOff => exact invalid
  | gpsOff => exact invalid

theorem relay_official_quality (d : Driver) (r : RelayReads) :
    (relayTimerIrqHandler d r).gpsOfficialData.quality = d.gpsOfficialData.quality := by
  by_cases hs : d.driverCurrentState = .gpsOff
  · rw [(relay_off d r hs).1]
    rfl
  · rw [(relay_quiet d r hs).1]

theorem handle_official_invalid (e : Event) (invalid : ¬ d.gpsOfficialData.valid)
    (unmeasured : NoValidPps d e) : ¬ (handle d e).gpsOfficialData.valid := by
  cases e with
  | pps r => exact pps_official_invalid r invalid unmeasured
  | relay r =>
      rw [handle, GpsData.valid, relay_official_quality]
      exact invalid
  | ioctl cmd arg u =>
      rw [handle, (ioctl_sameRun d cmd arg u).official]
      exact invalid

/-- The first record with a fix is measured against an official record without one. -/
theorem measuredBetweenValid_iff (supplied : Option GpsData) (e : Event)
    (invalid : ¬ d.gpsOfficialData.valid) :
    MeasuredBetweenValid (d, supplied) e ↔ NoValidPps d e := by
  cases e with
  | pps r =>
      constructor
      · intro between tracking valid
        exact invalid (between tracking ((measuresError_iff tracking r).mpr valid)).2
      · intro unmeasured tracking measures
        exact absurd ((measuresError_iff tracking r).mp measures) (unmeasured tracking)
  | relay | ioctl => exact Iff.rfl

theorem ioctl_stopped (d : Driver) (arg : Word) (u : UserAccess)
    (stopped : u.copiedFromUser < sizeofGpsData) :
    (synchronizationIoctl d syncIoctlSetTemporaryGpsData arg u).driver.dataSupplied =
      d.dataSupplied := by
  unfold synchronizationIoctl
  iterate 9 rw [if_neg (by decide)]
  rw [if_pos rfl, setTemporaryGpsData, if_pos stopped]
  rfl

/-- The flag is raised by a complete copy and lowered by the next interrupt. -/
theorem handle_supplied {supplied : Option GpsData} (e : Event)
    (flag : d.dataSupplied = 1 → supplied.isSome) :
    (handle d e).dataSupplied = 1 → (watchSupply d e supplied).isSome := by
  cases e with
  | pps r => exact fun raised => absurd raised (by decide : ¬ (0 : Word) = 1)
  | relay r => exact fun raised => absurd raised (by decide : ¬ (0 : Word) = 1)
  | ioctl cmd arg u =>
      change _ → (if cmd = syncIoctlSetTemporaryGpsData ∧ sizeofGpsData ≤ u.copiedFromUser
        then some u.record else supplied).isSome
      by_cases complete : cmd = syncIoctlSetTemporaryGpsData ∧ sizeofGpsData ≤ u.copiedFromUser
      · rw [if_pos complete]
        exact fun _ => rfl
      · rw [if_neg complete]
        have same : (handle d (.ioctl cmd arg u)).dataSupplied = d.dataSupplied := by
          by_cases set : cmd = syncIoctlSetTemporaryGpsData
          · subst set
            exact ioctl_stopped d arg u (not_le.mp fun whole => complete ⟨rfl, whole⟩)
          · exact (ioctl_temporary d cmd arg u set).2
        rw [same]
        exact flag

end measured

/-- What the check does ensure: an error is measured only if a record has been supplied since
the previous interrupt, and the record then in the driver has a fix. -/
theorem measured_after_supply {ppsClock relayClock : Word} {es : List Event}
    (admitted : driverMachine.Admits (synchronizationInitialize ppsClock relayClock) es) :
    supplyMachine.EveryStep
      (fun s e => ∀ r, e = .pps r → Tracking s.1 → MeasuresError s.1 r →
        s.2.isSome ∧ s.1.gpsTemporaryData.valid)
      (synchronizationInitialize ppsClock relayClock, none) es := by
  apply everyStep_of_everyStep (I := fun s => s.1.dataSupplied = 1 → s.2.isSome)
    (C := fun _ _ => True)
  · rintro ⟨d, supplied⟩ e flag - -
    exact handle_supplied e flag
  · rintro ⟨d, supplied⟩ e flag - - r rfl tracking measures
    obtain ⟨raised, valid⟩ := (measuresError_iff tracking r).mp measures
    exact ⟨flag raised, valid⟩
  · intro raised
    exact absurd raised (by decide : ¬ (0 : Word) = 1)
  · exact (observe_admits _ _ es).mpr admitted
  · exact everyStep_forall (fun _ _ => trivial) _ _

/-- Along a run after the load errors are measured between valid seconds only, exactly if none
is measured: the first error of every run is measured from an official record without a
fix. -/
theorem measured_between_valid_iff {ppsClock relayClock : Word} {es : List Event}
    (admitted : driverMachine.Admits (synchronizationInitialize ppsClock relayClock) es) :
    supplyMachine.EveryStep MeasuredBetweenValid
        (synchronizationInitialize ppsClock relayClock, none) es ↔
      driverMachine.EveryStep NoValidPps (synchronizationInitialize ppsClock relayClock) es := by
  rw [← observe_everyStep watchSupply (C := NoValidPps)
    (synchronizationInitialize ppsClock relayClock, none) es]
  apply everyStep_iff_everyStep (I := fun s => ¬ s.1.gpsOfficialData.valid)
  · rintro ⟨d, supplied⟩ e invalid - unmeasured
    exact handle_official_invalid e invalid unmeasured
  · rintro ⟨d, supplied⟩ e invalid -
    exact measuredBetweenValid_iff supplied e invalid
  · change ¬ GpsData.zero.valid
    decide
  · exact (observe_admits _ _ es).mpr admitted

theorem measured_between_valid_iff_without_records :
    supplyMachine.EveryStep MeasuredBetweenValid (loaded26, none) [edgeEvent 0, edgeEvent 1] := by
  have admitted : driverMachine.Admits loaded26 [edgeEvent 0, edgeEvent 1] :=
    ⟨trivial, trivial, trivial⟩
  exact (measured_between_valid_iff admitted).mpr (by decide +kernel)

/-- The first second, a record with a fix, and the next second. -/
def firstFixRun : List Event := [edgeEvent 0, supplyEvent (fixRecord 0), edgeEvent 1]

theorem measured_between_valid_refuted :
    ¬ ∀ (ppsClock relayClock : Word) (es : List Event),
      driverMachine.Admits (synchronizationInitialize ppsClock relayClock) es →
        supplyMachine.EveryStep MeasuredBetweenValid
          (synchronizationInitialize ppsClock relayClock, none) es := by
  intro every
  have admitted : driverMachine.Admits loaded26 firstFixRun := ⟨trivial, trivial, trivial, trivial⟩
  have first : Tracking (driverMachine.run loaded26 (firstFixRun.take 2)) →
      MeasuresError (driverMachine.run loaded26 (firstFixRun.take 2)) (edgeReads 1) →
        _ ∧ (driverMachine.run loaded26 (firstFixRun.take 2)).gpsOfficialData.valid :=
    (every _ _ _ admitted).2.2.1
  exact absurd (first (by decide +kernel) (by decide +kernel)).2 (by decide +kernel)

end Gumstix.Synchronization
