import Gumstix.Synchronization.State

/-!
# Interrupt handlers of the synchronization driver

One definition for each function of the driver, then what each of them can change.
Unsigned division by zero yields zero, as the ARM kernel's division routine does.
-/
namespace Gumstix.Synchronization

def errSetGpsStatusSpecifiedStatus : Int := 1021

def secondIncrements (d : Driver) (incrementsSecondNumber : Word) : Driver :=
  { d with gpsOfficialData.timeInSeconds :=
      d.gpsOfficialData.timeInSeconds + incrementsSecondNumber }

/-- `iQuality` is 1 (GPS) or 2 (DGPS). -/
def GpsData.valid (g : GpsData) : Prop := g.quality = 1 ∨ g.quality = 2

instance (g : GpsData) : Decidable g.valid := inferInstanceAs (Decidable (_ ∨ _))

def quartzErrorValid (d : Driver) : Prop :=
  d.dataSupplied = 1 ∧ d.gpsTemporaryData.valid ∧ d.gpsOfficialData.valid

instance (d : Driver) : Decidable (quartzErrorValid d) := inferInstanceAs (Decidable (_ ∧ _ ∧ _))

def quartzError (d : Driver) (captureTimerValue : Word) : Word :=
  if captureTimerValue < d.lastTimerValue then
    0xFFFFFFFF - d.lastTimerValue + captureTimerValue - d.ppsTimerInputClock
  else captureTimerValue - d.lastTimerValue - d.ppsTimerInputClock

def computeAndAddQuartzError (d : Driver) (captureTimerValue : Word) : Driver :=
  if quartzErrorValid d then
    let case := if quartzDriftNumber ≤ d.lastUsedTimerErrorValueTableCase then 0
      else d.lastUsedTimerErrorValueTableCase
    { d with
      ppsTimerErrorValueTable :=
        d.ppsTimerErrorValueTable.setIfInBounds case (quartzError d captureTimerValue)
      lastUsedTimerErrorValueTableCase := case + 1
      timerDriftCounter := d.timerDriftCounter + 1 }
  else if 0 < d.timerDriftCounter then
    { d with timerDriftCounter := d.timerDriftCounter - 1 }
  else d

/-- The sum and the quotient are computed in `unsigned int`. -/
def getAverageQuartzError (d : Driver) : Word :=
  d.ppsTimerErrorValueTable.foldl (· + ·) 0 / 16

/-- The returned status and the driver after the call. -/
def setGpsStatus (d : Driver) (gpsDriverStatus : Word) : Int × Driver :=
  if gpsDriverStatus = 0 then (0, { d with gpsStatus := 0 })
  else if gpsDriverStatus = 1 then (0, { d with gpsStatus := 1 })
  else (-errSetGpsStatusSpecifiedStatus, d)

/-- The circular buffer of preemption times, written by both handlers. -/
def savePreemptionTime (d : Driver) (preemptMicroSeconds : Word) : Driver :=
  let case := if preemptionTimeValueNumber ≤ d.lastUsedPreemptTimeValueTableCase then 0
    else d.lastUsedPreemptTimeValueTableCase
  { d with
    preemptTimeValueTable := d.preemptTimeValueTable.setIfInBounds case preemptMicroSeconds
    lastUsedPreemptTimeValueTableCase := case + 1 }

/-- The part of `RelayTimerIrqHandler` that depends on the state. -/
def relayStateBranch (d : Driver) : Driver :=
  if d.driverCurrentState = .gpsOff then
    let d := secondIncrements d 1
    let d := { d with relayTimerLeftTime := d.relayTimerLeftTime - 1 }
    let d := if 0 < d.relayTimerLeftTime then { d with driverCurrentState := .gpsOff }
      else (setGpsStatus d 1).2
    { d with readKind := 2, readDone := 1 }
  else d

/-- The counter value written when the static counter of the handler is 10. The early
and late differences the handler computes before it are not used. -/
def relayCorrection (d : Driver) (r : RelayReads) : Word :=
  let relayTimerPreemptVal := r.preemptTimerValue - d.timerReloadValue
  let ppsTimerValWhenRelayTrig := r.ppsTimerValue - relayTimerPreemptVal
  let diffPps := (ppsTimerValWhenRelayTrig - r.ppsCaptureValue) +
    (d.relayTimerInputClock / 1000000) * 3
  r.correctionTimerValue + diffPps

def relayPhaseCorrection (d : Driver) (r : RelayReads) : Driver :=
  if d.relayHandlerCount = 10 then
    { d with relayTimer.writtenCounter := some (relayCorrection d r) }
  else d

def relayTimerIrqHandler (d : Driver) (r : RelayReads) : Driver :=
  let d := relayPhaseCorrection (relayStateBranch d) r
  let d := { d with dataSupplied := 0 }
  let d := savePreemptionTime d
    ((r.preemptTimerValue - d.timerReloadValue) / (d.relayTimerInputClock / 1000000))
  { d with relayHandlerCount := d.relayHandlerCount + 1 }

/-- The official record set in `STATE_Initialization`, with the bit patterns of the
literals 4709.37471 and 00138.29279. -/
def initialOfficialData : GpsData where
  timeInSeconds := 1340982288
  latitude := 0x40b2655fecfe9b7c
  longitude := 0x4061495e89225311
  latitudeRef := 78
  longitudeRef := 87
  quality := 0
  nbSat := 0

/-- The upload that starts `STATE_Wait_for_Gps_Fixed` and `STATE_Gps_Fixed`. -/
def uploadSupplied (d : Driver) : Driver :=
  { d with gpsOfficialData :=
      if d.dataSupplied = 1 then d.gpsTemporaryData else d.gpsOfficialData }

def ppsInitialization (d : Driver) : Driver :=
  let d := (setGpsStatus d 1).2
  { d with
    relayTimerLeftTime := d.gpsTimeToOff
    timerDriftCounter := 0
    lastUsedTimerErrorValueTableCase := 0
    gpsOfficialData := initialOfficialData
    gpsTemporaryData := .zero
    ppsTimerErrorValueTable := Vector.replicate _ 0
    driverCurrentState := .waitForGpsFixed }

def ppsWaitForGpsFixed (d : Driver) (r : PpsReads) : Driver :=
  let d := computeAndAddQuartzError (uploadSupplied d) r.captureTimerValue
  if quartzDriftNumber ≤ d.timerDriftCounter.toNat then
    { d with driverCurrentState := .gpsFixed }
  else { d with driverCurrentState := .waitForGpsFixed }

/-- The condition under which `STATE_Gps_Fixed` starts the relay timer. -/
def relayLaunchAllowed (d : Driver) : Prop :=
  d.driverRunningMode = mode3 ∧ d.ppsTimerInputClock = d.relayTimerInputClock

instance (d : Driver) : Decidable (relayLaunchAllowed d) := inferInstanceAs (Decidable (_ ∧ _))

def launchRelayTimer (d : Driver) (r : PpsReads) : Driver :=
  let reload : Word := 0xFFFFFFFF - ((r.captureTimerValue - d.lastTimerValue) - 1)
  { d with
    timerReloadValue := reload
    relayTimer := { d.relayTimer with started := true, loadValue := reload }
    relayTimerLeftTime := d.gpsTimeToOff
    driverCurrentState := .switchGpsToOff }

def ppsGpsFixed (d : Driver) (r : PpsReads) : Driver :=
  let d := computeAndAddQuartzError (uploadSupplied d) r.captureTimerValue
  let d := { d with
    averageTimerErrorValue := (getAverageQuartzError d * 1000000) / d.ppsTimerInputClock }
  if d.timerDriftCounter.toNat < quartzDriftNumber then
    { d with driverCurrentState := .waitForGpsFixed }
  else if relayLaunchAllowed d then launchRelayTimer d r
  else { d with driverCurrentState := .gpsFixed }

def ppsSwitchGpsToOff (d : Driver) : Driver :=
  let d := secondIncrements (setGpsStatus d 0).2 1
  { d with dataSupplied := 0, readKind := 1, readDone := 1, driverCurrentState := .gpsOff }

def ppsStateBranch (d : Driver) (r : PpsReads) : Driver :=
  match d.driverCurrentState with
  | .initialization => ppsInitialization d
  | .waitForGpsFixed => ppsWaitForGpsFixed d r
  | .gpsFixed => ppsGpsFixed d r
  | .switchGpsToOff => ppsSwitchGpsToOff d
  | .gpsOff => { d with driverCurrentState := .gpsOff }

/-- What every PPS does after the state switch. -/
def ppsTail (d : Driver) (r : PpsReads) : Driver :=
  let d := { d with lastTimerValue := r.captureTimerValue }
  let d := { d with oldLastTimerValue := d.lastTimerValue }
  let d := { d with dataSupplied := 0, readKind := 1, readDone := 1 }
  savePreemptionTime d
    ((r.preemptTimerValue - d.lastTimerValue) / (d.ppsTimerInputClock / 1000000))

def ppsTimerIrqHandler (d : Driver) (r : PpsReads) : Driver :=
  ppsTail (ppsStateBranch d r) r

end Gumstix.Synchronization
