import Mathlib.Data.BitVec

/-!
# Data of the synchronization driver

The global variables of the driver, the records it exchanges with its users, and the
values its interrupt handlers read from the two timers. Machine integers are 32-bit
words (the target is a 32-bit ARM, so `time_t` and `long` are 32 bits wide as well);
`double` fields are only copied and are kept as their bit patterns.
-/
namespace Gumstix.Synchronization

abbrev Word := BitVec 32

abbrev quartzDriftNumber : Nat := 16
abbrev preemptionTimeValueNumber : Nat := 32
abbrev gpsMaximumOffTime : Word := 60

abbrev mode1 : Word := 901
abbrev mode2 : Word := 902
abbrev mode3 : Word := 903

/-- The bits of a poll mask that announce data to read. -/
def pollin : Word := 0x0001
def pollrdnorm : Word := 0x0040

/-- `SYCHRONIZATION_DRIVER_STATES`; the variable of this type is only ever assigned
its enumerators, so the `default` branch of the state switch has no counterpart. -/
inductive DriverState where
  | initialization
  | waitForGpsFixed
  | gpsFixed
  | switchGpsToOff
  | gpsOff
  deriving DecidableEq, Repr

/-- The number stored by an enumerator, as `SYNC_IOCTL_GET_DRIVER_STATE` reports it. -/
def DriverState.toWord : DriverState → Word
  | .initialization => 0
  | .waitForGpsFixed => 1
  | .gpsFixed => 2
  | .switchGpsToOff => 3
  | .gpsOff => 4

structure GpsData where
  timeInSeconds : Word
  latitude : BitVec 64
  longitude : BitVec 64
  latitudeRef : BitVec 8
  longitudeRef : BitVec 8
  quality : Word
  nbSat : Word
  deriving DecidableEq, Repr

/-- What `memset(&..., 0, sizeof(GpsData))` leaves. -/
def GpsData.zero : GpsData := ⟨0, 0, 0, 0, 0, 0, 0⟩

structure GeoDatationData where
  data : GpsData
  microSecond : Word
  quartzError : Word
  driverMode : Word
  deriving DecidableEq, Repr

/-- The relay timer as the driver commands it: whether `omap_dm_timer_set_load_start`
was called, the load value it was given, and the last value written to its counter. -/
structure RelayTimer where
  started : Bool
  loadValue : Word
  writtenCounter : Option Word
  deriving DecidableEq, Repr

structure Driver where
  gpsOfficialData : GpsData
  gpsTemporaryData : GpsData
  dataSupplied : Word
  driverRunningMode : Word
  driverCurrentState : DriverState
  ppsTimerInputClock : Word
  lastTimerValue : Word
  oldLastTimerValue : Word
  ppsTimerErrorValueTable : Vector Word quartzDriftNumber
  lastUsedTimerErrorValueTableCase : Nat
  averageTimerErrorValue : Word
  timerDriftCounter : Word
  relayTimerInputClock : Word
  relayTimerLeftTime : Word
  timerReloadValue : Word
  relayTimer : RelayTimer
  gpsTimeToOff : Word
  gpsStatus : Word
  preemptTimeValueTable : Vector Word preemptionTimeValueNumber
  lastUsedPreemptTimeValueTableCase : Nat
  readDone : Word
  readKind : Word
  /-- The static local `i` of `RelayTimerIrqHandler`. -/
  relayHandlerCount : Word
  deriving DecidableEq, Repr

/-- What `PpsTimerIrqHandler` reads: the counter on entry and the capture register.
The counter it reads again when it launches the relay timer is not used. -/
structure PpsReads where
  preemptTimerValue : Word
  captureTimerValue : Word
  deriving DecidableEq, Repr

/-- What `RelayTimerIrqHandler` reads: both counters and the capture register on entry,
and the relay counter once more for the phase correction. -/
structure RelayReads where
  preemptTimerValue : Word
  ppsTimerValue : Word
  ppsCaptureValue : Word
  correctionTimerValue : Word
  deriving DecidableEq, Repr

/-- The two counters as a reader finds them at one instant. -/
structure Counters where
  ppsCounter : Word
  relayCounter : Word
  deriving DecidableEq, Repr

/-- The driver when `Synchronization_initialize` returns 0, for the clock rates that
`clk_get_rate` gave. No interrupt is handled before the load has completed. -/
def synchronizationInitialize (ppsClock relayClock : Word) : Driver where
  gpsOfficialData := .zero
  gpsTemporaryData := .zero
  dataSupplied := 0
  driverRunningMode := mode1
  driverCurrentState := .initialization
  ppsTimerInputClock := ppsClock
  lastTimerValue := 0
  oldLastTimerValue := 0
  ppsTimerErrorValueTable := Vector.replicate _ 0
  lastUsedTimerErrorValueTableCase := 0
  averageTimerErrorValue := 0
  timerDriftCounter := 0
  relayTimerInputClock := relayClock
  relayTimerLeftTime := 0
  timerReloadValue := 0
  relayTimer := ⟨false, 0, none⟩
  gpsTimeToOff := 5 * 60
  gpsStatus := 1
  preemptTimeValueTable := Vector.replicate _ 0
  lastUsedPreemptTimeValueTableCase := 0
  readDone := 0
  readKind := 0
  relayHandlerCount := 0

end Gumstix.Synchronization
