import Gumstix.Library.ByteImage
import Gumstix.Library.EventMachine
import Gumstix.Synchronization.HandlerSpecs

/-!
# System calls of the synchronization driver

`EXPORT_GD_DATA_FROM_SYNCHONIZATION_DRIVER`, `Synchronization_ioctl` and the machine that
takes interrupts and ioctls in any order. What the environment supplies to a call (timer
counters, the record at a user address, how far a copy gets) is part of the event.
-/
namespace Gumstix.Synchronization
open ByteImage

def errComputeMicroSecondSpecifiedTimer : Word := 1001
def errIoctlCopyOfficialGdDataToUser : Int := 1041
def errIoctlCopyTemporaryGpsDataFromUser : Int := 1042
def errIoctlSpecifiedMode : Int := 1043
def errIoctlSpecifiedGpsOffTime : Int := 1044
def errIoctlSpecifiedIoctlCommand : Int := 1045

def captureTimerId : Word := 911
def relayTimerId : Word := 912

def computeMicroSecond (d : Driver) (c : Counters) (selectedTimer : Word) : Word :=
  if selectedTimer = captureTimerId then
    (c.ppsCounter - d.lastTimerValue) / (d.ppsTimerInputClock / 1000000)
  else if selectedTimer = relayTimerId then
    (c.relayCounter - d.timerReloadValue) / (d.relayTimerInputClock / 1000000)
  else -errComputeMicroSecondSpecifiedTimer

/-- The timer an export reads, `none` when the running mode is unknown. -/
def selectTimer (d : Driver) : Option Word :=
  if d.driverRunningMode = mode1 then some captureTimerId
  else if d.driverRunningMode = mode2 then some captureTimerId
  else if d.driverRunningMode = mode3 then
    if d.driverCurrentState = .gpsOff then some relayTimerId else some captureTimerId
  else none

def exportGdData (d : Driver) (c : Counters) : GeoDatationData where
  data := d.gpsOfficialData
  microSecond := match selectTimer d with
    | some timer => computeMicroSecond d c timer
    | none => 0
  quartzError := d.averageTimerErrorValue
  driverMode := d.driverRunningMode

theorem selectTimer_congr {d d' : Driver} (mode : d'.driverRunningMode = d.driverRunningMode)
    (off : d.driverRunningMode = mode3 →
      (d'.driverCurrentState = .gpsOff ↔ d.driverCurrentState = .gpsOff)) :
    selectTimer d' = selectTimer d := by
  unfold selectTimer
  rw [mode]
  by_cases three : d.driverRunningMode = mode3
  · simp only [off three]
  · simp only [if_neg three]

theorem selectTimer_eq_none {d : Driver} : selectTimer d = none ↔
    d.driverRunningMode ≠ mode1 ∧ d.driverRunningMode ≠ mode2 ∧ d.driverRunningMode ≠ mode3 := by
  unfold selectTimer
  split_ifs <;> simp_all

theorem selectTimer_eq_relay {d : Driver} (h : selectTimer d = some relayTimerId) :
    d.driverCurrentState = .gpsOff := by
  unfold selectTimer at h
  split_ifs at h with one two three off
  · exact absurd h (by decide)
  · exact absurd h (by decide)
  · exact off
  · exact absurd h (by decide)

theorem selectTimer_tracking {d : Driver} (h : Tracking d) :
    selectTimer d = none ∨ selectTimer d = some captureTimerId := by
  have on : d.driverCurrentState ≠ .gpsOff := by
    rcases h with h | h <;> rw [h] <;> decide
  unfold selectTimer
  split_ifs <;> simp

/-- The fields of `GpsData` in the order of the structure, with the padding that aligns
the first `double` to 8 bytes, the first `int` to 4 and the whole to 8. -/
def GpsData.fields : GpsData ≃
    Word × Unit × BitVec 64 × BitVec 64 × BitVec 8 × BitVec 8 × Unit × Word × Word × Unit where
  toFun g := (g.timeInSeconds, (), g.latitude, g.longitude, g.latitudeRef, g.longitudeRef, (),
    g.quality, g.nbSat, ())
  invFun f := ⟨f.1, f.2.2.1, f.2.2.2.1, f.2.2.2.2.1, f.2.2.2.2.2.1, f.2.2.2.2.2.2.2.1,
    f.2.2.2.2.2.2.2.2.1⟩

def GpsData.layout : Layout GpsData :=
  .along GpsData.fields
    ((Layout.word 32 4 rfl).seq <| (Layout.padding 4).seq <| (Layout.word 64 8 rfl).seq <|
      (Layout.word 64 8 rfl).seq <| (Layout.word 8 1 rfl).seq <| (Layout.word 8 1 rfl).seq <|
      (Layout.padding 2).seq <| (Layout.word 32 4 rfl).seq <| (Layout.word 32 4 rfl).seq <|
      Layout.padding 4)

def sizeofGpsData : Nat := 40
def sizeofGeoDatationData : Nat := 56

/-- `_IOC` with a magic letter; `dir` is 0 for `_IO`, 1 for `_IOW`, 3 for `_IOWR`. -/
def ioc (dir magic : Word) (size : Nat) (nr : Word) : Word :=
  (dir <<< 30) ||| (BitVec.ofNat 32 size <<< 16) ||| (magic <<< 8) ||| nr

/-- `'S'`. -/
def syncMagic : Word := 0x53

def syncIoctlGetOfficialGdData : Word := ioc 3 syncMagic sizeofGeoDatationData 0x41
def syncIoctlGetDriverMode : Word := ioc 0 syncMagic 0 0x42
def syncIoctlGetDriverState : Word := ioc 0 syncMagic 0 0x43
def syncIoctlGetGpsStatus : Word := ioc 0 syncMagic 0 0x44
def syncIoctlGetTimeSinceGpsOff : Word := ioc 0 syncMagic 0 0x45
def syncIoctlGetGpsOffTime : Word := ioc 0 syncMagic 0 0x46
def syncIoctlGetTemperature : Word := ioc 0 syncMagic 0 0x47
def syncIoctlGetCaptureTimerClock : Word := ioc 0 syncMagic 0 0x48
def syncIoctlGetRelayTimerClock : Word := ioc 0 syncMagic 0 0x49
def syncIoctlSetTemporaryGpsData : Word := ioc 1 syncMagic sizeofGpsData 0x51
def syncIoctlSetDriverMode : Word := ioc 0 syncMagic 0 0x52
def syncIoctlSetGpsOffTime : Word := ioc 0 syncMagic 0 0x56

/-- What the environment supplies to one ioctl: the timer counters an export reads, the
bytes `copy_to_user` leaves uncopied, the record at the user address and the number of
its bytes that `copy_from_user` copies before it stops. -/
structure UserAccess where
  counters : Counters
  notCopiedToUser : Nat
  record : GpsData
  copiedFromUser : Nat
  deriving DecidableEq, Repr

inductive UserStore where
  | word (value : Word)
  | geoDatation (value : GeoDatationData)
  deriving DecidableEq, Repr

/-- The returned value, the driver after the call and what was stored at `arg`. -/
structure IoctlResult where
  ret : Int
  driver : Driver
  stored : Option UserStore
  deriving DecidableEq, Repr

/-- `copy_from_user` into the live temporary record, stopped after `n` bytes. -/
def copyTemporaryGpsData (d : Driver) (record : GpsData) (n : Nat) : Driver :=
  { d with gpsTemporaryData := GpsData.layout.copyBytes record d.gpsTemporaryData n }

def setTemporaryGpsData (d : Driver) (u : UserAccess) : IoctlResult :=
  if u.copiedFromUser < sizeofGpsData then
    ⟨-errIoctlCopyTemporaryGpsDataFromUser,
      copyTemporaryGpsData d u.record u.copiedFromUser, none⟩
  else ⟨0, { copyTemporaryGpsData d u.record sizeofGpsData with dataSupplied := 1 }, none⟩

/-- The range check of the source joins its two comparisons with `&&`. -/
def setDriverMode (d : Driver) (arg : Word) : IoctlResult :=
  if arg < mode1 ∧ arg > mode3 then ⟨-errIoctlSpecifiedMode, d, none⟩
  else ⟨0, { d with driverRunningMode := arg }, none⟩

def setGpsOffTime (d : Driver) (arg : Word) : IoctlResult :=
  if arg > gpsMaximumOffTime then ⟨-errIoctlSpecifiedGpsOffTime, d, none⟩
  else ⟨0, { d with gpsTimeToOff := arg * 60 }, none⟩

/-- The commands that read store through `arg` without a check; it is taken to be memory apart from
the variables of the driver. -/
def synchronizationIoctl (d : Driver) (cmd arg : Word) (u : UserAccess) : IoctlResult :=
  let answer (value : Word) : IoctlResult := ⟨0, d, some (.word value)⟩
  if cmd = syncIoctlGetOfficialGdData then
    if u.notCopiedToUser ≠ 0 then ⟨-errIoctlCopyOfficialGdDataToUser, d, none⟩
    else ⟨0, d, some (.geoDatation (exportGdData d u.counters))⟩
  else if cmd = syncIoctlGetDriverMode then answer d.driverRunningMode
  else if cmd = syncIoctlGetDriverState then answer d.driverCurrentState.toWord
  else if cmd = syncIoctlGetGpsStatus then answer d.gpsStatus
  else if cmd = syncIoctlGetTimeSinceGpsOff then
    answer (if d.gpsStatus = 0 then d.gpsTimeToOff - d.relayTimerLeftTime else 0)
  else if cmd = syncIoctlGetGpsOffTime then answer (d.gpsTimeToOff / 60)
  else if cmd = syncIoctlGetTemperature then answer 32
  else if cmd = syncIoctlGetCaptureTimerClock then answer d.ppsTimerInputClock
  else if cmd = syncIoctlGetRelayTimerClock then answer d.relayTimerInputClock
  else if cmd = syncIoctlSetTemporaryGpsData then setTemporaryGpsData d u
  else if cmd = syncIoctlSetDriverMode then setDriverMode d arg
  else if cmd = syncIoctlSetGpsOffTime then setGpsOffTime d arg
  else ⟨-errIoctlSpecifiedIoctlCommand, d, none⟩

section ioctl
variable (d : Driver) (cmd arg : Word) (u : UserAccess)

private theorem ite_driver {P : Driver → Prop} {c : Prop} [Decidable c] {a b : IoctlResult}
    (ha : c → P a.driver) (hb : P b.driver) : P (if c then a else b).driver := by
  by_cases h : c
  · rw [if_pos h]
    exact ha h
  · rw [if_neg h]
    exact hb

/-- Everything an ioctl can do to the driver. -/
@[elab_as_elim] theorem ioctl_cases {P : Driver → Prop} (same : P d)
    (stopped : cmd = syncIoctlSetTemporaryGpsData →
      ∀ n < sizeofGpsData, P (copyTemporaryGpsData d u.record n))
    (supplied : cmd = syncIoctlSetTemporaryGpsData →
      P { copyTemporaryGpsData d u.record sizeofGpsData with dataSupplied := 1 })
    (mode : cmd = syncIoctlSetDriverMode → P { d with driverRunningMode := arg })
    (offTime : cmd = syncIoctlSetGpsOffTime → arg ≤ gpsMaximumOffTime →
      P { d with gpsTimeToOff := arg * 60 }) :
    P (synchronizationIoctl d cmd arg u).driver := by
  have temporary : cmd = syncIoctlSetTemporaryGpsData → P (setTemporaryGpsData d u).driver := by
    intro set
    unfold setTemporaryGpsData
    exact ite_driver (stopped set _) (supplied set)
  have running : cmd = syncIoctlSetDriverMode → P (setDriverMode d arg).driver :=
    fun set => ite_driver (fun _ => same) (mode set)
  have off : cmd = syncIoctlSetGpsOffTime → P (setGpsOffTime d arg).driver := by
    intro set
    unfold setGpsOffTime
    by_cases above : arg > gpsMaximumOffTime
    · rw [if_pos above]
      exact same
    · rw [if_neg above]
      exact offTime set (BitVec.not_lt.mp above)
  unfold synchronizationIoctl
  refine ite_driver (fun _ => ite_driver (fun _ => same) same) ?_
  iterate 8 refine ite_driver (fun _ => same) ?_
  exact ite_driver temporary (ite_driver running (ite_driver off same))

/-- A record whose copy succeeds. -/
theorem ioctl_supply (complete : sizeofGpsData ≤ u.copiedFromUser) :
    (synchronizationIoctl d syncIoctlSetTemporaryGpsData arg u).driver =
      { d with gpsTemporaryData := u.record, dataSupplied := 1 } := by
  have whole : GpsData.layout.copyBytes u.record d.gpsTemporaryData sizeofGpsData = u.record :=
    GpsData.layout.copyBytes_size u.record d.gpsTemporaryData
  unfold synchronizationIoctl
  iterate 9 rw [if_neg (by decide)]
  rw [if_pos rfl, setTemporaryGpsData, if_neg (Nat.not_lt.mpr complete)]
  simp only [copyTemporaryGpsData, whole]

/-- The fields no ioctl touches. -/
structure SameRun (d d' : Driver) : Prop where
  state : d'.driverCurrentState = d.driverCurrentState
  drift : d'.timerDriftCounter = d.timerDriftCounter
  relay : d'.relayTimer = d.relayTimer
  gps : d'.gpsStatus = d.gpsStatus
  left : d'.relayTimerLeftTime = d.relayTimerLeftTime
  official : d'.gpsOfficialData = d.gpsOfficialData
  last : d'.lastTimerValue = d.lastTimerValue
  ppsClock : d'.ppsTimerInputClock = d.ppsTimerInputClock
  relayClock : d'.relayTimerInputClock = d.relayTimerInputClock

/-- Only one ioctl writes the temporary record and its flag. -/
theorem ioctl_temporary (other : cmd ≠ syncIoctlSetTemporaryGpsData) :
    (synchronizationIoctl d cmd arg u).driver.gpsTemporaryData = d.gpsTemporaryData ∧
      (synchronizationIoctl d cmd arg u).driver.dataSupplied = d.dataSupplied :=
  ioctl_cases (P := fun d' => d'.gpsTemporaryData = d.gpsTemporaryData ∧
      d'.dataSupplied = d.dataSupplied) d cmd arg u ⟨rfl, rfl⟩ (fun set => absurd set other)
    (fun set => absurd set other) (fun _ => ⟨rfl, rfl⟩) fun _ _ => ⟨rfl, rfl⟩

theorem ioctl_sameRun : SameRun d (synchronizationIoctl d cmd arg u).driver := by
  refine ioctl_cases d cmd arg u ?_ ?_ ?_ ?_ ?_ <;> intros <;>
    exact ⟨rfl, rfl, rfl, rfl, rfl, rfl, rfl, rfl, rfl⟩

end ioctl

inductive Event where
  | pps (r : PpsReads)
  | relay (r : RelayReads)
  | ioctl (cmd arg : Word) (u : UserAccess)
  deriving DecidableEq, Repr

def handle (d : Driver) : Event → Driver
  | .pps r => ppsTimerIrqHandler d r
  | .relay r => relayTimerIrqHandler d r
  | .ioctl cmd arg u => (synchronizationIoctl d cmd arg u).driver

/-- A relay overflow needs a running relay timer; the other events are always possible. -/
def possible (d : Driver) : Event → Prop
  | .relay _ => d.relayTimer.started = true
  | _ => True

instance (d : Driver) : (e : Event) → Decidable (possible d e)
  | .relay _ => inferInstanceAs (Decidable (_ = true))
  | .pps _ => .isTrue trivial
  | .ioctl _ _ _ => .isTrue trivial

def driverMachine : EventMachine Driver Event := ⟨possible, handle⟩

instance (d : Driver) (e : Event) : Decidable (driverMachine.enabled d e) :=
  inferInstanceAs (Decidable (possible d e))

/-- The states reachable after a load with the given clock rates. -/
def Reachable (ppsClock relayClock : Word) (d : Driver) : Prop :=
  driverMachine.Reachable (synchronizationInitialize ppsClock relayClock) d

end Gumstix.Synchronization
