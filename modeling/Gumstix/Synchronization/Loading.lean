import Gumstix.Synchronization.State

/-!
# Loading the synchronization driver

`Synchronization_initialize` calls the kernel some thirty times. What it acquires and what it
releases are counted, and the kernel's answers are arbitrary, but for the `ioremap` calls of a
rollback, which succeed.
-/
namespace Gumstix.Synchronization.Loading

abbrev timerMuxPinsNb : Nat := 3

/-- `m_uiPpsTimerRegisterAddress` -/
def ppsTimerRegisterAddress : Fin timerMuxPinsNb → Word
  | 0 => 0x4800217A
  | 1 => 0x480020BC
  | 2 => 0x480021DE

def gpsShutdownGpioRegisterAddress : Word := 0x480020D6
def relayTimerRegisterAddress : Word := 0x48002178

def errPpsTimerConfigurationMuxRequest : Int := 1061
def errPpsTimerConfigurationTimerRequest : Int := 1062
def errPpsTimerConfigurationTimerSetSrcClk : Int := 1063
def errPpsTimerConfigurationTimerGetSrcClk : Int := 1064
def errPpsTimerConfigurationTimerSetCapture : Int := 1065
def errPpsTimerConfigurationTimerSetLoad : Int := 1066
def errPpsTimerConfigurationTimerClearInt : Int := 1067
def errPpsTimerConfigurationRequestIrq : Int := 1068
def errRelayTimerConfigurationTimerRequest : Int := 1081
def errRelayTimerConfigurationTimerSetSrcClk : Int := 1082
def errRelayTimerConfigurationTimerGetSrcClk : Int := 1083
def errRelayTimerConfigurationTimerClearInt : Int := 1084
def errRelayTimerConfigurationRequestIrq : Int := 1085
def errRelayTimerConfigurationTimerSetInt : Int := 1086
def errGpsShutdownGpioConfigurationMuxRequest : Int := 1101
def errGpsShutdownGpioConfigurationGpioRequest : Int := 1102
def errGpsShutdownGpioConfigurationGpioSetDirection : Int := 1103
def errInitAllocChrdevRegion : Int := 1121
def errInitCdevAdd : Int := 1122
def errInitClassCreate : Int := 1123
def errInitDeviceCreate : Int := 1124
def errInitCreateProcEntry : Int := 1125

inductive Resource where
  | chrdevRegion
  | cdev
  | sysClass
  | device
  | procEntry
  | relayTimer
  | ppsTimer
  | relayIrq
  | ppsIrq
  | gpio
  deriving DecidableEq

/-- The mux registers by address, the modes saved, and how often each resource has been
acquired and released. -/
structure LoadState where
  mux : Word → BitVec 16
  ppsTimerPreviousMode : Fin timerMuxPinsNb → Word
  gpsShutdownGpioPreviousMode : Word
  acquired : Resource → Nat
  released : Resource → Nat

/-- Before the load. -/
def beforeLoad (mux : Word → BitVec 16) : LoadState where
  mux := mux
  ppsTimerPreviousMode _ := 0x010F
  gpsShutdownGpioPreviousMode := 0x010F
  acquired _ := 0
  released _ := 0

/-- A pointer that a kernel function returns. -/
inductive Pointer where
  | valid
  | null
  | error
  deriving DecidableEq

def isErr : Pointer → Bool
  | .error => true
  | .valid | .null => false

/-- `class_create` and `device_create` return an error pointer when they fail. -/
def errorPointer (created : Bool) : Pointer := if created then .valid else .error

/-- `create_proc_read_entry` returns a null pointer when it fails. -/
def nullPointer (created : Bool) : Pointer := if created then .valid else .null

@[simp] theorem isErr_errorPointer (created : Bool) : isErr (errorPointer created) = !created := by
  cases created <;> rfl

/-- `IS_ERR` does not see that `create_proc_read_entry` failed. -/
@[simp] theorem isErr_nullPointer (created : Bool) : isErr (nullPointer created) = false := by
  cases created <;> rfl

structure RelayTimerReplies where
  mapped : Bool
  timerRequested : Bool
  setSource : Int
  fclk : Bool
  clearInt : Int
  requestIrq : Int
  setInt : Int

structure GpsGpioReplies where
  mapped : Bool
  gpioRequest : Int
  directionOutput : Int

structure PpsTimerReplies where
  mapped : Fin timerMuxPinsNb → Bool
  timerRequested : Bool
  setSource : Int
  fclk : Bool
  setCapture : Int
  setLoad : Int
  clearInt : Int
  requestIrq : Int

structure LoadReplies where
  allocChrdevRegion : Int
  cdevAdd : Int
  classCreated : Bool
  deviceCreated : Bool
  procCreated : Bool
  relayTimer : RelayTimerReplies
  gpsGpio : GpsGpioReplies
  ppsTimer : PpsTimerReplies

section functions
variable (s : LoadState)

def LoadState.acquire (r : Resource) : LoadState :=
  { s with acquired := Function.update s.acquired r (s.acquired r + 1) }

def LoadState.release (r : Resource) : LoadState :=
  { s with released := Function.update s.released r (s.released r + 1) }

def LoadState.iowrite16 (value : BitVec 16) (addr : Word) : LoadState :=
  { s with mux := Function.update s.mux addr value }

/-- A register is written back if its mode is not the previous one. -/
def LoadState.restore (previous addr : Word) : LoadState :=
  if (s.mux addr).setWidth 32 ≠ previous then s.iowrite16 (previous.setWidth 16) addr else s

/-- The loop that sets the modes of the Pps timer; it is left at once when a register cannot be
mapped. -/
def muxPpsTimer (mapped : Fin timerMuxPinsNb → Bool) :
    LoadState → List (Fin timerMuxPinsNb) → Bool × LoadState
  | s, [] => (true, s)
  | s, i :: rest =>
      if mapped i then
        let addr := ppsTimerRegisterAddress i
        let saved := { s with
          ppsTimerPreviousMode :=
            Function.update s.ppsTimerPreviousMode i ((s.mux addr).setWidth 32) }
        muxPpsTimer mapped (saved.iowrite16 (if i = 0 then 0xC102 else 0x010F) addr) rest
      else (false, s)

/-- The loop of `out_pps_timer_unmux`. -/
def unmuxPpsTimer : LoadState :=
  (List.finRange timerMuxPinsNb).foldl
    (fun s i => s.restore (s.ppsTimerPreviousMode i) (ppsTimerRegisterAddress i)) s

def ppsTimerConfiguration (k : PpsTimerReplies) : Int × LoadState :=
  let (muxed, s) := muxPpsTimer k.mapped s (List.finRange timerMuxPinsNb)
  if ¬ muxed then (-errPpsTimerConfigurationMuxRequest, s)
  else if ¬ k.timerRequested then (-errPpsTimerConfigurationTimerRequest, unmuxPpsTimer s)
  else
    let s := s.acquire .ppsTimer
    let outPpsTimerFree := unmuxPpsTimer (s.release .ppsTimer)
    if k.setSource ≠ 0 then (-errPpsTimerConfigurationTimerSetSrcClk, outPpsTimerFree)
    else if ¬ k.fclk then (-errPpsTimerConfigurationTimerGetSrcClk, outPpsTimerFree)
    else if k.setCapture < 0 then (-errPpsTimerConfigurationTimerSetCapture, outPpsTimerFree)
    else if k.setLoad < 0 then (-errPpsTimerConfigurationTimerSetLoad, outPpsTimerFree)
    else if k.clearInt < 0 then (-errPpsTimerConfigurationTimerClearInt, outPpsTimerFree)
    else if k.requestIrq ≠ 0 then (-errPpsTimerConfigurationRequestIrq, outPpsTimerFree)
    -- The result of the last `omap_dm_timer_set_int_enable` is not assigned to `iRet`, so that
    -- the test after it sees the 0 of `request_irq`.
    else (0, s.acquire .ppsIrq)

def relayTimerConfiguration (k : RelayTimerReplies) : Int × LoadState :=
  if ¬ k.mapped then (-errPpsTimerConfigurationMuxRequest, s)
  else
    let s := s.iowrite16 0x0002 relayTimerRegisterAddress
    if ¬ k.timerRequested then (-errRelayTimerConfigurationTimerRequest, s)
    else
      let s := s.acquire .relayTimer
      let outRelayTimerFree := s.release .relayTimer
      if k.setSource ≠ 0 then (-errRelayTimerConfigurationTimerSetSrcClk, outRelayTimerFree)
      else if ¬ k.fclk then (-errRelayTimerConfigurationTimerGetSrcClk, outRelayTimerFree)
      else if k.clearInt < 0 then (-errRelayTimerConfigurationTimerClearInt, outRelayTimerFree)
      else if k.requestIrq ≠ 0 then (-errRelayTimerConfigurationRequestIrq, outRelayTimerFree)
      else
        let s := s.acquire .relayIrq
        if k.setInt < 0 then
          (-errRelayTimerConfigurationTimerSetInt, s.release .relayTimer)
        else (k.setInt, s)

def gpsSoftwareShutdownGpioConfiguration (k : GpsGpioReplies) : Int × LoadState :=
  if ¬ k.mapped then (-errGpsShutdownGpioConfigurationMuxRequest, s)
  else
    let addr := gpsShutdownGpioRegisterAddress
    let saved := { s with gpsShutdownGpioPreviousMode := (s.mux addr).setWidth 32 }
    let s := saved.iowrite16 0x010C addr
    let outGpioUnmux := fun s : LoadState => s.restore s.gpsShutdownGpioPreviousMode addr
    if k.gpioRequest < 0 then (-errGpsShutdownGpioConfigurationGpioRequest, outGpioUnmux s)
    else
      let s := s.acquire .gpio
      if k.directionOutput < 0 then
        (-errGpsShutdownGpioConfigurationGpioSetDirection, outGpioUnmux (s.release .gpio))
      else (k.directionOutput, s)

/-! The exit shortcuts of `Synchronization_initialize`. -/

def outUnregister : LoadState := s.release .chrdevRegion

def outCdevDel : LoadState := outUnregister (s.release .cdev)

def outDeviceDel : LoadState := outCdevDel (s.release .device)

def outProcDel : LoadState := outDeviceDel (s.release .procEntry)

/-- The timers and the GPIO, once the files of the driver are there. What follows them in
`Synchronization_initialize` does not change what it returns: `kthread_create` may fail, but nothing
looks at its result, and it is left out. -/
def configureAll (k : LoadReplies) : Int × LoadState :=
  let (iRet, s) := relayTimerConfiguration s k.relayTimer
  if iRet < 0 then (iRet, outProcDel s)
  else
    let (iRet, s) := gpsSoftwareShutdownGpioConfiguration s k.gpsGpio
    if iRet < 0 then (iRet, outProcDel s)
    else
      let (iRet, s) := ppsTimerConfiguration s k.ppsTimer
      if iRet < 0 then (iRet, outProcDel s) else (iRet, s)

def synchronizationInitialize (k : LoadReplies) : Int × LoadState :=
  if k.allocChrdevRegion < 0 then (-errInitAllocChrdevRegion, s)
  else
    let s := s.acquire .chrdevRegion
    if k.cdevAdd ≠ 0 then (-errInitCdevAdd, outUnregister s)
    else
      let s := s.acquire .cdev
      if isErr (errorPointer k.classCreated) then (-errInitClassCreate, outCdevDel s)
      else
        let s := s.acquire .sysClass
        if isErr (errorPointer k.deviceCreated) then (-errInitDeviceCreate, outCdevDel s)
        else
          let s := s.acquire .device
          if isErr (nullPointer k.procCreated) then (-errInitCreateProcEntry, outDeviceDel s)
          else configureAll (if k.procCreated then s.acquire .procEntry else s) k

end functions

def RelayTimerReplies.Passes (k : RelayTimerReplies) : Prop :=
  k.mapped = true ∧ k.timerRequested = true ∧ k.setSource = 0 ∧ k.fclk = true ∧ 0 ≤ k.clearInt ∧
    k.requestIrq = 0 ∧ 0 ≤ k.setInt

def GpsGpioReplies.Passes (k : GpsGpioReplies) : Prop :=
  k.mapped = true ∧ 0 ≤ k.gpioRequest ∧ 0 ≤ k.directionOutput

def PpsTimerReplies.Passes (k : PpsTimerReplies) : Prop :=
  (∀ i, k.mapped i = true) ∧ k.timerRequested = true ∧ k.setSource = 0 ∧ k.fclk = true ∧
    0 ≤ k.setCapture ∧ 0 ≤ k.setLoad ∧ 0 ≤ k.clearInt ∧ k.requestIrq = 0

/-- One of the first three calls fails. -/
def LoadReplies.FailsEarly (k : LoadReplies) : Prop :=
  k.allocChrdevRegion < 0 ∨ k.cdevAdd ≠ 0 ∨ k.classCreated = false

/-- No call fails whose failure the driver notices. -/
def LoadReplies.Passes (k : LoadReplies) : Prop :=
  ¬ k.FailsEarly ∧ k.deviceCreated = true ∧ k.relayTimer.Passes ∧ k.gpsGpio.Passes ∧
    k.ppsTimer.Passes

/-- What a load that fails should leave: every resource acquired has been released once, no
other one has been released, and the mux registers hold their initial values. -/
structure Undone (before after : LoadState) : Prop where
  released : ∀ r, 0 < after.acquired r → after.released r = 1
  untouched : ∀ r, after.acquired r = 0 → after.released r = 0
  ppsTimer : ∀ i, after.mux (ppsTimerRegisterAddress i) = before.mux (ppsTimerRegisterAddress i)
  gpsGpio : after.mux gpsShutdownGpioRegisterAddress = before.mux gpsShutdownGpioRegisterAddress

/-- The counts of `r` are the same in both states. -/
structure SameCounts (r : Resource) (s s' : LoadState) : Prop where
  acquired : s'.acquired r = s.acquired r
  released : s'.released r = s.released r

theorem SameCounts.refl (r : Resource) (s : LoadState) : SameCounts r s s := ⟨rfl, rfl⟩

theorem SameCounts.trans {r : Resource} {s t u : LoadState} (h : SameCounts r s t)
    (h' : SameCounts r t u) : SameCounts r s u :=
  ⟨h'.acquired.trans h.acquired, h'.released.trans h.released⟩

section frames
variable {r : Resource} (s : LoadState)

theorem acquire_sameCounts {q : Resource} (h : r ≠ q) : SameCounts r s (s.acquire q) :=
  ⟨Function.update_of_ne h _ _, rfl⟩

theorem release_sameCounts {q : Resource} (h : r ≠ q) : SameCounts r s (s.release q) :=
  ⟨rfl, Function.update_of_ne h _ _⟩

theorem restore_sameCounts (previous addr : Word) : SameCounts r s (s.restore previous addr) := by
  unfold LoadState.restore
  split
  · exact ⟨rfl, rfl⟩
  · exact SameCounts.refl r s

theorem muxPpsTimer_sameCounts (mapped : Fin timerMuxPinsNb → Bool)
    (pins : List (Fin timerMuxPinsNb)) : SameCounts r s (muxPpsTimer mapped s pins).2 := by
  induction pins generalizing s with
  | nil => exact SameCounts.refl r s
  | cons i rest ih =>
    unfold muxPpsTimer
    split
    · apply SameCounts.trans _ (ih _)
      exact ⟨rfl, rfl⟩
    · exact SameCounts.refl r s

theorem unmuxPpsTimer_sameCounts : SameCounts r s (unmuxPpsTimer s) := by
  unfold unmuxPpsTimer
  induction List.finRange timerMuxPinsNb generalizing s with
  | nil => exact SameCounts.refl r s
  | cons i rest ih => exact (restore_sameCounts s _ _).trans (ih _)

theorem relayTimerConfiguration_sameCounts (k : RelayTimerReplies) (ht : r ≠ .relayTimer)
    (hi : r ≠ .relayIrq) : SameCounts r s (relayTimerConfiguration s k).2 := by
  have muxed (t : LoadState) : SameCounts r t (t.iowrite16 0x0002 relayTimerRegisterAddress) :=
    ⟨rfl, rfl⟩
  have taken := (muxed s).trans (acquire_sameCounts _ ht)
  have freed := taken.trans (release_sameCounts _ ht)
  have hooked := taken.trans (acquire_sameCounts _ hi)
  unfold relayTimerConfiguration
  dsimp only
  split
  · exact SameCounts.refl r s
  split
  · exact muxed s
  split
  · exact freed
  split
  · exact freed
  split
  · exact freed
  split
  · exact freed
  split
  · exact hooked.trans (release_sameCounts _ ht)
  · exact hooked

theorem gpsSoftwareShutdownGpioConfiguration_sameCounts (k : GpsGpioReplies) (h : r ≠ .gpio) :
    SameCounts r s (gpsSoftwareShutdownGpioConfiguration s k).2 := by
  have muxed : SameCounts r s ({ s with
      gpsShutdownGpioPreviousMode := (s.mux gpsShutdownGpioRegisterAddress).setWidth 32 }.iowrite16
        0x010C gpsShutdownGpioRegisterAddress) := ⟨rfl, rfl⟩
  have taken := muxed.trans (acquire_sameCounts _ h)
  unfold gpsSoftwareShutdownGpioConfiguration
  dsimp only
  split
  · exact SameCounts.refl r s
  split
  · exact muxed.trans (restore_sameCounts _ _ _)
  split
  · exact (taken.trans (release_sameCounts _ h)).trans (restore_sameCounts _ _ _)
  · exact taken

theorem ppsTimerConfiguration_sameCounts (k : PpsTimerReplies) (ht : r ≠ .ppsTimer)
    (hi : r ≠ .ppsIrq) : SameCounts r s (ppsTimerConfiguration s k).2 := by
  have muxed := muxPpsTimer_sameCounts (r := r) s k.mapped (List.finRange timerMuxPinsNb)
  unfold ppsTimerConfiguration
  dsimp only
  generalize muxPpsTimer k.mapped s (List.finRange timerMuxPinsNb) = loop at muxed ⊢
  have taken := muxed.trans (acquire_sameCounts _ ht)
  have freed (iRet : Int) : SameCounts r s
      (iRet, unmuxPpsTimer ((loop.2.acquire .ppsTimer).release .ppsTimer)).2 :=
    (taken.trans (release_sameCounts _ ht)).trans (unmuxPpsTimer_sameCounts _)
  split
  · exact muxed
  split
  · exact muxed.trans (unmuxPpsTimer_sameCounts _)
  split
  · exact freed _
  split
  · exact freed _
  split
  · exact freed _
  split
  · exact freed _
  split
  · exact freed _
  split
  · exact freed _
  · exact taken.trans (acquire_sameCounts _ hi)

theorem outCdevDel_sameCounts (hr : r ≠ .chrdevRegion) (hc : r ≠ .cdev) :
    SameCounts r s (outCdevDel s) :=
  (release_sameCounts s hc).trans (release_sameCounts _ hr)

theorem outProcDel_sameCounts (hr : r ≠ .chrdevRegion) (hc : r ≠ .cdev) (hd : r ≠ .device)
    (hp : r ≠ .procEntry) : SameCounts r s (outProcDel s) :=
  ((release_sameCounts s hp).trans (release_sameCounts _ hd)).trans (outCdevDel_sameCounts _ hr hc)

/-- No exit of the configurations gives the class back. -/
theorem configureAll_sameCounts (k : LoadReplies) :
    SameCounts .sysClass s (configureAll s k).2 := by
  have out (t : LoadState) : SameCounts .sysClass t (outProcDel t) :=
    outProcDel_sameCounts t nofun nofun nofun nofun
  have relay := relayTimerConfiguration_sameCounts (r := .sysClass) s k.relayTimer nofun nofun
  have gps := relay.trans (gpsSoftwareShutdownGpioConfiguration_sameCounts _ k.gpsGpio nofun)
  have pps := gps.trans (ppsTimerConfiguration_sameCounts _ k.ppsTimer nofun nofun)
  unfold configureAll
  dsimp only
  split
  · exact relay.trans (out _)
  split
  · exact gps.trans (out _)
  split
  · exact pps.trans (out _)
  · exact pps

end frames

section failures
variable (s : LoadState)

/-- A check in front of the rest of a function: an error is negative. -/
theorem check_fails {σ : Type*} {c P Q : Prop} [Decidable c] (checked : c ↔ ¬ P) {e : Int}
    (positive : 0 < e) {after : σ} {rest : Int × σ} (later : rest.1 < 0 ↔ ¬ Q) :
    (if c then (-e, after) else rest).1 < 0 ↔ ¬ (P ∧ Q) := by
  rw [not_and_or, ← checked, ← later]
  split_ifs with failed
  · exact iff_of_true (Int.neg_neg_of_pos positive) (.inl failed)
  · exact (or_iff_right failed).symm

/-- The last check of a function. -/
theorem lastCheck_fails {σ : Type*} {c P : Prop} [Decidable c] (checked : c ↔ ¬ P) {e : Int}
    (positive : 0 < e) {after : σ} {rest : Int × σ} (passed : ¬ c → 0 ≤ rest.1) :
    (if c then (-e, after) else rest).1 < 0 ↔ ¬ P := by
  rw [← checked]
  split_ifs with failed
  · exact iff_of_true (Int.neg_neg_of_pos positive) failed
  · exact iff_of_false (not_lt.mpr (passed failed)) failed

theorem relayTimerConfiguration_fails (k : RelayTimerReplies) :
    (relayTimerConfiguration s k).1 < 0 ↔ ¬ k.Passes :=
  check_fails Iff.rfl (by decide) <| check_fails Iff.rfl (by decide) <|
    check_fails Iff.rfl (by decide) <| check_fails Iff.rfl (by decide) <|
    check_fails not_le.symm (by decide) <| check_fails Iff.rfl (by decide) <|
    lastCheck_fails not_le.symm (by decide) not_lt.mp

theorem gpsSoftwareShutdownGpioConfiguration_fails (k : GpsGpioReplies) :
    (gpsSoftwareShutdownGpioConfiguration s k).1 < 0 ↔ ¬ k.Passes :=
  check_fails Iff.rfl (by decide) <| check_fails not_le.symm (by decide) <|
    lastCheck_fails not_le.symm (by decide) not_lt.mp

theorem muxPpsTimer_done (mapped : Fin timerMuxPinsNb → Bool) (pins : List (Fin timerMuxPinsNb)) :
    (muxPpsTimer mapped s pins).1 = true ↔ ∀ i ∈ pins, mapped i = true := by
  induction pins generalizing s with
  | nil => simp [muxPpsTimer]
  | cons i rest ih =>
    unfold muxPpsTimer
    split
    case isTrue h => simp [ih, h]
    case isFalse h => simp [h]

theorem ppsTimerConfiguration_fails (k : PpsTimerReplies) :
    (ppsTimerConfiguration s k).1 < 0 ↔ ¬ k.Passes := by
  have muxed := muxPpsTimer_done s k.mapped (List.finRange timerMuxPinsNb)
  simp only [List.mem_finRange, true_implies] at muxed
  unfold ppsTimerConfiguration PpsTimerReplies.Passes
  rw [← muxed]
  clear muxed
  generalize muxPpsTimer k.mapped s (List.finRange timerMuxPinsNb) = loop
  exact check_fails Iff.rfl (by decide) <| check_fails Iff.rfl (by decide) <|
    check_fails Iff.rfl (by decide) <| check_fails Iff.rfl (by decide) <|
    check_fails not_le.symm (by decide) <| check_fails not_le.symm (by decide) <|
    check_fails not_le.symm (by decide) <|
    lastCheck_fails Iff.rfl (by decide) fun _ => Int.le_refl 0

theorem configureAll_fails (k : LoadReplies) :
    (configureAll s k).1 < 0 ↔ ¬ (k.relayTimer.Passes ∧ k.gpsGpio.Passes ∧ k.ppsTimer.Passes) := by
  unfold configureAll
  dsimp only
  split_ifs with hrelay hgps hpps
  all_goals
    simp only [relayTimerConfiguration_fails, gpsSoftwareShutdownGpioConfiguration_fails,
      ppsTimerConfiguration_fails] at *
  · tauto
  · tauto
  · tauto
  · tauto

end failures

section rollback
variable (s : LoadState)

theorem setWidth_setWidth_mode (mode : BitVec 16) : (mode.setWidth 32).setWidth 16 = mode := by
  apply BitVec.eq_of_toNat_eq
  simp

theorem restore_mux (previous addr : Word) :
    (s.restore previous addr).mux addr = previous.setWidth 16 := by
  unfold LoadState.restore
  split
  case isTrue => exact Function.update_self _ _ _
  case isFalse same => rw [← not_not.mp same, setWidth_setWidth_mode]

theorem restore_mux_of_ne {previous addr a : Word} (h : a ≠ addr) :
    (s.restore previous addr).mux a = s.mux a := by
  unfold LoadState.restore
  split
  · exact Function.update_of_ne h _ _
  · rfl

theorem restore_previousMode (previous addr : Word) :
    (s.restore previous addr).ppsTimerPreviousMode = s.ppsTimerPreviousMode := by
  unfold LoadState.restore
  split <;> rfl

/-- The register of the GPS is written back when its configuration fails. -/
theorem gpsSoftwareShutdownGpioConfiguration_undone (k : GpsGpioReplies)
    (fails : (gpsSoftwareShutdownGpioConfiguration s k).1 < 0) :
    (gpsSoftwareShutdownGpioConfiguration s k).2.mux gpsShutdownGpioRegisterAddress =
      s.mux gpsShutdownGpioRegisterAddress := by
  revert fails
  unfold gpsSoftwareShutdownGpioConfiguration
  dsimp only
  split
  · intro _
    rfl
  split
  · intro _
    rw [restore_mux]
    exact setWidth_setWidth_mode _
  split
  · intro _
    rw [restore_mux]
    exact setWidth_setWidth_mode _
  case isFalse passed =>
    intro fails
    exact absurd fails passed

theorem ppsTimerRegisterAddress_injective : Function.Injective ppsTimerRegisterAddress := by
  decide

/-- The loop saves the mode of every register before it changes it. -/
theorem muxPpsTimer_saves (mapped : Fin timerMuxPinsNb → Bool) (pins : List (Fin timerMuxPinsNb))
    (distinct : pins.Nodup) (done : (muxPpsTimer mapped s pins).1 = true)
    (i : Fin timerMuxPinsNb) :
    (muxPpsTimer mapped s pins).2.ppsTimerPreviousMode i =
      if i ∈ pins then (s.mux (ppsTimerRegisterAddress i)).setWidth 32
      else s.ppsTimerPreviousMode i := by
  induction pins generalizing s with
  | nil => rfl
  | cons j rest ih =>
    obtain ⟨fresh, distinct⟩ := List.nodup_cons.mp distinct
    unfold muxPpsTimer at done ⊢
    split at done
    case isFalse => cases done
    case isTrue hj =>
      rw [if_pos hj, ih _ distinct done]
      by_cases hi : i = j
      · subst hi
        rw [if_neg fresh, if_pos List.mem_cons_self]
        exact Function.update_self _ _ _
      · have elsewhere := ppsTimerRegisterAddress_injective.ne hi
        simp only [List.mem_cons, hi, false_or, LoadState.iowrite16,
          Function.update_of_ne elsewhere, Function.update_of_ne hi]

theorem unmuxPpsTimer_mux (i : Fin timerMuxPinsNb) :
    (unmuxPpsTimer s).mux (ppsTimerRegisterAddress i) =
      (s.ppsTimerPreviousMode i).setWidth 16 := by
  have loop (pins : List (Fin timerMuxPinsNb)) (t : LoadState) :
      (pins.foldl (fun t j => t.restore (t.ppsTimerPreviousMode j) (ppsTimerRegisterAddress j))
        t).mux (ppsTimerRegisterAddress i) =
      if i ∈ pins then (t.ppsTimerPreviousMode i).setWidth 16
      else t.mux (ppsTimerRegisterAddress i) := by
    induction pins generalizing t with
    | nil => rfl
    | cons j rest ih =>
      rw [List.foldl_cons, ih, restore_previousMode]
      by_cases hi : i = j
      · subst hi
        rw [if_pos List.mem_cons_self, restore_mux, ite_self]
      · rw [restore_mux_of_ne t (ppsTimerRegisterAddress_injective.ne hi)]
        simp only [List.mem_cons, hi, false_or]
  rw [unmuxPpsTimer, loop, if_pos (List.mem_finRange i)]

/-- The registers of the Pps timer are written back when its configuration fails after the loop
that sets them. -/
theorem ppsTimerConfiguration_undone (k : PpsTimerReplies) (mapped : ∀ i, k.mapped i = true)
    (fails : (ppsTimerConfiguration s k).1 < 0) (i : Fin timerMuxPinsNb) :
    (ppsTimerConfiguration s k).2.mux (ppsTimerRegisterAddress i) =
      s.mux (ppsTimerRegisterAddress i) := by
  have done := (muxPpsTimer_done s k.mapped (List.finRange timerMuxPinsNb)).mpr fun j _ => mapped j
  have saved := muxPpsTimer_saves s k.mapped _ (List.nodup_finRange timerMuxPinsNb) done i
  rw [if_pos (List.mem_finRange i)] at saved
  revert fails
  unfold ppsTimerConfiguration
  dsimp only
  generalize muxPpsTimer k.mapped s (List.finRange timerMuxPinsNb) = loop at done saved ⊢
  -- Every exit shortcut ends in the loop that writes the saved modes back.
  have undone (iRet : Int) (t : LoadState)
      (h : t.ppsTimerPreviousMode = loop.2.ppsTimerPreviousMode) :
      (iRet, unmuxPpsTimer t).2.mux (ppsTimerRegisterAddress i) =
        s.mux (ppsTimerRegisterAddress i) := by
    rw [unmuxPpsTimer_mux, h, saved, setWidth_setWidth_mode]
  rw [if_neg (not_not.mpr done)]
  split
  · exact fun _ => undone _ _ rfl
  split
  · exact fun _ => undone _ _ rfl
  split
  · exact fun _ => undone _ _ rfl
  split
  · exact fun _ => undone _ _ rfl
  split
  · exact fun _ => undone _ _ rfl
  split
  · exact fun _ => undone _ _ rfl
  split
  · exact fun _ => undone _ _ rfl
  · exact fun fails => absurd fails (Int.lt_irrefl 0)

end rollback

theorem undone_of_balanced {mux : Word → BitVec 16} {s : LoadState} (hmux : s.mux = mux)
    (balanced : ∀ r, s.released r = s.acquired r ∧ s.acquired r ≤ 1) :
    Undone (beforeLoad mux) s where
  released r taken := by
    have := balanced r
    omega
  untouched r untaken := (balanced r).1.trans untaken
  ppsTimer i := congrFun hmux _
  gpsGpio := congrFun hmux _

theorem undone_of_failsEarly (k : LoadReplies) (mux : Word → BitVec 16) (early : k.FailsEarly) :
    Undone (beforeLoad mux) (synchronizationInitialize (beforeLoad mux) k).2 := by
  unfold synchronizationInitialize
  dsimp only
  split
  case isTrue =>
    exact undone_of_balanced rfl fun r => ⟨rfl, Nat.zero_le 1⟩
  split
  case isTrue =>
    refine undone_of_balanced rfl fun r => ?_
    cases r <;> exact ⟨rfl, Nat.le_of_ble_eq_true rfl⟩
  split
  case isTrue =>
    refine undone_of_balanced rfl fun r => ?_
    cases r <;> exact ⟨rfl, Nat.le_of_ble_eq_true rfl⟩
  case isFalse alloc cdev created =>
    rcases early with h | h | h
    · exact absurd h alloc
    · exact absurd h cdev
    · exact absurd (by rw [h]; rfl) created

/-- From `class_create` on, no path gives the class back. -/
theorem class_left (k : LoadReplies) (mux : Word → BitVec 16) (late : ¬ k.FailsEarly) :
    (synchronizationInitialize (beforeLoad mux) k).2.acquired .sysClass = 1 ∧
      (synchronizationInitialize (beforeLoad mux) k).2.released .sysClass = 0 := by
  generalize hs : (((beforeLoad mux).acquire .chrdevRegion).acquire .cdev).acquire .sysClass = s
  have kept : SameCounts .sysClass s (synchronizationInitialize (beforeLoad mux) k).2 := by
    have made : SameCounts .sysClass s (s.acquire .device) := acquire_sameCounts s (by decide)
    unfold synchronizationInitialize
    simp only [hs, isErr_errorPointer, isErr_nullPointer, Bool.not_eq_true', Bool.false_eq_true,
      if_false]
    split
    case isTrue alloc => exact absurd (Or.inl alloc) late
    split
    case isTrue cdev => exact absurd (Or.inr (Or.inl cdev)) late
    split
    case isTrue created => exact absurd (Or.inr (Or.inr created)) late
    split
    case isTrue => exact outCdevDel_sameCounts s (by decide) (by decide)
    refine SameCounts.trans ?_ (configureAll_sameCounts _ k)
    split
    · exact made.trans (acquire_sameCounts _ (by decide))
    · exact made
  subst hs
  exact ⟨kept.acquired, kept.released⟩

theorem synchronizationInitialize_fails (s : LoadState) (k : LoadReplies) :
    (synchronizationInitialize s k).1 < 0 ↔ ¬ k.Passes := by
  have created (b : Bool) : isErr (errorPointer b) = true ↔ ¬ b = true := by
    rw [isErr_errorPointer, Bool.not_eq_true', Bool.not_eq_true]
  have unseen (b : Bool) : isErr (nullPointer b) = true ↔ ¬ True := by
    rw [isErr_nullPointer]
    exact iff_of_false Bool.false_ne_true (not_not.mpr trivial)
  have checks : (synchronizationInitialize s k).1 < 0 ↔
      ¬ (0 ≤ k.allocChrdevRegion ∧ k.cdevAdd = 0 ∧ k.classCreated = true ∧
        k.deviceCreated = true ∧ True ∧
        k.relayTimer.Passes ∧ k.gpsGpio.Passes ∧ k.ppsTimer.Passes) :=
    check_fails not_le.symm (by decide) <| check_fails Iff.rfl (by decide) <|
      check_fails (created _) (by decide) <| check_fails (created _) (by decide) <|
      check_fails (unseen _) (by decide) <| configureAll_fails _ k
  rw [checks, LoadReplies.Passes, LoadReplies.FailsEarly, not_or, not_or, not_lt, not_not,
    Bool.not_eq_false, true_and, and_assoc, and_assoc]

/-- A load that fails undoes what it did if and only if it fails before the class is created: no
exit of `Synchronization_initialize` destroys the class. -/
theorem all_or_nothing_iff (k : LoadReplies) (mux : Word → BitVec 16) :
    ((synchronizationInitialize (beforeLoad mux) k).1 < 0 →
        Undone (beforeLoad mux) (synchronizationInitialize (beforeLoad mux) k).2) ↔
      k.FailsEarly ∨ k.Passes := by
  constructor
  · intro law
    by_contra h
    obtain ⟨late, fails⟩ := not_or.mp h
    obtain ⟨taken, kept⟩ := class_left k mux late
    have released := (law ((synchronizationInitialize_fails _ k).mpr fails)).released .sysClass
    omega
  · rintro (early | passes) fails
    · exact undone_of_failsEarly k mux early
    · exact absurd passes ((synchronizationInitialize_fails _ k).mp fails)

/-- The GPIO of the GPS is in use elsewhere, and everything else succeeds. -/
def gpioBusy : LoadReplies where
  allocChrdevRegion := 0
  cdevAdd := 0
  classCreated := true
  deviceCreated := true
  procCreated := true
  relayTimer := ⟨true, true, 0, true, 0, 0, 0⟩
  gpsGpio := ⟨true, -16, 0⟩
  ppsTimer := ⟨fun _ => true, true, 0, true, 0, 0, 0, 0⟩

theorem all_or_nothing_refuted :
    ¬ ((synchronizationInitialize (beforeLoad fun _ => 0x0004) gpioBusy).1 < 0 →
      Undone (beforeLoad fun _ => 0x0004)
        (synchronizationInitialize (beforeLoad fun _ => 0x0004) gpioBusy).2) := by
  intro law
  have released := (law (by decide)).released .sysClass (by decide)
  exact absurd released (by decide)

end Gumstix.Synchronization.Loading
