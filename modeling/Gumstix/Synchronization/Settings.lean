import Gumstix.Synchronization.OffPeriod

/-!
# Running mode and off time

The two settings that ioctls change: which values they take, what the running mode says
about the GPS power, and the range checks that stand between them and the user.
-/
namespace Gumstix.Synchronization
open EventMachine

section ioctl
variable (d : Driver) (cmd arg : Word) (u : UserAccess)

theorem ioctl_setDriverMode :
    synchronizationIoctl d syncIoctlSetDriverMode arg u = setDriverMode d arg := by
  unfold synchronizationIoctl
  iterate 10 rw [if_neg (by decide)]
  rw [if_pos rfl]

theorem ioctl_setGpsOffTime :
    synchronizationIoctl d syncIoctlSetGpsOffTime arg u = setGpsOffTime d arg := by
  unfold synchronizationIoctl
  iterate 11 rw [if_neg (by decide)]
  rw [if_pos rfl]

/-- No argument is below the first mode and above the last one. -/
theorem setDriverMode_accepts :
    setDriverMode d arg = ⟨0, { d with driverRunningMode := arg }, none⟩ := by
  unfold setDriverMode
  apply if_neg
  rintro ⟨below, above⟩
  bv_omega

theorem ioctl_mode (other : cmd ≠ syncIoctlSetDriverMode) :
    (synchronizationIoctl d cmd arg u).driver.driverRunningMode = d.driverRunningMode := by
  refine ioctl_cases d cmd arg u rfl (fun _ _ _ => rfl) (fun _ => rfl) ?_ fun _ _ => rfl
  exact fun set => absurd set other

end ioctl

def AlwaysOnMode (mode : Word) : Prop := mode = mode1 ∨ mode = mode2

instance (mode : Word) : Decidable (AlwaysOnMode mode) := inferInstanceAs (Decidable (_ ∨ _))

def PoweredInMode (d : Driver) : Prop := AlwaysOnMode d.driverRunningMode → d.gpsStatus = 1

/-- The GPS is not switched off in such a mode, and such a mode is not set while it is off. -/
def PowerRespected (d : Driver) : Event → Prop
  | .pps _ => d.driverCurrentState = .switchGpsToOff → ¬ AlwaysOnMode d.driverRunningMode
  | .relay _ => True
  | .ioctl cmd arg _ => cmd = syncIoctlSetDriverMode → AlwaysOnMode arg → d.gpsStatus = 1

instance (d : Driver) : (e : Event) → Decidable (PowerRespected d e)
  | .pps _ => inferInstanceAs (Decidable (_ → _))
  | .relay _ => .isTrue trivial
  | .ioctl _ _ _ => inferInstanceAs (Decidable (_ → _ → _))

section power
variable {d : Driver}

theorem pps_powered (r : PpsReads) (powered : PoweredInMode d) :
    PoweredInMode (ppsTimerIrqHandler d r) ↔ PowerRespected d (.pps r) := by
  unfold PoweredInMode PowerRespected
  rw [(pps_settings d r).mode, pps_gpsStatus]
  cases d.driverCurrentState with
  | initialization => simp
  | waitForGpsFixed | gpsFixed | gpsOff => exact iff_of_true powered nofun
  | switchGpsToOff => simp

theorem relay_powered (r : RelayReads) (powered : PoweredInMode d) :
    PoweredInMode (relayTimerIrqHandler d r) := by
  unfold PoweredInMode
  rw [(relay_settings d r).mode]
  intro always
  have on := powered always
  by_cases off : d.driverCurrentState = .gpsOff
  · rw [(relay_off d r off).2.2, on, ite_self]
  · rw [(relay_quiet d r off).2.2, on]

theorem ioctl_powered (cmd arg : Word) (u : UserAccess) (powered : PoweredInMode d) :
    PoweredInMode (synchronizationIoctl d cmd arg u).driver ↔
      PowerRespected d (.ioctl cmd arg u) := by
  unfold PoweredInMode
  rw [(ioctl_sameRun d cmd arg u).gps]
  by_cases set : cmd = syncIoctlSetDriverMode
  · subst set
    rw [ioctl_setDriverMode, setDriverMode_accepts]
    exact ⟨fun on _ => on, fun respected => respected rfl⟩
  · rw [ioctl_mode d cmd arg u set]
    exact iff_of_true powered fun same => absurd same set

/-- Along every run after the load the GPS is on in `MODE1` and `MODE2`, exactly if it is not
switched off in these modes and they are not set while it is off. -/
theorem powered_in_mode_iff {ppsClock relayClock : Word} {es : List Event}
    (admitted : driverMachine.Admits (synchronizationInitialize ppsClock relayClock) es) :
    driverMachine.Always PoweredInMode (synchronizationInitialize ppsClock relayClock) es ↔
      driverMachine.EveryStep PowerRespected
        (synchronizationInitialize ppsClock relayClock) es := by
  refine always_iff_everyStep (fun _ powered => powered) ?_ ?_ (fun _ => rfl) admitted
  · intro d e powered _ respected
    cases e with
    | pps r => exact (pps_powered r powered).mpr respected
    | relay r => exact relay_powered r powered
    | ioctl cmd arg u => exact (ioctl_powered cmd arg u powered).mpr respected
  · intro d e powered _ after
    cases e with
    | pps r => exact (pps_powered r powered).mp after
    | relay r => trivial
    | ioctl cmd arg u => exact (ioctl_powered cmd arg u powered).mp after

end power

set_option maxRecDepth 4000 in
theorem powered_in_mode_iff_overflowRun :
    driverMachine.Always PoweredInMode loaded26 overflowRun :=
  (powered_in_mode_iff overflowRun_admitted).mpr (by decide +kernel)

/-- `MODE1` is set between the launch of the relay timer and the next PPS. -/
def mode1AfterLaunch : List Event := launchRun ++ [setModeEvent mode1, edgeEvent 18]

set_option maxRecDepth 4000 in
theorem powered_in_mode_refuted :
    ¬ ∀ (ppsClock relayClock : Word) (es : List Event),
      driverMachine.Admits (synchronizationInitialize ppsClock relayClock) es →
        driverMachine.Always PoweredInMode (synchronizationInitialize ppsClock relayClock) es := by
  intro every
  have admitted : driverMachine.Admits loaded26 mode1AfterLaunch := by decide +kernel
  have mode : AlwaysOnMode (driverMachine.run loaded26 mode1AfterLaunch).driverRunningMode := by
    decide +kernel
  have off : (driverMachine.run loaded26 mode1AfterLaunch).gpsStatus = 0 := by decide +kernel
  have on := (every _ _ _ admitted).last mode
  exact absurd (off.symm.trans on) (by decide)

def KnownMode (mode : Word) : Prop := mode = mode1 ∨ mode = mode2 ∨ mode = mode3

instance (mode : Word) : Decidable (KnownMode mode) := inferInstanceAs (Decidable (_ ∨ _ ∨ _))

/-- Mode and off time are in range, and an export finds its timer. -/
structure SettingsInRange (d : Driver) : Prop where
  mode : KnownMode d.driverRunningMode
  offTime : SettingAllowed d
  exports : selectTimer d ≠ none

/-- A call with an argument out of range returns an error and changes nothing. -/
def RejectsOutOfRange (d : Driver) : Event → Prop
  | .ioctl cmd arg u =>
      (cmd = syncIoctlSetDriverMode ∧ ¬ KnownMode arg) ∨
          (cmd = syncIoctlSetGpsOffTime ∧ gpsMaximumOffTime < arg) →
        (synchronizationIoctl d cmd arg u).ret < 0 ∧ (synchronizationIoctl d cmd arg u).driver = d
  | .pps _ => True
  | .relay _ => True

def SetsKnownMode (_ : Driver) : Event → Prop
  | .ioctl cmd arg _ => cmd = syncIoctlSetDriverMode → KnownMode arg
  | .pps _ => True
  | .relay _ => True

instance (d : Driver) : (e : Event) → Decidable (SetsKnownMode d e)
  | .ioctl _ _ _ => inferInstanceAs (Decidable (_ → _))
  | .pps _ => .isTrue trivial
  | .relay _ => .isTrue trivial

section range
variable {d : Driver}

theorem selectTimer_known : selectTimer d ≠ none ↔ KnownMode d.driverRunningMode := by
  rw [Ne, selectTimer_eq_none, KnownMode]
  tauto

theorem SettingsInRange.transport {d' : Driver} (h : SettingsInRange d)
    (same : SameSettings d d') : SettingsInRange d' := by
  have mode : KnownMode d'.driverRunningMode := same.mode ▸ h.mode
  refine ⟨mode, ?_, selectTimer_known.mpr mode⟩
  rw [SettingAllowed, same.offTime]
  exact h.offTime

theorem ioctl_inRange (cmd arg : Word) (u : UserAccess) (h : SettingsInRange d)
    (known : SetsKnownMode d (.ioctl cmd arg u)) :
    SettingsInRange (synchronizationIoctl d cmd arg u).driver := by
  have mode : KnownMode (synchronizationIoctl d cmd arg u).driver.driverRunningMode := by
    by_cases set : cmd = syncIoctlSetDriverMode
    · subst set
      rw [ioctl_setDriverMode, setDriverMode_accepts]
      exact known rfl
    · rw [ioctl_mode d cmd arg u set]
      exact h.mode
  exact ⟨mode, ioctl_settingAllowed cmd arg u h.offTime, selectTimer_known.mpr mode⟩

theorem setsKnownMode_of_inRange (cmd arg : Word) (u : UserAccess)
    (after : SettingsInRange (synchronizationIoctl d cmd arg u).driver) :
    SetsKnownMode d (.ioctl cmd arg u) := by
  rintro rfl
  have mode := after.mode
  rwa [ioctl_setDriverMode, setDriverMode_accepts] at mode

theorem rejectsOutOfRange_of_known {e : Event} (known : SetsKnownMode d e) :
    RejectsOutOfRange d e := by
  cases e with
  | pps | relay => trivial
  | ioctl cmd arg u =>
      rintro (⟨set, unknown⟩ | ⟨rfl, above⟩)
      · exact absurd (known set) unknown
      · rw [ioctl_setGpsOffTime, setGpsOffTime, if_pos above]
        refine ⟨?_, rfl⟩
        change -errIoctlSpecifiedGpsOffTime < 0
        decide

/-- Along every run after the load the settings are in range and calls that would take them
out of it are refused, exactly if no call sets an unknown running mode. -/
theorem settings_in_range_iff {ppsClock relayClock : Word} {es : List Event}
    (admitted : driverMachine.Admits (synchronizationInitialize ppsClock relayClock) es) :
    driverMachine.Always SettingsInRange (synchronizationInitialize ppsClock relayClock) es ∧
        driverMachine.EveryStep RejectsOutOfRange
          (synchronizationInitialize ppsClock relayClock) es ↔
      driverMachine.EveryStep SetsKnownMode (synchronizationInitialize ppsClock relayClock) es := by
  have start : SettingsInRange (synchronizationInitialize ppsClock relayClock) :=
    ⟨.inl rfl, by simp [SettingAllowed, synchronizationInitialize],
      selectTimer_known.mpr (.inl rfl)⟩
  have keep : ∀ d e, SettingsInRange d → driverMachine.enabled d e → SetsKnownMode d e →
      SettingsInRange (driverMachine.next d e) := by
    intro d e h _ known
    cases e with
    | pps r => exact h.transport (pps_settings d r)
    | relay r => exact h.transport (relay_settings d r)
    | ioctl cmd arg u => exact ioctl_inRange cmd arg u h known
  have inRange := always_iff_everyStep (fun _ h => h) keep (fun d e _ _ after => by
    cases e with
    | pps | relay => trivial
    | ioctl cmd arg u => exact setsKnownMode_of_inRange cmd arg u after) start admitted
  refine ⟨fun law => inRange.mp law.1, fun known => ⟨inRange.mpr known, ?_⟩⟩
  exact everyStep_of_everyStep keep (fun _ _ _ _ known => rejectsOutOfRange_of_known known)
    start admitted known

end range

/-- Both settings are set, the second time with an off time above the maximum. -/
def settingsRun : List Event :=
  [setModeEvent mode2, .ioctl syncIoctlSetGpsOffTime 60 ⟨⟨0, 0⟩, 0, .zero, 0⟩,
    .ioctl syncIoctlSetGpsOffTime 61 ⟨⟨0, 0⟩, 0, .zero, 0⟩, edgeEvent 0]

theorem settings_in_range_iff_settingsRun :
    driverMachine.Always SettingsInRange loaded26 settingsRun ∧
      driverMachine.EveryStep RejectsOutOfRange loaded26 settingsRun := by
  have admitted : driverMachine.Admits loaded26 settingsRun := by decide +kernel
  exact (settings_in_range_iff admitted).mpr (by decide +kernel)

theorem settings_in_range_refuted :
    ¬ ∀ (ppsClock relayClock : Word) (es : List Event),
      driverMachine.Admits (synchronizationInitialize ppsClock relayClock) es →
        driverMachine.Always SettingsInRange
          (synchronizationInitialize ppsClock relayClock) es := by
  intro every
  have admitted : driverMachine.Admits loaded26 [setModeEvent 904] := by decide +kernel
  have inRange := (every _ _ _ admitted).last
  have none : selectTimer (driverMachine.run loaded26 [setModeEvent 904]) = none := by
    decide +kernel
  exact inRange.exports none

end Gumstix.Synchronization
