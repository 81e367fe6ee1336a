import Gumstix.Synchronization.Settings

/-!
# The time since the GPS is off

The driver does not store the elapsed time: `SYNC_IOCTL_GET_TIME_SINCE_GPS_OFF` subtracts
the countdown of the running off period from the off time in force at the call. The
observer of the off period counts the overflows that the answer stands for.
-/
namespace Gumstix.Synchronization
open EventMachine

/-- While the GPS is off the call answers with the number of overflows handled since
`STATE_Gps_Off` was entered, a number within the maximal off time. -/
def ElapsedTruthful (s : Driver × OffPeriod) : Prop :=
  s.1.gpsStatus = 0 → ∀ (arg : Word) (u : UserAccess), ∃ seconds : Word,
    (synchronizationIoctl s.1 syncIoctlGetTimeSinceGpsOff arg u).stored = some (.word seconds) ∧
      seconds.toNat = s.2.overflows ∧ seconds.toNat ≤ 60 * gpsMaximumOffTime.toNat

/-- The off time of the launch is in force when the GPS is switched off, no accepted call
changes it while the GPS is off, and an off time of zero does not count past the maximum. -/
def OffTimeHeld (s : Driver × OffPeriod) : Event → Prop
  | .pps _ =>
      s.1.driverCurrentState = .switchGpsToOff → s.1.gpsTimeToOff = s.1.relayTimerLeftTime
  | .relay _ =>
      s.1.gpsStatus = 0 → s.1.gpsTimeToOff = 0 → s.2.overflows < 60 * gpsMaximumOffTime.toNat
  | .ioctl cmd arg _ =>
      cmd = syncIoctlSetGpsOffTime → s.1.gpsStatus = 0 → arg ≤ gpsMaximumOffTime →
        arg * 60 = s.1.gpsTimeToOff

instance (s : Driver × OffPeriod) : (e : Event) → Decidable (OffTimeHeld s e)
  | .pps _ => inferInstanceAs (Decidable (_ → _))
  | .relay _ => inferInstanceAs (Decidable (_ → _ → _))
  | .ioctl _ _ _ => inferInstanceAs (Decidable (_ → _ → _ → _))

/-- The off time and the countdown differ by `n` overflows. -/
structure Since (d : Driver) (n : Nat) : Prop where
  elapsed : (d.gpsTimeToOff - d.relayTimerLeftTime).toNat = n
  bound : n ≤ 60 * gpsMaximumOffTime.toNat

theorem ioctl_getTimeSinceGpsOff (d : Driver) (arg : Word) (u : UserAccess)
    (off : d.gpsStatus = 0) :
    (synchronizationIoctl d syncIoctlGetTimeSinceGpsOff arg u).stored =
      some (.word (d.gpsTimeToOff - d.relayTimerLeftTime)) := by
  unfold synchronizationIoctl
  iterate 4 rw [if_neg (by decide)]
  rw [if_pos rfl, if_pos off]

theorem elapsedTruthful_iff {s : Driver × OffPeriod} :
    ElapsedTruthful s ↔ (s.1.gpsStatus = 0 → Since s.1 s.2.overflows) := by
  constructor
  · intro truthful off
    obtain ⟨seconds, answer, counted, bound⟩ := truthful off 0 ⟨⟨0, 0⟩, 0, .zero, 0⟩
    rw [ioctl_getTimeSinceGpsOff _ _ _ off, Option.some.injEq, UserStore.word.injEq] at answer
    rw [← answer] at counted bound
    exact ⟨counted, counted ▸ bound⟩
  · intro since off arg u
    have now := since off
    exact ⟨_, ioctl_getTimeSinceGpsOff _ arg u off, now.elapsed, now.elapsed ▸ now.bound⟩

/-- The induction invariant. With a positive off time the overflows stay below it. -/
structure Elapsing (s : Driver × OffPeriod) : Prop where
  consistent : Consistent s.1
  setting : SettingAllowed s.1
  fresh : s.1.driverCurrentState = .switchGpsToOff → s.2.overflows = 0
  since : s.1.gpsStatus = 0 → Since s.1 s.2.overflows
  ahead : s.1.gpsStatus = 0 → s.1.gpsTimeToOff ≠ 0 → s.2.overflows < s.1.gpsTimeToOff.toNat

theorem initialize_elapsing (ppsClock relayClock : Word) :
    Elapsing (synchronizationInitialize ppsClock relayClock, ⟨0, 0⟩) where
  consistent := initialize_consistent ppsClock relayClock
  setting := by simp [SettingAllowed, synchronizationInitialize]
  fresh := by simp [synchronizationInitialize]
  since := by simp [synchronizationInitialize]
  ahead := by simp [synchronizationInitialize]

theorem Elapsing.powered {d : Driver} {o : OffPeriod} (consistent : Consistent d)
    (setting : SettingAllowed d) (on : d.gpsStatus ≠ 0)
    (fresh : d.driverCurrentState = .switchGpsToOff → o.overflows = 0) : Elapsing (d, o) where
  consistent := consistent
  setting := setting
  fresh := fresh
  since off := absurd off on
  ahead off := absurd off on

theorem Elapsing.transport {d d' : Driver} {o : OffPeriod} (h : Elapsing (d, o))
    (consistent : Consistent d') (state : d'.driverCurrentState = d.driverCurrentState)
    (gps : d'.gpsStatus = d.gpsStatus) (left : d'.relayTimerLeftTime = d.relayTimerLeftTime)
    (setting : SettingAllowed d')
    (offTime : d.gpsStatus = 0 → d'.gpsTimeToOff = d.gpsTimeToOff) : Elapsing (d', o) where
  consistent := consistent
  setting := setting
  fresh switch := h.fresh (state.symm.trans switch)
  since off := by
    have was := gps.symm.trans off
    obtain ⟨elapsed, bound⟩ := h.since was
    exact ⟨by rw [offTime was, left]; exact elapsed, bound⟩
  ahead off := by
    have was := gps.symm.trans off
    rw [offTime was]
    exact h.ahead was

section steps
variable {d : Driver} {o : OffPeriod}

theorem since_zero_iff : Since d 0 ↔ d.gpsTimeToOff = d.relayTimerLeftTime := by
  constructor
  · rintro ⟨elapsed, -⟩
    bv_omega
  · intro same
    exact ⟨by rw [same, BitVec.sub_self]; rfl, Nat.zero_le _⟩

theorem pps_elapsing (r : PpsReads) (h : Elapsing (d, o))
    (held : OffTimeHeld (d, o) (.pps r)) :
    Elapsing (ppsTimerIrqHandler d r, watchOffPeriod d (.pps r) o) := by
  have state := pps_driverCurrentState d r
  have gps := pps_gpsStatus d r
  have left := pps_relayTimerLeftTime d r
  have settings := pps_settings d r
  have consistent := pps_consistent r h.consistent
  have setting : SettingAllowed (ppsTimerIrqHandler d r) := by
    simpa only [SettingAllowed, settings.offTime] using h.setting
  by_cases off : (ppsTimerIrqHandler d r).driverCurrentState = .gpsOff
  · have quiet : ¬ Launches d := fun launch =>
      absurd (off.symm.trans (state.trans (ppsNextState_switch.mpr launch))) (by decide)
    simp only [watchOffPeriod, if_neg quiet]
    rcases ppsNextState_off.mp (state.symm.trans off) with hs | hs
    · -- The GPS has just been switched off.
      have none : o.overflows = 0 := h.fresh hs
      rw [if_neg (by simp [hs, quiet])] at left
      refine ⟨consistent, setting, fun _ => none, fun _ => ?_, fun _ positive => ?_⟩
      · rw [none, since_zero_iff, settings.offTime, left]
        exact held hs
      · rw [none]
        exact Nat.pos_of_ne_zero fun zero => positive (BitVec.eq_of_toNat_eq zero)
    · simp only [hs] at gps
      rw [if_neg (by simp [hs, quiet])] at left
      exact h.transport consistent (off.trans hs.symm) gps left setting fun _ => settings.offTime
  · refine .powered consistent setting (consistent.gpsOn off) fun switch => ?_
    have launch := ppsNextState_switch.mp (state.symm.trans switch)
    rw [watchOffPeriod, if_pos launch]

/-- One more overflow that leaves the GPS off. -/
theorem since_succ {left : Word} {n : Nat} (h : Since d n)
    (after : left = d.relayTimerLeftTime - 1) (more : n < 60 * gpsMaximumOffTime.toNat) :
    (d.gpsTimeToOff - left).toNat = n + 1 := by
  obtain ⟨elapsed, -⟩ := h
  have more' : n < 3600 := more
  subst after
  bv_omega

theorem relay_elapsing (r : RelayReads) (h : Elapsing (d, o))
    (held : OffTimeHeld (d, o) (.relay r)) :
    Elapsing (relayTimerIrqHandler d r, watchOffPeriod d (.relay r) o) := by
  have state := relay_driverCurrentState d r
  have settings := relay_settings d r
  have consistent := relay_consistent r h.consistent
  have setting : SettingAllowed (relayTimerIrqHandler d r) := by
    simpa only [SettingAllowed, settings.offTime] using h.setting
  by_cases ho : d.driverCurrentState = .gpsOff
  · obtain ⟨-, countdown, gps⟩ := relay_off d r ho
    simp only [watchOffPeriod, if_pos ho]
    have fresh : (relayTimerIrqHandler d r).driverCurrentState = .switchGpsToOff →
        o.overflows + 1 = 0 := fun switch =>
      absurd (ho.symm.trans (state.symm.trans switch)) (by decide)
    by_cases off : (relayTimerIrqHandler d r).gpsStatus = 0
    · have remains : 0 < d.relayTimerLeftTime - 1 := by
        by_contra expired
        rw [if_neg expired] at gps
        exact absurd (gps.symm.trans off) (by decide)
      rw [if_pos remains] at gps
      have was : d.gpsStatus = 0 := gps.symm.trans off
      have since : Since d o.overflows := h.since was
      have ahead := h.ahead was
      have allowed : d.gpsTimeToOff.toNat ≤ 60 * 60 := h.setting.2
      have more : o.overflows < 60 * gpsMaximumOffTime.toNat := by
        by_cases zero : d.gpsTimeToOff = 0
        · exact held was zero
        · exact (ahead zero).trans_le allowed
      refine ⟨consistent, setting, fresh, fun _ => ⟨?_, more⟩, fun _ => ?_⟩
      · rw [settings.offTime]
        exact since_succ since countdown more
      · rw [settings.offTime]
        intro positive
        have below : o.overflows < d.gpsTimeToOff.toNat := ahead positive
        obtain ⟨elapsed, -⟩ := since
        change o.overflows + 1 < d.gpsTimeToOff.toNat
        bv_omega
    · exact .powered consistent setting off fresh
  · obtain ⟨-, left, gps⟩ := relay_quiet d r ho
    simp only [watchOffPeriod, if_neg ho]
    exact h.transport consistent state gps left setting fun _ => settings.offTime

theorem ioctl_elapsing (cmd arg : Word) (u : UserAccess) (h : Elapsing (d, o))
    (held : OffTimeHeld (d, o) (.ioctl cmd arg u)) :
    Elapsing ((synchronizationIoctl d cmd arg u).driver, o) := by
  have same := ioctl_sameRun d cmd arg u
  refine h.transport (ioctl_consistent cmd arg u h.consistent) same.state same.gps same.left
    (ioctl_settingAllowed cmd arg u h.setting) fun off => ?_
  exact ioctl_cases (P := fun d' => d'.gpsTimeToOff = d.gpsTimeToOff) d cmd arg u rfl
    (fun _ _ _ => rfl) (fun _ => rfl) (fun _ => rfl) fun set small => held set off small

theorem next_elapsing (s : Driver × OffPeriod) (e : Event) (h : Elapsing s)
    (held : OffTimeHeld s e) : Elapsing (offPeriodMachine.next s e) := by
  cases e with
  | pps r => exact pps_elapsing r h held
  | relay r => exact relay_elapsing r h held
  | ioctl cmd arg u => exact ioctl_elapsing cmd arg u h held

/-- A step that does not hold the off time ends in a false answer. -/
theorem offTimeHeld_of_truthful (s : Driver × OffPeriod) (e : Event) (h : Elapsing s)
    (truthful : ElapsedTruthful (offPeriodMachine.next s e)) : OffTimeHeld s e := by
  obtain ⟨d, o⟩ := s
  have since := elapsedTruthful_iff.mp truthful
  cases e with
  | pps r =>
      intro (hs : d.driverCurrentState = .switchGpsToOff)
      have quiet : ¬ Launches d := not_launches_of_state (by rw [hs]; decide)
      have gps := pps_gpsStatus d r
      have left := pps_relayTimerLeftTime d r
      simp only [hs] at gps
      rw [if_neg (by simp [hs, quiet])] at left
      have counted : Since (ppsTimerIrqHandler d r) (watchOffPeriod d (.pps r) o).overflows :=
        since gps
      have none : o.overflows = 0 := h.fresh hs
      rw [watchOffPeriod, if_neg quiet, none, since_zero_iff, (pps_settings d r).offTime, left]
        at counted
      exact counted
  | relay r =>
      intro off zero
      have ho := h.consistent.gps off
      obtain ⟨-, countdown, gps⟩ := relay_off d r ho
      obtain ⟨elapsed, bound⟩ := h.since off
      have bound' : o.overflows ≤ 3600 := bound
      have remains : 0 < d.relayTimerLeftTime - 1 := by
        have zero' : d.gpsTimeToOff = 0 := zero
        have elapsed' : (d.gpsTimeToOff - d.relayTimerLeftTime).toNat = o.overflows := elapsed
        rw [zero'] at elapsed'
        bv_omega
      rw [if_pos remains] at gps
      have counted : Since (relayTimerIrqHandler d r) (watchOffPeriod d (.relay r) o).overflows :=
        since (gps.trans off)
      rw [watchOffPeriod, if_pos ho] at counted
      exact counted.bound
  | ioctl cmd arg u =>
      rintro rfl off small
      have counted :
          Since (synchronizationIoctl d syncIoctlSetGpsOffTime arg u).driver o.overflows :=
        since ((ioctl_sameRun d _ arg u).gps.trans off)
      rw [ioctl_setGpsOffTime, setGpsOffTime, if_neg (BitVec.not_lt.mpr small)] at counted
      have before : (d.gpsTimeToOff - d.relayTimerLeftTime).toNat = o.overflows :=
        (h.since off).elapsed
      have after : (arg * 60 - d.relayTimerLeftTime).toNat = o.overflows := counted.elapsed
      exact (BitVec.sub_left_inj _).mp (BitVec.eq_of_toNat_eq (after.trans before.symm))

end steps

/-- Along every run after the load the answers are true exactly if the off time of the
launch is held. -/
theorem elapsed_truthful_iff {ppsClock relayClock : Word} {es : List Event}
    (h : driverMachine.Admits (synchronizationInitialize ppsClock relayClock) es) :
    offPeriodMachine.Always ElapsedTruthful
        (synchronizationInitialize ppsClock relayClock, ⟨0, 0⟩) es ↔
      offPeriodMachine.EveryStep OffTimeHeld
        (synchronizationInitialize ppsClock relayClock, ⟨0, 0⟩) es :=
  always_iff_everyStep (fun _ elapsing => elapsedTruthful_iff.mpr elapsing.since)
    (fun s e hs _ held => next_elapsing s e hs held)
    (fun s e hs _ truthful => offTimeHeld_of_truthful s e hs truthful)
    (initialize_elapsing ppsClock relayClock) ((observe_admits _ _ es).mpr h)

/-- The off time in force is set again, and other values are refused, while the GPS is off. -/
def heldRun : List Event :=
  overflowRun ++ [.ioctl syncIoctlSetGpsOffTime 5 ⟨⟨0, 0⟩, 0, .zero, 0⟩,
    .ioctl syncIoctlSetGpsOffTime 61 ⟨⟨0, 0⟩, 0, .zero, 0⟩, .relay overflowReads]

set_option maxRecDepth 4000 in
theorem elapsed_truthful_iff_heldRun :
    offPeriodMachine.Always ElapsedTruthful (loaded26, ⟨0, 0⟩) heldRun := by
  have admitted : driverMachine.Admits loaded26 heldRun := by decide +kernel
  exact (elapsed_truthful_iff admitted).mpr (by decide +kernel)

/-- The off time is set to 3 minutes one overflow into an off period of 5. -/
def shortenedRun : List Event :=
  overflowRun ++ [.ioctl syncIoctlSetGpsOffTime 3 ⟨⟨0, 0⟩, 0, .zero, 0⟩]

set_option maxRecDepth 4000 in
theorem elapsed_truthful_refuted :
    ¬ ∀ (ppsClock relayClock : Word) (es : List Event),
      driverMachine.Admits (synchronizationInitialize ppsClock relayClock) es →
        offPeriodMachine.Always ElapsedTruthful
          (synchronizationInitialize ppsClock relayClock, ⟨0, 0⟩) es := by
  intro every
  have admitted : driverMachine.Admits loaded26 shortenedRun := by decide +kernel
  have off : (offPeriodMachine.run (loaded26, ⟨0, 0⟩) shortenedRun).1.gpsStatus = 0 := by
    decide +kernel
  have wrapped : (synchronizationIoctl (offPeriodMachine.run (loaded26, ⟨0, 0⟩) shortenedRun).1
      syncIoctlGetTimeSinceGpsOff 0 ⟨⟨0, 0⟩, 0, .zero, 0⟩).stored =
        some (.word 0xFFFFFF89) := by
    decide +kernel
  obtain ⟨seconds, answer, -, bound⟩ := (every _ _ _ admitted).last off 0 ⟨⟨0, 0⟩, 0, .zero, 0⟩
  rw [show synchronizationInitialize 26000000 26000000 = loaded26 from rfl, wrapped,
    Option.some.injEq, UserStore.word.injEq] at answer
  rw [← answer] at bound
  exact absurd bound (by decide)

end Gumstix.Synchronization
