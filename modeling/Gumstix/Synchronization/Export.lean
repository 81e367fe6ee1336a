import Gumstix.Synchronization.StateMachine

/-!
# An export interrupted between its steps

`EXPORT_GD_DATA_FROM_SYNCHONIZATION_DRIVER` runs with interrupts enabled. Here it is the
sequence of its steps, each kept with the local values it has read so far, and interrupts
and time may come between any two of them.
-/
namespace Gumstix.Synchronization
open EventMachine

inductive ExportStage where
  | choose
  | readCounter (timer : Word)
  | compute (timer value : Word)
  | copyOfficial (microSecond : Word)
  | copyRest (data : GpsData) (microSecond : Word)
  | done (result : GeoDatationData)
  deriving DecidableEq, Repr

structure ExportState where
  driver : Driver
  counters : Counters
  stage : ExportStage
  deriving DecidableEq, Repr

inductive ExportEvent where
  | exec
  | elapse (counters : Counters)
  | pps (r : PpsReads)
  | relay (r : RelayReads)
  deriving DecidableEq, Repr

/-- The counter of the selected timer; an unknown timer is never selected. -/
def readTimer (c : Counters) (timer : Word) : Word :=
  if timer = relayTimerId then c.relayCounter else c.ppsCounter

/-- The second half of `ComputeMicroSecond`, from the counter value already read. -/
def microSecondOf (d : Driver) (timer value : Word) : Word :=
  if timer = captureTimerId then (value - d.lastTimerValue) / (d.ppsTimerInputClock / 1000000)
  else if timer = relayTimerId then
    (value - d.timerReloadValue) / (d.relayTimerInputClock / 1000000)
  else -errComputeMicroSecondSpecifiedTimer

def execStage (d : Driver) (c : Counters) : ExportStage → ExportStage
  | .choose =>
      match selectTimer d with
      | some timer => .readCounter timer
      | none => .copyOfficial 0
  | .readCounter timer => .compute timer (readTimer c timer)
  | .compute timer value => .copyOfficial (microSecondOf d timer value)
  | .copyOfficial microSecond => .copyRest d.gpsOfficialData microSecond
  | .copyRest data microSecond =>
      .done ⟨data, microSecond, d.averageTimerErrorValue, d.driverRunningMode⟩
  | .done result => .done result

def exportNext (s : ExportState) : ExportEvent → ExportState
  | .exec => { s with stage := execStage s.driver s.counters s.stage }
  | .elapse c => { s with counters := c }
  | .pps r => { s with driver := ppsTimerIrqHandler s.driver r }
  | .relay r => { s with driver := relayTimerIrqHandler s.driver r }

def ExportStage.result : ExportStage → Option GeoDatationData
  | .done result => some result
  | _ => none

/-- Nothing is observed after the call has returned. -/
def exportEnabled (s : ExportState) : ExportEvent → Prop
  | .relay _ => s.stage.result = none ∧ s.driver.relayTimer.started = true
  | .exec | .elapse _ | .pps _ => s.stage.result = none

instance (s : ExportState) : (e : ExportEvent) → Decidable (exportEnabled s e)
  | .relay _ => inferInstanceAs (Decidable (_ ∧ _))
  | .exec => inferInstanceAs (Decidable (_ = none))
  | .elapse _ => inferInstanceAs (Decidable (_ = none))
  | .pps _ => inferInstanceAs (Decidable (_ = none))

def exportMachine : EventMachine ExportState ExportEvent := ⟨exportEnabled, exportNext⟩

instance (s : ExportState) (e : ExportEvent) : Decidable (exportMachine.enabled s e) :=
  inferInstanceAs (Decidable (exportEnabled s e))

def exportStart (d : Driver) (c : Counters) : ExportState := ⟨d, c, .choose⟩

theorem computeMicroSecond_eq (d : Driver) (c : Counters) (timer : Word) :
    computeMicroSecond d c timer = microSecondOf d timer (readTimer c timer) := by
  unfold computeMicroSecond microSecondOf readTimer
  by_cases capture : timer = captureTimerId
  · rw [if_pos capture, if_pos capture, if_neg (by rw [capture]; decide)]
  · rw [if_neg capture, if_neg capture]
    by_cases relay : timer = relayTimerId
    · rw [if_pos relay, if_pos relay, if_pos relay]
    · rw [if_neg relay, if_neg relay]

/-- Steps with nothing between them return what the atomic export returns. -/
theorem exec_uninterrupted (d : Driver) (c : Counters) :
    (exportMachine.run (exportStart d c)
        (List.replicate (if selectTimer d = none then 3 else 5) .exec)).stage =
      .done (exportGdData d c) := by
  cases timer : selectTimer d with
  | none =>
      rw [if_pos rfl]
      simp [List.replicate, exportMachine, exportNext, exportStart, execStage, exportGdData,
        timer]
  | some timer' =>
      rw [if_neg (Option.some_ne_none timer')]
      simp [List.replicate, exportMachine, exportNext, exportStart, execStage, exportGdData,
        timer, computeMicroSecond_eq]

/-- The part of an export that makes up a timestamp. -/
def GeoDatationData.timestamp (g : GeoDatationData) : Word × Word :=
  (g.data.timeInSeconds, g.microSecond)

/-- The timestamp of a call that ran at this instant alone. -/
def instantTimestamp (d : Driver) (c : Counters) : Word × Word := (exportGdData d c).timestamp

def ExportState.instant (s : ExportState) : Word × Word := instantTimestamp s.driver s.counters

/-- An observer notes the timestamp of every instant since the start of the call. -/
def observedExport : EventMachine (ExportState × List (Word × Word)) ExportEvent :=
  exportMachine.observe fun s e seen => (exportNext s e).instant :: seen

def observedStart (d : Driver) (c : Counters) : ExportState × List (Word × Word) :=
  (exportStart d c, [instantTimestamp d c])

/-- A call that has returned has returned the timestamp of one of its instants. -/
def TimestampOfAnInstant (s : ExportState × List (Word × Word)) : Prop :=
  ∀ g ∈ s.1.stage.result, g.timestamp ∈ s.2

/-- A PPS leaves the official seconds as they are. -/
def PpsKeepsSeconds (d : Driver) : Prop :=
  match d.driverCurrentState with
  | .initialization => d.gpsOfficialData.timeInSeconds = initialOfficialData.timeInSeconds
  | .waitForGpsFixed | .gpsFixed => d.dataSupplied = 1 →
      d.gpsTemporaryData.timeInSeconds = d.gpsOfficialData.timeInSeconds
  | .switchGpsToOff => False
  | .gpsOff => True

/-- Interrupts do not come where they would tear the timestamp: between the choice of the
timer and the reading no PPS switches the driver to `STATE_Gps_Off`; between the reading
and the computation none moves the reference of the selected timer; and from the reading
to the copy of the official record none changes the seconds. In an unknown mode no timer
is read and every interrupt is harmless. -/
def Undisturbed (s : ExportState) (e : ExportEvent) : Prop :=
  match s.stage, e with
  | .readCounter _, .pps _ =>
      ¬ (s.driver.driverRunningMode = mode3 ∧ s.driver.driverCurrentState = .switchGpsToOff)
  | .compute timer _, .pps r =>
      (timer = captureTimerId → r.captureTimerValue = s.driver.lastTimerValue) ∧
        PpsKeepsSeconds s.driver
  | .compute _ _, .relay _ => s.driver.driverCurrentState ≠ .gpsOff
  | .copyOfficial _, .pps _ => selectTimer s.driver ≠ none → PpsKeepsSeconds s.driver
  | .copyOfficial _, .relay _ =>
      selectTimer s.driver ≠ none → s.driver.driverCurrentState ≠ .gpsOff
  | _, _ => True

/-- What the local values of a stage are worth: they belong to an instant already seen. -/
def StageTracked (d : Driver) (seen : List (Word × Word)) : ExportStage → Prop
  | .choose => True
  | .readCounter timer => selectTimer d = some timer
  | .compute timer value =>
      selectTimer d ≠ none ∧
      (timer = relayTimerId → d.driverCurrentState = .gpsOff) ∧
      (d.gpsOfficialData.timeInSeconds, microSecondOf d timer value) ∈ seen
  | .copyOfficial microSecond =>
      (d.gpsOfficialData.timeInSeconds, microSecond) ∈ seen ∧
        (selectTimer d = none → microSecond = 0)
  | .copyRest data microSecond => (data.timeInSeconds, microSecond) ∈ seen
  | .done result => result.timestamp ∈ seen

structure Tracked (s : ExportState × List (Word × Word)) : Prop where
  current : s.1.instant ∈ s.2
  stage : StageTracked s.1.driver s.2 s.1.stage

theorem pps_keeps_seconds {d : Driver} (r : PpsReads) (h : PpsKeepsSeconds d) :
    (ppsTimerIrqHandler d r).gpsOfficialData.timeInSeconds = d.gpsOfficialData.timeInSeconds := by
  rw [pps_gpsOfficialData]
  unfold PpsKeepsSeconds at h
  cases hs : d.driverCurrentState with
  | initialization =>
      simp only [hs] at h
      exact h.symm
  | waitForGpsFixed | gpsFixed =>
      simp only [hs] at h
      dsimp only
      split
      · next supplied => exact h supplied
      · rfl
  | switchGpsToOff =>
      simp only [hs] at h
  | gpsOff => rfl

theorem instantTimestamp_some {d : Driver} (c : Counters) {timer : Word}
    (h : selectTimer d = some timer) :
    instantTimestamp d c =
      (d.gpsOfficialData.timeInSeconds, microSecondOf d timer (readTimer c timer)) := by
  simp only [instantTimestamp, GeoDatationData.timestamp, exportGdData, h, computeMicroSecond_eq]

theorem instantTimestamp_none {d : Driver} (c : Counters) (h : selectTimer d = none) :
    instantTimestamp d c = (d.gpsOfficialData.timeInSeconds, 0) := by
  simp only [instantTimestamp, GeoDatationData.timestamp, exportGdData, h]

theorem StageTracked.mono {d : Driver} {seen : List (Word × Word)} {stage : ExportStage}
    (h : StageTracked d seen stage) (instant : Word × Word) :
    StageTracked d (instant :: seen) stage := by
  cases stage with
  | choose => exact trivial
  | readCounter timer => exact h
  | compute timer value => exact ⟨h.1, h.2.1, List.mem_cons_of_mem _ h.2.2⟩
  | copyOfficial microSecond => exact ⟨List.mem_cons_of_mem _ h.1, h.2⟩
  | copyRest data microSecond => exact List.mem_cons_of_mem _ h
  | done result => exact List.mem_cons_of_mem _ h

theorem exec_tracked {d : Driver} {c : Counters} {stage : ExportStage}
    {seen : List (Word × Word)} (current : instantTimestamp d c ∈ seen)
    (h : StageTracked d seen stage) : StageTracked d seen (execStage d c stage) := by
  cases stage with
  | choose =>
      cases timer : selectTimer d with
      | none =>
          simp only [execStage, timer, StageTracked]
          exact ⟨instantTimestamp_none c timer ▸ current, fun _ => trivial⟩
      | some timer' =>
          simp only [execStage, timer]
          exact timer
  | readCounter timer =>
      have chosen : selectTimer d = some timer := h
      refine ⟨by rw [chosen]; exact Option.some_ne_none timer, fun relay => ?_, ?_⟩
      · exact selectTimer_eq_relay (chosen.trans (congrArg some relay))
      · exact instantTimestamp_some c chosen ▸ current
  | compute timer value => exact ⟨h.2.2, fun unknown => absurd unknown h.1⟩
  | copyOfficial microSecond => exact h.1
  | copyRest data microSecond => exact h
  | done result => exact h

theorem microSecondOf_congr {d d' : Driver} {timer : Word} (value : Word)
    (same : SameSettings d d')
    (last : timer = captureTimerId → d'.lastTimerValue = d.lastTimerValue)
    (reload : timer = relayTimerId → d'.timerReloadValue = d.timerReloadValue) :
    microSecondOf d' timer value = microSecondOf d timer value := by
  unfold microSecondOf
  rw [same.ppsClock, same.relayClock]
  by_cases capture : timer = captureTimerId
  · rw [if_pos capture, if_pos capture, last capture]
  · rw [if_neg capture, if_neg capture]
    by_cases relay : timer = relayTimerId
    · rw [if_pos relay, if_pos relay, reload relay]
    · rw [if_neg relay, if_neg relay]

/-- An interrupt that keeps what the stage still needs: the selection, the reference of
the selected timer, the seconds. -/
theorem interrupt_tracked {d d' : Driver} {c : Counters} {stage : ExportStage}
    {seen : List (Word × Word)} (settings : SameSettings d d') (h : StageTracked d seen stage)
    (off : d.driverCurrentState = .gpsOff → d'.driverCurrentState = .gpsOff)
    (selection : ∀ timer, stage = .readCounter timer → selectTimer d' = selectTimer d)
    (reference : ∀ timer value, stage = .compute timer value →
      (timer = relayTimerId → d.driverCurrentState = .gpsOff) →
      microSecondOf d' timer value = microSecondOf d timer value ∧
        d'.gpsOfficialData.timeInSeconds = d.gpsOfficialData.timeInSeconds)
    (seconds : ∀ microSecond, stage = .copyOfficial microSecond → selectTimer d ≠ none →
      d'.gpsOfficialData.timeInSeconds = d.gpsOfficialData.timeInSeconds) :
    StageTracked d' (instantTimestamp d' c :: seen) stage := by
  have unknown : selectTimer d' = none ↔ selectTimer d = none := by
    rw [selectTimer_eq_none, selectTimer_eq_none, settings.mode]
  cases stage with
  | choose => exact trivial
  | readCounter timer => exact (selection timer rfl).trans h
  | compute timer value =>
      obtain ⟨known, relay, matched⟩ := h
      obtain ⟨sameMicroSecond, sameSeconds⟩ := reference timer value rfl relay
      refine ⟨mt unknown.mp known, fun isRelay => off (relay isRelay), ?_⟩
      rw [sameMicroSecond, sameSeconds]
      exact List.mem_cons_of_mem _ matched
  | copyOfficial microSecond =>
      by_cases known : selectTimer d = none
      · have zero := h.2 known
        refine ⟨?_, fun _ => zero⟩
        rw [instantTimestamp_none c (unknown.mpr known), zero]
        exact List.mem_cons_self
      · refine ⟨?_, fun none' => absurd (unknown.mp none') known⟩
        rw [seconds microSecond rfl known]
        exact List.mem_cons_of_mem _ h.1
  | copyRest data microSecond => exact List.mem_cons_of_mem _ h
  | done result => exact List.mem_cons_of_mem _ h

theorem pps_tracked {s : ExportState} {seen : List (Word × Word)} (r : PpsReads)
    (h : StageTracked s.driver seen s.stage) (quiet : Undisturbed s (.pps r)) :
    StageTracked (ppsTimerIrqHandler s.driver r)
      (instantTimestamp (ppsTimerIrqHandler s.driver r) s.counters :: seen) s.stage := by
  obtain ⟨d, c, stage⟩ := s
  apply interrupt_tracked (pps_settings d r) h
  · intro off
    rw [pps_driverCurrentState]
    exact ppsNextState_off.mpr (.inr off)
  · rintro timer rfl
    apply selectTimer_congr (pps_settings d r).mode
    intro three
    rw [pps_driverCurrentState, ppsNextState_off]
    exact ⟨fun next => next.resolve_left fun switch => quiet ⟨three, switch⟩, .inr⟩
  · rintro timer value rfl relay
    refine ⟨microSecondOf_congr value (pps_settings d r) (fun capture => quiet.1 capture)
      fun isRelay => ?_, pps_keeps_seconds r quiet.2⟩
    exact pps_timerReloadValue d r (not_launches_of_state (by rw [relay isRelay]; decide))
  · rintro microSecond rfl known
    exact pps_keeps_seconds r (quiet known)

theorem relay_tracked {s : ExportState} {seen : List (Word × Word)} (r : RelayReads)
    (h : StageTracked s.driver seen s.stage) (quiet : Undisturbed s (.relay r)) :
    StageTracked (relayTimerIrqHandler s.driver r)
      (instantTimestamp (relayTimerIrqHandler s.driver r) s.counters :: seen) s.stage := by
  obtain ⟨d, c, stage⟩ := s
  have state := relay_driverCurrentState d r
  refine interrupt_tracked (relay_settings d r) h (fun off => state.trans off) ?_ ?_ ?_
  · rintro timer rfl
    exact selectTimer_congr (relay_settings d r).mode fun _ => by rw [state]
  · rintro timer value rfl -
    exact ⟨microSecondOf_congr value (relay_settings d r) (fun _ => relay_lastTimerValue d r)
      fun _ => relay_timerReloadValue d r, by rw [(relay_quiet d r quiet).1]⟩
  · rintro microSecond rfl known
    rw [(relay_quiet d r (quiet known)).1]

theorem next_tracked (s : ExportState × List (Word × Word)) (e : ExportEvent) (h : Tracked s)
    (quiet : Undisturbed s.1 e) : Tracked (observedExport.next s e) := by
  obtain ⟨s, seen⟩ := s
  refine ⟨List.mem_cons_self, ?_⟩
  cases e with
  | exec => exact (exec_tracked h.current h.stage).mono _
  | elapse c => exact h.stage.mono _
  | pps r => exact pps_tracked r h.stage quiet
  | relay r => exact relay_tracked r h.stage quiet

theorem Tracked.timestamp {s : ExportState × List (Word × Word)} (h : Tracked s) :
    TimestampOfAnInstant s := by
  intro g returned
  have tracked := h.stage
  cases stage : s.1.stage with
  | done result =>
      rw [stage] at returned tracked
      obtain rfl : result = g := Option.some.inj returned
      exact tracked
  | _ => simp [stage, ExportStage.result] at returned

/-- In every run of one call whose interrupts do not disturb it, the returned timestamp is
one that an uninterrupted call returns at some instant of the run. -/
theorem undisturbed_export_untorn {d : Driver} {c : Counters} {es : List ExportEvent}
    (h : exportMachine.Admits (exportStart d c) es)
    (quiet : exportMachine.EveryStep Undisturbed (exportStart d c) es) :
    observedExport.Always TimestampOfAnInstant (observedStart d c) es :=
  always_mono (fun _ tracked => tracked.timestamp)
    (always_of_everyStep (fun s e tracked _ quiet => next_tracked s e tracked quiet)
      ⟨List.mem_singleton_self _, trivial⟩ ((observe_admits _ _ es).mpr h)
      ((observe_everyStep _ _ es).mpr quiet))

/-- A PPS after the copy of the official record. -/
def latePpsRun : List ExportEvent :=
  [.exec, .exec, .elapse ⟨26000040, 0⟩, .exec, .exec, .pps ⟨26000040, 26000000⟩, .exec]

theorem undisturbed_export_untorn_latePps :
    observedExport.Always TimestampOfAnInstant (observedStart loaded26 ⟨25999999, 0⟩) latePpsRun :=
  undisturbed_export_untorn (by decide)
    ⟨trivial, trivial, trivial, trivial, trivial, trivial, trivial, trivial⟩

/-- The driver in `STATE_Gps_Fixed` with the record of the next second supplied. -/
def nextSupplied : Driver := driverMachine.run loaded26 (fixedRun ++ [supplyEvent (fixRecord 16)])

/-- The call computes 999999 µs, then the PPS makes the next second official. -/
def tornRun : List ExportEvent :=
  [.exec, .exec, .exec, .elapse ⟨442000040, 0⟩, .pps ⟨442000040, 442000000⟩, .exec, .exec]

set_option maxRecDepth 4000 in
theorem nextSupplied_reachable : Reachable 26000000 26000000 nextSupplied :=
  .run (by decide +kernel)

set_option maxRecDepth 4000 in
theorem untorn_export_refuted :
    ¬ ∀ (ppsClock relayClock : Word) (d : Driver), Reachable ppsClock relayClock d →
      ∀ (c : Counters) (es : List ExportEvent), exportMachine.Admits (exportStart d c) es →
        observedExport.Always TimestampOfAnInstant (observedStart d c) es := by
  intro every
  have admitted : exportMachine.Admits (exportStart nextSupplied ⟨441999999, 0⟩) tornRun := by
    decide +kernel
  have untorn := (every _ _ _ nextSupplied_reachable _ _ admitted).last
  have returned : (observedExport.run (observedStart nextSupplied ⟨441999999, 0⟩)
      tornRun).1.stage.result = some ⟨fixRecord 16, 999999, 0, mode1⟩ := by decide +kernel
  have torn : (1340982305, 999999) ∉ (observedExport.run
      (observedStart nextSupplied ⟨441999999, 0⟩) tornRun).2 := by decide +kernel
  exact torn (untorn _ returned)

end Gumstix.Synchronization
