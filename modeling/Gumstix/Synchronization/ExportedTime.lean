import Gumstix.Synchronization.StateMachine

/-!
# Exported time along a run

Ideal conditions: a clock of a whole number of MHz, edges exactly one second apart and
handled at once, records with the true second number, exports that nothing interrupts.
The seconds of an export come from a supplied record and its microseconds from the
timer; here both are followed from export to export.
-/
namespace Gumstix.Synchronization
open EventMachine

/-- The driver, the true number of the current second, the ticks since its edge at the
last export and whether a record has been supplied in it. -/
structure Timeline where
  driver : Driver
  second : Int
  offset : Nat
  supplied : Bool
  deriving DecidableEq, Repr

inductive TimelineEvent where
  | edge (preemptTimerValue : Word)
  | supply (record : GpsData) (arg : Word)
  | exportAt (offset : Nat) (relayCounter : Word)
  deriving DecidableEq, Repr

/-- The total in microseconds: `oTimeTTimeInSeconds * 1000000 + uiMicroSecond`. -/
def GeoDatationData.total (g : GeoDatationData) : Int :=
  g.data.timeInSeconds.toInt * 1000000 + g.microSecond.toNat

section timeline
variable (mhz : Nat)

def ticksPerSecond : Nat := mhz * 1000000

def exportCounters (d : Driver) (offset : Nat) (relayCounter : Word) : Counters :=
  ⟨d.lastTimerValue + BitVec.ofNat 32 offset, relayCounter⟩

def timelineEnabled (s : Timeline) : TimelineEvent → Prop
  | .edge _ => ¬ Launches s.driver
  | .supply record _ =>
      s.supplied = false ∧ record.valid ∧ record.timeInSeconds.toInt = s.second
  | .exportAt offset _ => s.offset ≤ offset ∧ offset < ticksPerSecond mhz

instance (s : Timeline) : (e : TimelineEvent) → Decidable (timelineEnabled mhz s e)
  | .edge _ => inferInstanceAs (Decidable (¬ _))
  | .supply _ _ => inferInstanceAs (Decidable (_ ∧ _ ∧ _))
  | .exportAt _ _ => inferInstanceAs (Decidable (_ ∧ _))

def timelineNext (s : Timeline) : TimelineEvent → Timeline
  | .edge preempt =>
      { driver := ppsTimerIrqHandler s.driver
          ⟨preempt, s.driver.lastTimerValue + BitVec.ofNat 32 (ticksPerSecond mhz)⟩
        second := s.second + 1
        offset := 0
        supplied := false }
  | .supply record arg =>
      { s with
        driver := (synchronizationIoctl s.driver syncIoctlSetTemporaryGpsData arg
          ⟨⟨0, 0⟩, 0, record, sizeofGpsData⟩).driver
        supplied := true }
  | .exportAt offset _ => { s with offset := offset }

def timelineMachine : EventMachine Timeline TimelineEvent :=
  ⟨timelineEnabled mhz, timelineNext mhz⟩

instance (s : Timeline) (e : TimelineEvent) : Decidable ((timelineMachine mhz).enabled s e) :=
  inferInstanceAs (Decidable (timelineEnabled mhz s e))

/-- What an observer of the exports knows: their totals, the newest first, how many
microseconds of its second had passed at the last of them, and whether a record has
become official since. -/
structure ExportLog where
  totals : List Int
  microsecond : Nat
  uploaded : Bool
  deriving DecidableEq, Repr

def watchExports (s : Timeline) (e : TimelineEvent) (log : ExportLog) : ExportLog :=
  match e with
  | .edge _ => { log with uploaded := log.uploaded || s.supplied }
  | .supply _ _ => log
  | .exportAt offset relayCounter =>
      { totals :=
          (exportGdData s.driver (exportCounters s.driver offset relayCounter)).total :: log.totals
        microsecond := offset / mhz
        uploaded := false }

def loggedTimeline : EventMachine (Timeline × ExportLog) TimelineEvent :=
  (timelineMachine mhz).observe (watchExports mhz)

/-- From each export to the next the total does not decrease. -/
def NeverBackwards (s : Timeline × ExportLog) : Prop :=
  s.2.totals.IsChain fun later earlier => earlier ≤ later

/-- An export that is not the first follows a record that has become official since the
previous one, or it comes no earlier in its second than that one did in its own. In an
unknown mode the microseconds are always zero. -/
def FreshOrLater (s : Timeline × ExportLog) : TimelineEvent → Prop
  | .exportAt offset _ =>
      s.2.totals = [] ∨ s.2.uploaded = true ∨ selectTimer s.1.driver = none ∨
        s.2.microsecond ≤ offset / mhz
  | .edge _ | .supply _ _ => True

instance (s : Timeline × ExportLog) : (e : TimelineEvent) → Decidable (FreshOrLater mhz s e)
  | .exportAt _ _ => inferInstanceAs (Decidable (_ ∨ _ ∨ _ ∨ _))
  | .edge _ => .isTrue trivial
  | .supply _ _ => .isTrue trivial

/-- Right after the PPS that made the first supplied record official. -/
structure FirstOfficial (d : Driver) (second : Int) : Prop where
  clock : d.ppsTimerInputClock = BitVec.ofNat 32 (ticksPerSecond mhz)
  tracking : Tracking d
  flag : d.dataSupplied = 0
  official : d.gpsOfficialData.timeInSeconds.toInt = second - 1

def timelineStart (d : Driver) (second : Int) : Timeline × ExportLog :=
  (⟨d, second, 0, false⟩, ⟨[], 0, false⟩)

variable {mhz}

theorem exportMicroSecond (fits : ticksPerSecond mhz < 2 ^ 32) {d : Driver}
    (clock : d.ppsTimerInputClock = BitVec.ofNat 32 (ticksPerSecond mhz)) {offset : Nat}
    (inside : offset < ticksPerSecond mhz) (relayCounter : Word) :
    (computeMicroSecond d (exportCounters d offset relayCounter) captureTimerId).toNat =
      offset / mhz := by
  have rate : (d.ppsTimerInputClock / 1000000).toNat = mhz := by
    rw [clock, BitVec.toNat_udiv, BitVec.toNat_ofNat, Nat.mod_eq_of_lt fits]
    exact Nat.mul_div_cancel mhz (by decide)
  have delta : d.lastTimerValue + BitVec.ofNat 32 offset - d.lastTimerValue =
      BitVec.ofNat 32 offset := by
    rw [BitVec.add_comm, BitVec.add_sub_cancel]
  rw [computeMicroSecond, if_pos rfl, exportCounters, delta, BitVec.toNat_udiv, rate,
    BitVec.toNat_ofNat, Nat.mod_eq_of_lt (inside.trans fits)]

/-- Microseconds an export made `microsecond` µs into its second adds to the seconds. -/
def exportedMicros (d : Driver) (microsecond : Nat) : Nat :=
  if selectTimer d = none then 0 else microsecond

theorem export_total (fits : ticksPerSecond mhz < 2 ^ 32) {d : Driver}
    (clock : d.ppsTimerInputClock = BitVec.ofNat 32 (ticksPerSecond mhz)) (tracking : Tracking d)
    {offset : Nat} (inside : offset < ticksPerSecond mhz) (relayCounter : Word) :
    (exportGdData d (exportCounters d offset relayCounter)).total =
      d.gpsOfficialData.timeInSeconds.toInt * 1000000 + exportedMicros d (offset / mhz) := by
  unfold exportedMicros GeoDatationData.total exportGdData
  rcases selectTimer_tracking tracking with unknown | capture
  · simp only [unknown, if_pos]
    rfl
  · simp only [capture, exportMicroSecond fits clock inside, reduceCtorEq, if_false]

/-- The official record is older than the current second; a record supplied in this
second waits in the temporary one. -/
structure OnTime (mhz : Nat) (s : Timeline) : Prop where
  clock : s.driver.ppsTimerInputClock = BitVec.ofNat 32 (ticksPerSecond mhz)
  tracking : Tracking s.driver
  flag : s.driver.dataSupplied = if s.supplied then 1 else 0
  temporary : s.supplied = true → s.driver.gpsTemporaryData.timeInSeconds.toInt = s.second
  official : s.driver.gpsOfficialData.timeInSeconds.toInt < s.second

/-- The last total in terms of the present: its seconds are the official ones, or earlier
ones if a record has become official since. -/
structure LastExport (d : Driver) (log : ExportLog) (total seconds : Int) : Prop where
  total : total = seconds * 1000000 + exportedMicros d log.microsecond
  fresh : log.uploaded = true → seconds < d.gpsOfficialData.timeInSeconds.toInt
  same : log.uploaded = false → seconds = d.gpsOfficialData.timeInSeconds.toInt

structure Forward (mhz : Nat) (s : Timeline × ExportLog) : Prop where
  onTime : OnTime mhz s.1
  nondecreasing : NeverBackwards s
  micro : s.2.microsecond < 1000000
  last : ∀ total ∈ s.2.totals.head?, ∃ seconds, LastExport s.1.driver s.2 total seconds

theorem exportedMicros_le (d : Driver) (microsecond : Nat) :
    exportedMicros d microsecond ≤ microsecond := by
  unfold exportedMicros
  split
  · exact Nat.zero_le _
  · exact le_rfl

theorem exportedMicros_congr {d d' : Driver} (mode : d'.driverRunningMode = d.driverRunningMode)
    (microsecond : Nat) : exportedMicros d' microsecond = exportedMicros d microsecond := by
  have same : selectTimer d' = none ↔ selectTimer d = none := by
    rw [selectTimer_eq_none, selectTimer_eq_none, mode]
  simp only [exportedMicros, same]

/-- Two exports compared: exactly the condition on the later one. -/
theorem lastExport_le_iff {d : Driver} {log : ExportLog} {last seconds : Int} {microsecond : Nat}
    (h : LastExport d log last seconds) (micro : log.microsecond < 1000000) :
    last ≤ d.gpsOfficialData.timeInSeconds.toInt * 1000000 + exportedMicros d microsecond ↔
      log.uploaded = true ∨ selectTimer d = none ∨ log.microsecond ≤ microsecond := by
  rw [h.total]
  cases uploaded : log.uploaded with
  | true =>
      have earlier := h.fresh uploaded
      have bound := exportedMicros_le d log.microsecond
      simp only [true_or, iff_true]
      omega
  | false =>
      rw [h.same uploaded]
      simp only [Bool.false_eq_true, false_or, Int.add_le_add_iff_left, Int.ofNat_le,
        exportedMicros]
      by_cases unknown : selectTimer d = none <;> simp [unknown]

theorem timelineStart_forward {d : Driver} {second : Int} (h : FirstOfficial mhz d second) :
    Forward mhz (timelineStart d second) where
  onTime := ⟨h.clock, h.tracking, h.flag, fun no => absurd no Bool.false_ne_true, by
    change d.gpsOfficialData.timeInSeconds.toInt < second
    rw [h.official]
    omega⟩
  nondecreasing := .nil
  micro := by simp [timelineStart]
  last := by simp [timelineStart]

/-- The official seconds after an edge: the number of the second that has just ended, or
what they were if no record was supplied in it. -/
theorem edge_official {s : Timeline} (r : PpsReads) (h : OnTime mhz s) :
    (ppsTimerIrqHandler s.driver r).gpsOfficialData.timeInSeconds.toInt =
      if s.supplied then s.second else s.driver.gpsOfficialData.timeInSeconds.toInt := by
  rw [pps_official_tracking r h.tracking, h.flag]
  cases supplied : s.supplied with
  | true => simpa using h.temporary supplied
  | false => rfl

theorem edge_onTime {s : Timeline} (preempt : Word) (h : OnTime mhz s)
    (stays : ¬ Launches s.driver) : OnTime mhz (timelineNext mhz s (.edge preempt)) where
  clock := (pps_settings s.driver _).ppsClock.trans h.clock
  tracking := pps_tracking _ h.tracking stays
  flag := rfl
  temporary no := absurd no Bool.false_ne_true
  official := by
    have older := h.official
    change (ppsTimerIrqHandler s.driver _).gpsOfficialData.timeInSeconds.toInt < s.second + 1
    rw [edge_official _ h]
    split <;> omega

theorem edge_forward {s : Timeline} {log : ExportLog} (preempt : Word)
    (h : Forward mhz (s, log)) (stays : ¬ Launches s.driver) :
    Forward mhz (timelineNext mhz s (.edge preempt), watchExports mhz s (.edge preempt) log) where
  onTime := edge_onTime preempt h.onTime stays
  nondecreasing := h.nondecreasing
  micro := h.micro
  last total newest := by
    obtain ⟨seconds, (lastExport : LastExport s.driver log total seconds)⟩ := h.last total newest
    let r : PpsReads :=
      ⟨preempt, s.driver.lastTimerValue + BitVec.ofNat 32 (ticksPerSecond mhz)⟩
    change ∃ seconds, LastExport (ppsTimerIrqHandler s.driver r)
      { log with uploaded := log.uploaded || s.supplied } total seconds
    have onTime : OnTime mhz s := h.onTime
    have official := edge_official r onTime
    have older : s.driver.gpsOfficialData.timeInSeconds.toInt < s.second := h.onTime.official
    refine ⟨seconds, ?_, fun uploaded => ?_, fun uploaded => ?_⟩
    · rw [exportedMicros_congr (pps_settings s.driver r).mode]
      exact lastExport.total
    · rw [official]
      cases before : log.uploaded with
      | true =>
          have := lastExport.fresh before
          split <;> omega
      | false =>
          have := lastExport.same before
          simp only [before, Bool.false_or] at uploaded
          rw [if_pos uploaded]
          omega
    · simp only [Bool.or_eq_false_iff] at uploaded
      rw [official, if_neg (by simp [uploaded.2])]
      exact lastExport.same uploaded.1

theorem supply_forward {s : Timeline} {log : ExportLog} (record : GpsData) (arg : Word)
    (h : Forward mhz (s, log)) (second : record.timeInSeconds.toInt = s.second) :
    Forward mhz (timelineNext mhz s (.supply record arg), log) := by
  have driver := ioctl_supply s.driver arg ⟨⟨0, 0⟩, 0, record, sizeofGpsData⟩ le_rfl
  simp only [timelineNext, driver]
  refine ⟨⟨h.onTime.clock, h.onTime.tracking, rfl, fun _ => second, h.onTime.official⟩,
    h.nondecreasing, h.micro, fun total newest => ?_⟩
  obtain ⟨seconds, lastExport⟩ := h.last total newest
  exact ⟨seconds, ⟨lastExport.total, lastExport.fresh, lastExport.same⟩⟩

/-- The newest total against the one before, exactly. -/
theorem export_forward_iff {s : Timeline} {log : ExportLog} {offset : Nat} (relayCounter : Word)
    (fits : ticksPerSecond mhz < 2 ^ 32) (h : Forward mhz (s, log))
    (inside : offset < ticksPerSecond mhz) :
    NeverBackwards (s, watchExports mhz s (.exportAt offset relayCounter) log) ↔
      FreshOrLater mhz (s, log) (.exportAt offset relayCounter) := by
  have newest := export_total fits h.onTime.clock h.onTime.tracking inside relayCounter
  simp only [NeverBackwards, watchExports, FreshOrLater]
  cases totals : log.totals with
  | nil => simp
  | cons last earlier =>
      obtain ⟨seconds, lastExport⟩ := h.last last (by simp [totals])
      have chain : List.IsChain (fun later earlier => earlier ≤ later) (last :: earlier) := by
        rw [← totals]
        exact h.nondecreasing
      rw [List.isChain_cons_cons, newest, lastExport_le_iff lastExport h.micro]
      simp [chain]

theorem export_forward {s : Timeline} {log : ExportLog} {offset : Nat} (relayCounter : Word)
    (fits : ticksPerSecond mhz < 2 ^ 32) (h : Forward mhz (s, log))
    (inside : offset < ticksPerSecond mhz)
    (condition : FreshOrLater mhz (s, log) (.exportAt offset relayCounter)) :
    Forward mhz (timelineNext mhz s (.exportAt offset relayCounter),
      watchExports mhz s (.exportAt offset relayCounter) log) where
  onTime := ⟨h.onTime.clock, h.onTime.tracking, h.onTime.flag, h.onTime.temporary,
    h.onTime.official⟩
  nondecreasing := (export_forward_iff relayCounter fits h inside).mpr condition
  micro := Nat.div_lt_of_lt_mul inside
  last total newest := by
    obtain rfl : _ = total := Option.some.inj newest
    exact ⟨_, export_total fits h.onTime.clock h.onTime.tracking inside relayCounter,
      fun no => absurd no Bool.false_ne_true, fun _ => rfl⟩

theorem timeline_next_forward (fits : ticksPerSecond mhz < 2 ^ 32) (s : Timeline × ExportLog)
    (e : TimelineEvent) (h : Forward mhz s) (enabled : timelineEnabled mhz s.1 e)
    (condition : FreshOrLater mhz s e) : Forward mhz ((loggedTimeline mhz).next s e) := by
  cases e with
  | edge preempt => exact edge_forward preempt h enabled
  | supply record arg => exact supply_forward record arg h enabled.2.2
  | exportAt offset relayCounter => exact export_forward relayCounter fits h enabled.2 condition

theorem freshOrLater_of_neverBackwards (fits : ticksPerSecond mhz < 2 ^ 32)
    (s : Timeline × ExportLog) (e : TimelineEvent) (h : Forward mhz s)
    (enabled : timelineEnabled mhz s.1 e) (right : NeverBackwards ((loggedTimeline mhz).next s e)) :
    FreshOrLater mhz s e := by
  cases e with
  | edge preempt => exact trivial
  | supply record arg => exact trivial
  | exportAt offset relayCounter =>
      exact (export_forward_iff relayCounter fits h enabled.2).mp right

/-- The exported total never decreases along a run exactly if every export that is not the
first follows a new official record or comes no earlier in its second than the one
before. -/
theorem exported_time_forward_iff {d : Driver} {second : Int} (fits : ticksPerSecond mhz < 2 ^ 32)
    (start : FirstOfficial mhz d second) {es : List TimelineEvent}
    (h : (timelineMachine mhz).Admits ⟨d, second, 0, false⟩ es) :
    (loggedTimeline mhz).Always NeverBackwards (timelineStart d second) es ↔
      (loggedTimeline mhz).EveryStep (FreshOrLater mhz) (timelineStart d second) es :=
  always_iff_everyStep (fun _ forward => forward.nondecreasing)
    (fun s e hs enabled condition => timeline_next_forward fits s e hs enabled condition)
    (fun s e hs enabled right => freshOrLater_of_neverBackwards fits s e hs enabled right)
    (timelineStart_forward start) ((observe_admits _ _ es).mpr h)

end timeline

/-- The driver when its first record has become official. -/
def firstOfficial : Driver :=
  driverMachine.run loaded26 [edgeEvent 0, supplyEvent (fixRecord 0), edgeEvent 1]

theorem firstOfficial_reachable : Reachable 26000000 26000000 firstOfficial :=
  .run (by decide +kernel)

theorem firstOfficial_start : FirstOfficial 26 firstOfficial 1340982290 :=
  ⟨by decide +kernel, by decide +kernel, by decide +kernel, by decide +kernel⟩

/-- An export in each of two seconds, with a record supplied in the first. -/
def freshRun : List TimelineEvent :=
  [.exportAt 25999999 0, .supply (fixRecord 1) 0, .edge 0, .exportAt 26 0]

theorem exported_time_forward_iff_freshRun :
    (loggedTimeline 26).Always NeverBackwards (timelineStart firstOfficial 1340982290) freshRun :=
  (exported_time_forward_iff (by decide) firstOfficial_start (by decide +kernel)).mpr
    (by decide +kernel)

/-- The same exports without the record. -/
def missedRun : List TimelineEvent := [.exportAt 25999999 0, .edge 0, .exportAt 26 0]

theorem exported_time_forward_refuted :
    ¬ ∀ (mhz : Nat) (relayClock : Word) (d : Driver) (second : Int) (es : List TimelineEvent),
      ticksPerSecond mhz < 2 ^ 32 →
      Reachable (BitVec.ofNat 32 (ticksPerSecond mhz)) relayClock d → FirstOfficial mhz d second →
      (timelineMachine mhz).Admits ⟨d, second, 0, false⟩ es →
        (loggedTimeline mhz).Always NeverBackwards (timelineStart d second) es := by
  intro every
  have admitted : (timelineMachine 26).Admits ⟨firstOfficial, 1340982290, 0, false⟩ missedRun := by
    decide +kernel
  have forward := (every 26 26000000 firstOfficial 1340982290 missedRun (by decide)
    firstOfficial_reachable firstOfficial_start admitted).last
  have totals : ((loggedTimeline 26).run (timelineStart firstOfficial 1340982290)
      missedRun).2.totals = [1340982289000001, 1340982289999999] := by decide +kernel
  rw [NeverBackwards, totals, List.isChain_cons_cons] at forward
  omega

end Gumstix.Synchronization
