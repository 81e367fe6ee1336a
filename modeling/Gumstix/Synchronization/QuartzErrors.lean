import Gumstix.Library.RingLog
import Gumstix.Synchronization.FixEvidence

/-!
# Quartz errors

The table of quartz errors as a ring log: what each PPS records, which errors the table holds
after any run, between which seconds they are measured, and their value when the capture timer
has overflowed.
-/
namespace Gumstix.Synchronization
open EventMachine RingLog

/-- The table of quartz errors with the number of its slots used in the present round. -/
def Driver.errorLog (d : Driver) : RingLog Word quartzDriftNumber :=
  ⟨d.ppsTimerErrorValueTable, d.lastUsedTimerErrorValueTableCase⟩

/-- The error `ComputeAndAddQuartzError` records at a PPS, if it is called and records one. -/
def recordedError (d : Driver) (r : PpsReads) : Option Word :=
  if Tracking d ∧ quartzErrorValid (uploadSupplied d) then
    some (quartzError (uploadSupplied d) r.captureTimerValue)
  else none

def recordError (log : RingLog Word quartzDriftNumber) :
    Option Word → RingLog Word quartzDriftNumber
  | none => log
  | some error => log.record error

theorem tracking_or_later {d : Driver} (h : d.driverCurrentState ≠ .initialization) :
    Tracking d ∨ d.driverCurrentState = .switchGpsToOff ∨ d.driverCurrentState = .gpsOff := by
  unfold Tracking
  cases hs : d.driverCurrentState with
  | initialization => exact absurd hs h
  | waitForGpsFixed => exact .inl (.inl rfl)
  | gpsFixed => exact .inl (.inr rfl)
  | switchGpsToOff => exact .inr (.inl rfl)
  | gpsOff => exact .inr (.inr rfl)

section table
variable (d : Driver)

theorem errorLog_after (c : Word) (d' : Driver)
    (table : d'.ppsTimerErrorValueTable = errorTableAfter d c)
    (case : d'.lastUsedTimerErrorValueTableCase = errorCaseAfter d) :
    d'.errorLog = if quartzErrorValid d then d.errorLog.record (quartzError d c)
      else d.errorLog := by
  unfold Driver.errorLog
  rw [table, case]
  unfold errorTableAfter errorCaseAfter
  by_cases valid : quartzErrorValid d
  · simp only [if_pos valid]
    rfl
  · simp only [if_neg valid]

theorem pps_errorLog_tracking (r : PpsReads) (h : Tracking d) :
    (ppsTimerIrqHandler d r).errorLog =
      if quartzErrorValid (uploadSupplied d) then
        d.errorLog.record (quartzError (uploadSupplied d) r.captureTimerValue)
      else d.errorLog := by
  change (ppsStateBranch d r).errorLog = _
  refine ppsStateBranch_cases d r ?_ ?_ ?_ ?_ ?_ ?_ ?_
  · intro hs; exact absurd h (by simp [Tracking, hs])
  · intro _
    rw [ppsWaitForGpsFixed_eq]
    exact errorLog_after (uploadSupplied d) _ _ rfl rfl
  · intro _ _; exact errorLog_after (uploadSupplied d) _ _ rfl rfl
  · intro _; exact errorLog_after (uploadSupplied d) _ _ rfl rfl
  · intro _ _ _; exact errorLog_after (uploadSupplied d) _ _ rfl rfl
  · intro hs; exact absurd h (by simp [Tracking, hs])
  · intro hs; exact absurd h (by simp [Tracking, hs])

theorem pps_errorLog_initialization (r : PpsReads) (h : d.driverCurrentState = .initialization) :
    (ppsTimerIrqHandler d r).errorLog = blank quartzDriftNumber 0 := by
  change (ppsStateBranch d r).errorLog = _
  unfold ppsStateBranch
  rw [h]
  rfl

theorem pps_errorLog_later (r : PpsReads)
    (h : d.driverCurrentState = .switchGpsToOff ∨ d.driverCurrentState = .gpsOff) :
    (ppsTimerIrqHandler d r).errorLog = d.errorLog := by
  change (ppsStateBranch d r).errorLog = _
  unfold ppsStateBranch
  rcases h with hs | hs
  · rw [hs]
    rfl
  · rw [hs]
    rfl

/-- After the initialization a PPS only records. -/
theorem pps_errorLog (r : PpsReads) (h : d.driverCurrentState ≠ .initialization) :
    (ppsTimerIrqHandler d r).errorLog = recordError d.errorLog (recordedError d r) := by
  unfold recordedError
  by_cases tracking : Tracking d
  · rw [pps_errorLog_tracking d r tracking]
    by_cases valid : quartzErrorValid (uploadSupplied d)
    · rw [if_pos valid, if_pos ⟨tracking, valid⟩]
      rfl
    · rw [if_neg valid, if_neg fun both => valid both.2]
      rfl
  · rw [if_neg fun both => tracking both.1]
    exact pps_errorLog_later d r ((tracking_or_later h).resolve_left tracking)

theorem relay_errorLog (r : RelayReads) : (relayTimerIrqHandler d r).errorLog = d.errorLog := by
  refine relay_cases d r ?_ ?_
  · intro _; rfl
  · intro _; rfl

theorem ioctl_errorLog (cmd arg : Word) (u : UserAccess) :
    (synchronizationIoctl d cmd arg u).driver.errorLog = d.errorLog := by
  refine ioctl_cases d cmd arg u ?_ ?_ ?_ ?_ ?_ <;> intros <;> rfl

theorem recordedError_eq (r : PpsReads) : recordedError d r =
    if Tracking d ∧ ValidPps d then some (quartzError d r.captureTimerValue) else none := by
  unfold recordedError
  simp only [quartzErrorValid_upload]
  rfl

end table

/-- The errors recorded so far, the oldest first. -/
def watchErrors (d : Driver) (e : Event) (errors : List Word) : List Word :=
  match e with
  | .pps r => errors ++ (recordedError d r).toList
  | .relay _ => errors
  | .ioctl _ _ _ => errors

def errorHistoryMachine : EventMachine (Driver × List Word) Event :=
  driverMachine.observe watchErrors

/-- An error is written to a slot of the table, the one after the last used case or slot 0. -/
def WritesBelow (d : Driver) : Event → Prop
  | .pps r => ∀ error, recordedError d r = some error → ∃ case, ∃ bound : case < quartzDriftNumber,
      (ppsTimerIrqHandler d r).ppsTimerErrorValueTable =
          d.ppsTimerErrorValueTable.set case error bound ∧
        (ppsTimerIrqHandler d r).lastUsedTimerErrorValueTableCase = case + 1
  | .relay _ => True
  | .ioctl _ _ _ => True

/-- The table and the drift indicator against the errors of the run. -/
structure ErrorsKept (d : Driver) (errors : List Word) : Prop where
  logs : Logs 0 errors d.errorLog
  drift : d.timerDriftCounter.toNat ≤ errors.length
  begun : d.driverCurrentState ≠ .initialization
  fixed : d.driverCurrentState = .gpsFixed ∨ d.driverCurrentState = .switchGpsToOff ∨
    d.driverCurrentState = .gpsOff → quartzDriftNumber ≤ errors.length

section history
variable {d : Driver} {errors : List Word}

theorem recordedError_initialization (r : PpsReads)
    (h : d.driverCurrentState = .initialization) : recordedError d r = none := by
  apply if_neg
  rintro ⟨wait | fixed, -⟩
  · exact absurd (wait.symm.trans h) (by decide)
  · exact absurd (fixed.symm.trans h) (by decide)

/-- The indicator grows by one with each recorded error, and never otherwise. -/
theorem ppsDriftCounter_le (h : Tracking d) (r : PpsReads)
    (drift : d.timerDriftCounter.toNat ≤ errors.length) :
    (ppsDriftCounter d).toNat ≤ (errors ++ (recordedError d r).toList).length := by
  rw [recordedError_eq, List.length_append]
  by_cases valid : ValidPps d
  · rw [if_pos ⟨h, valid⟩]
    unfold ppsDriftCounter driftCounterAfter
    rw [if_pos (quartzErrorValid_upload.mpr valid)]
    change (d.timerDriftCounter + 1).toNat ≤ errors.length + 1
    bv_omega
  · rw [if_neg fun both => valid both.2, ppsDriftCounter_invalid valid]
    exact (Nat.sub_le _ _).trans (drift.trans (Nat.le_add_right _ _))

theorem ppsNextState_begun : ppsNextState d ≠ .initialization := by
  unfold ppsNextState
  cases d.driverCurrentState with
  | initialization | switchGpsToOff | gpsOff => simp
  | waitForGpsFixed | gpsFixed =>
      dsimp only
      split_ifs <;> simp

theorem Logs.recordError (h : Logs 0 errors d.errorLog) (recorded : Option Word) :
    Logs 0 (errors ++ recorded.toList) (recordError d.errorLog recorded) := by
  cases recorded with
  | none => rwa [Option.toList_none, List.append_nil]
  | some error => exact h.record error (by decide)

theorem errorsKept_initialization (r : PpsReads) (h : d.driverCurrentState = .initialization) :
    ErrorsKept (ppsTimerIrqHandler d r) [] where
  logs := by
    rw [pps_errorLog_initialization d r h]
    exact logs_blank 0
  drift := by
    rw [pps_timerDriftCounter, h]
    exact Nat.le_refl 0
  begun := by
    rw [pps_driverCurrentState]
    exact ppsNextState_begun
  fixed := by
    rw [pps_driverCurrentState, ppsNextState, h]
    simp

theorem pps_errorsKept (h : ErrorsKept d errors) (r : PpsReads) :
    ErrorsKept (ppsTimerIrqHandler d r) (errors ++ (recordedError d r).toList) where
  logs := by
    rw [pps_errorLog d r h.begun]
    exact Logs.recordError h.logs _
  drift := by
    have longer : errors.length ≤ (errors ++ (recordedError d r).toList).length := by
      rw [List.length_append]
      exact Nat.le_add_right _ _
    rw [pps_timerDriftCounter]
    rcases tracking_or_later h.begun with tracking | hs | hs
    · have counted := ppsDriftCounter_le tracking r h.drift
      rcases tracking with hs | hs
      · rwa [hs]
      · rwa [hs]
    · rw [hs]
      exact h.drift.trans longer
    · rw [hs]
      exact h.drift.trans longer
  begun := by
    rw [pps_driverCurrentState]
    exact ppsNextState_begun
  fixed := by
    have believed : ppsNextState d = .gpsFixed ∨ ppsNextState d = .switchGpsToOff →
        quartzDriftNumber ≤ (errors ++ (recordedError d r).toList).length := by
      intro believes
      obtain ⟨tracking, high⟩ := ppsNextState_believes.mp believes
      exact high.trans (ppsDriftCounter_le tracking r h.drift)
    rw [pps_driverCurrentState]
    rintro (fixed | switch | off)
    · exact believed (.inl fixed)
    · exact believed (.inr switch)
    · have full := h.fixed (.inr (ppsNextState_off.mp off))
      rw [List.length_append]
      exact full.trans (Nat.le_add_right _ _)

/-- The invariant reads only what relay overflows and ioctls keep. -/
theorem ErrorsKept.transport {d' : Driver} (h : ErrorsKept d errors)
    (log : d'.errorLog = d.errorLog) (drift : d'.timerDriftCounter = d.timerDriftCounter)
    (state : d'.driverCurrentState = d.driverCurrentState) : ErrorsKept d' errors where
  logs := by rw [log]; exact h.logs
  drift := by rw [drift]; exact h.drift
  begun := by rw [state]; exact h.begun
  fixed := by rw [state]; exact h.fixed

theorem handle_errorsKept (h : ErrorsKept d errors) (e : Event) :
    ErrorsKept (handle d e) (watchErrors d e errors) := by
  cases e with
  | pps r => exact pps_errorsKept h r
  | relay r =>
      exact h.transport (relay_errorLog d r) (relay_timerDriftCounter d r)
        (relay_driverCurrentState d r)
  | ioctl cmd arg u =>
      have same := ioctl_sameRun d cmd arg u
      exact h.transport (ioctl_errorLog d cmd arg u) same.drift same.state

theorem run_errorsKept (h : ErrorsKept d errors) (es : List Event) :
    ErrorsKept (errorHistoryMachine.run (d, errors) es).1
      (errorHistoryMachine.run (d, errors) es).2 := by
  induction es generalizing d errors with
  | nil => exact h
  | cons e es ih => exact ih (handle_errorsKept h e)

theorem pps_writesBelow (d : Driver) (r : PpsReads) : WritesBelow d (.pps r) := by
  intro error recorded
  have begun : d.driverCurrentState ≠ .initialization := by
    intro hs
    rw [recordedError_initialization r hs] at recorded
    exact nomatch recorded
  have after := pps_errorLog d r begun
  rw [recorded] at after
  have below := d.errorLog.record_below error (by decide)
  rw [recordError] at after
  rwa [← after] at below

theorem handle_writesBelow (d : Driver) (e : Event) : WritesBelow d e := by
  cases e with
  | pps r => exact pps_writesBelow d r
  | relay | ioctl => trivial

end history

/-- What the table holds in terms of the errors recorded so far. -/
structure TableIsHistory (s : Driver × List Word) : Prop where
  latest : ∀ j, ∀ bound : j < quartzDriftNumber,
    LatestAt quartzDriftNumber 0 s.2 j s.1.ppsTimerErrorValueTable[j]
  full : s.1.driverCurrentState = .gpsFixed ∨ s.1.driverCurrentState = .switchGpsToOff ∨
      s.1.driverCurrentState = .gpsOff →
    quartzDriftNumber ≤ s.2.length ∧
      ∀ j, ∀ bound : j < quartzDriftNumber, ∃ k, s.2.length ≤ k + quartzDriftNumber ∧
        k % quartzDriftNumber = j ∧ s.2[k]? = some s.1.ppsTimerErrorValueTable[j]

theorem ErrorsKept.tableIsHistory {s : Driver × List Word} (h : ErrorsKept s.1 s.2) :
    TableIsHistory s where
  latest _ bound := h.logs.latestAt bound
  full believes :=
    ⟨h.fixed believes, fun _ bound => (h.logs.latestAt bound).recent bound (h.fixed believes)⟩

/-- From the PPS handled in `STATE_Initialization` on, the table holds the errors recorded
last, each in the slot of its number. -/
theorem error_table_is_history {d : Driver}
    (initialization : d.driverCurrentState = .initialization) (r : PpsReads) (es : List Event) :
    TableIsHistory (errorHistoryMachine.run (d, []) (.pps r :: es)) ∧
      errorHistoryMachine.EveryStep (fun s e => WritesBelow s.1 e) (d, []) (.pps r :: es) := by
  constructor
  · apply ErrorsKept.tableIsHistory
    have begun := errorsKept_initialization r initialization
    have first : watchErrors d (.pps r) [] = [] := by
      rw [watchErrors, recordedError_initialization r initialization]
      rfl
    change ErrorsKept
      (errorHistoryMachine.run (handle d (.pps r), watchErrors d (.pps r) []) es).1
      (errorHistoryMachine.run (handle d (.pps r), watchErrors d (.pps r) []) es).2
    rw [first]
    exact run_errorsKept begun es
  · apply everyStep_forall
    intro s e
    exact handle_writesBelow s.1 e

theorem error_table_is_history_launchRun :
    TableIsHistory (errorHistoryMachine.run (loaded26, []) launchRun) ∧
      errorHistoryMachine.EveryStep (fun s e => WritesBelow s.1 e) (loaded26, []) launchRun :=
  error_table_is_history (d := loaded26) rfl (edgeReads 0) launchRun.tail

end Gumstix.Synchronization
