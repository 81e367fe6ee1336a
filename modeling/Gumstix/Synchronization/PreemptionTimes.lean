import Gumstix.Library.RingLog
import Gumstix.Synchronization.StateMachine

/-!
# Preemption times

Both interrupt handlers write to one ring of preemption times, and a page in `/proc` lists it
from the last written slot downwards.
-/
namespace Gumstix.Synchronization
open EventMachine RingLog

/-- The ring of preemption times with the number of its slots used in the present round. -/
def Driver.preemptLog (d : Driver) : RingLog Word preemptionTimeValueNumber :=
  ⟨d.preemptTimeValueTable, d.lastUsedPreemptTimeValueTableCase⟩

/-- `"\tValue %3d : %4d micro-seconds\n"` -/
def preemptionTimeLine (number : Nat) (value : Word) : List Char :=
  "\tValue ".toList ++ (toString number).toList.leftpad 3 ' ' ++ " : ".toList ++
    (toString value.toInt).toList.leftpad 4 ' ' ++ " micro-seconds\n".toList

/-- One loop of the listing; `indices` are the values of its counter. -/
def preemptionTimeLoop (d : Driver) (indices : List Nat) : List Char :=
  indices.flatMap fun i => preemptionTimeLine (i + 1) (d.preemptTimeValueTable[i]?.getD 0)

def preemptionTimeHeader : List Char :=
  (s!"\nPreemption Time array : ({preemptionTimeValueNumber} values, " ++
    "last value on the top)\n\n").toList

def synchronizationPreemptionTimeOutput (d : Driver) : List Char :=
  preemptionTimeHeader ++
    preemptionTimeLoop d (downFrom 0 d.lastUsedPreemptTimeValueTableCase) ++
    preemptionTimeLoop d
      (downFrom d.lastUsedPreemptTimeValueTableCase preemptionTimeValueNumber) ++
    "\n\n".toList

/-- What the lines of the page show, from top to bottom: the number of a slot and its value. -/
def preemptionTimeListing (d : Driver) : List (Nat × Word) :=
  d.preemptLog.newestFirst.map fun i => (i + 1, d.preemptTimeValueTable[i]?.getD 0)

theorem preemptionTimeOutput_eq (d : Driver) : synchronizationPreemptionTimeOutput d =
    preemptionTimeHeader ++
      (preemptionTimeListing d).flatMap (fun line => preemptionTimeLine line.1 line.2) ++
      "\n\n".toList := by
  unfold synchronizationPreemptionTimeOutput preemptionTimeListing RingLog.newestFirst
  rw [List.flatMap_map, List.flatMap_append, ← List.append_assoc preemptionTimeHeader]
  rfl

/-- The microseconds from the event to the start of its handler. -/
def recordedTime (d : Driver) : Event → Option Word
  | .pps r => some ((r.preemptTimerValue - r.captureTimerValue) / (d.ppsTimerInputClock / 1000000))
  | .relay r =>
      some ((r.preemptTimerValue - d.timerReloadValue) / (d.relayTimerInputClock / 1000000))
  | .ioctl _ _ _ => none

section handlers
variable (d : Driver)

theorem savePreemptionTime_preemptLog (x : Word) :
    (savePreemptionTime d x).preemptLog = d.preemptLog.record x := rfl

theorem ppsStateBranch_preemptLog (r : PpsReads) :
    (ppsStateBranch d r).preemptLog = d.preemptLog := by
  refine ppsStateBranch_cases d r ?_ ?_ ?_ ?_ ?_ ?_ ?_
  · intro _; rfl
  · intro _; rw [ppsWaitForGpsFixed_eq]; rfl
  · intro _ _; rfl
  · intro _; rfl
  · intro _ _ _; rfl
  · intro _; rfl
  · intro _; rfl

theorem pps_preemptLog (r : PpsReads) :
    (ppsTimerIrqHandler d r).preemptLog = d.preemptLog.record
      ((r.preemptTimerValue - r.captureTimerValue) / (d.ppsTimerInputClock / 1000000)) := by
  have clock : (ppsStateBranch d r).ppsTimerInputClock = d.ppsTimerInputClock :=
    (pps_settings d r).ppsClock
  rw [← ppsStateBranch_preemptLog d r, ← clock]
  exact savePreemptionTime_preemptLog _ _

theorem relay_preemptLog (r : RelayReads) :
    (relayTimerIrqHandler d r).preemptLog = d.preemptLog.record
      ((r.preemptTimerValue - d.timerReloadValue) / (d.relayTimerInputClock / 1000000)) := by
  refine relay_cases d r ?_ ?_
  · intro _; exact savePreemptionTime_preemptLog _ _
  · intro _; exact savePreemptionTime_preemptLog _ _

theorem ioctl_preemptLog (cmd arg : Word) (u : UserAccess) :
    (synchronizationIoctl d cmd arg u).driver.preemptLog = d.preemptLog := by
  refine ioctl_cases d cmd arg u ?_ ?_ ?_ ?_ ?_ <;> intros <;> rfl

end handlers

/-- The times recorded so far, the oldest first. -/
def watchTimes (d : Driver) (e : Event) (times : List Word) : List Word :=
  times ++ (recordedTime d e).toList

def timeHistoryMachine : EventMachine (Driver × List Word) Event := driverMachine.observe watchTimes

/-- A run of an interrupt handler. -/
def isInterrupt : Event → Bool
  | .pps _ => true
  | .relay _ => true
  | .ioctl _ _ _ => false

/-- A time is written to a slot of the table, the one after the last used case or slot 0. -/
def TimeWritesBelow (d : Driver) (e : Event) : Prop :=
  ∀ time, recordedTime d e = some time → ∃ case, ∃ bound : case < preemptionTimeValueNumber,
    (handle d e).preemptTimeValueTable = d.preemptTimeValueTable.set case time bound ∧
      (handle d e).lastUsedPreemptTimeValueTableCase = case + 1

section history
variable {d : Driver} {times : List Word}

theorem handle_preemptLog (d : Driver) (e : Event) : (handle d e).preemptLog =
    match recordedTime d e with
    | some time => d.preemptLog.record time
    | none => d.preemptLog := by
  cases e with
  | pps r => exact pps_preemptLog d r
  | relay r => exact relay_preemptLog d r
  | ioctl cmd arg u => exact ioctl_preemptLog d cmd arg u

theorem handle_timeWritesBelow (d : Driver) (e : Event) : TimeWritesBelow d e := by
  intro time recorded
  have after : (handle d e).preemptLog = d.preemptLog.record time := by
    rw [handle_preemptLog, recorded]
  have below := d.preemptLog.record_below time (by decide)
  rwa [← after] at below

theorem handle_timesKept (h : Logs 0 times d.preemptLog) (e : Event) :
    Logs 0 (watchTimes d e times) (handle d e).preemptLog := by
  rw [handle_preemptLog, watchTimes]
  cases recordedTime d e with
  | none => rwa [Option.toList_none, List.append_nil]
  | some time => exact h.record time (by decide)

theorem run_timesKept (h : Logs 0 times d.preemptLog) (es : List Event) :
    Logs 0 (timeHistoryMachine.run (d, times) es).2
      (timeHistoryMachine.run (d, times) es).1.preemptLog := by
  induction es generalizing d times with
  | nil => exact h
  | cons e es ih => exact ih (handle_timesKept h e)

/-- One time for each run of a handler. -/
theorem length_times (d : Driver) (times : List Word) (es : List Event) :
    (timeHistoryMachine.run (d, times) es).2.length = times.length + es.countP isInterrupt := by
  induction es generalizing d times with
  | nil => rfl
  | cons e es ih =>
    have one : (recordedTime d e).toList.length = if isInterrupt e then 1 else 0 := by
      cases e <;> rfl
    have rest := ih (handle d e) (watchTimes d e times)
    rw [watchTimes, List.length_append, one] at rest
    rw [List.countP_cons, Nat.add_comm (es.countP isInterrupt), ← Nat.add_assoc]
    exact rest

end history

theorem initialize_timesKept (ppsClock relayClock : Word) :
    Logs 0 [] (synchronizationInitialize ppsClock relayClock).preemptLog := logs_blank 0

/-- What the page lists in terms of the times recorded so far. -/
structure ListsTimes (d : Driver) (times : List Word) : Prop where
  page : synchronizationPreemptionTimeOutput d = preemptionTimeHeader ++
    (preemptionTimeListing d).flatMap (fun line => preemptionTimeLine line.1 line.2) ++
    "\n\n".toList
  slots : ((preemptionTimeListing d).map Prod.fst).Perm
    ((List.range preemptionTimeValueNumber).map (· + 1))
  values : (preemptionTimeListing d).map Prod.snd =
    times.reverse.take preemptionTimeValueNumber ++
      List.replicate (preemptionTimeValueNumber - min times.length preemptionTimeValueNumber) 0

theorem listsTimes {d : Driver} {times : List Word} (h : Logs 0 times d.preemptLog) :
    ListsTimes d times where
  page := preemptionTimeOutput_eq d
  slots := by
    unfold preemptionTimeListing
    rw [List.map_map]
    exact (newestFirst_perm _ h.used_le).map (· + 1)
  values := by
    have listed := congrArg (List.map fun value => value.getD 0) h.newestFirst
    rw [List.map_map, List.map_map] at listed
    unfold preemptionTimeListing
    rw [List.map_map]
    exact listed.trans (List.map_id _)

/-- After any run of the two handlers since the load, every time was written inside the table,
and the page lists each slot once: the times recorded last, the newest first, and then the
slots not written yet. -/
theorem preemption_times_listed (ppsClock relayClock : Word) (es : List Event) :
    let s := timeHistoryMachine.run (synchronizationInitialize ppsClock relayClock, []) es
    s.2.length = es.countP isInterrupt ∧ ListsTimes s.1 s.2 ∧
      timeHistoryMachine.EveryStep (fun s e => TimeWritesBelow s.1 e)
        (synchronizationInitialize ppsClock relayClock, []) es := by
  refine ⟨?_, ?_, ?_⟩
  · rw [length_times, List.length_nil, Nat.zero_add]
  · exact listsTimes (run_timesKept (initialize_timesKept ppsClock relayClock) es)
  · apply everyStep_forall
    intro s e
    exact handle_timeWritesBelow s.1 e

end Gumstix.Synchronization
