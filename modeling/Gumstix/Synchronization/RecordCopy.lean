import Gumstix.Synchronization.StateMachine

/-!
# A record copied byte by byte

`SYNC_IOCTL_SET_TEMPORARY_GPS_DATA` copies into the live temporary record with interrupts
enabled. Here the copy is a sequence of byte steps that may stop after any of them, and
interrupts and other ioctls may come in between.
-/
namespace Gumstix.Synchronization
open ByteImage EventMachine

/-- A call in progress: its record and the number of bytes already copied. -/
structure RecordCopy where
  record : GpsData
  copied : Nat
  deriving DecidableEq, Repr

structure CopyState where
  driver : Driver
  call : Option RecordCopy
  deriving DecidableEq, Repr

inductive CopyEvent where
  | enter (record : GpsData)
  | byte
  | fail
  | complete
  | pps (r : PpsReads)
  | relay (r : RelayReads)
  | ioctl (cmd arg : Word) (u : UserAccess)
  deriving DecidableEq, Repr

/-- One call at a time. It fails while bytes are left and completes when none is. -/
def copyEnabled (s : CopyState) : CopyEvent → Prop
  | .enter _ => s.call = none
  | .byte | .fail => ∃ call ∈ s.call, call.copied < sizeofGpsData
  | .complete => ∃ call ∈ s.call, call.copied = sizeofGpsData
  | .pps _ => True
  | .relay _ => s.driver.relayTimer.started = true
  | .ioctl cmd _ _ => cmd ≠ syncIoctlSetTemporaryGpsData

instance (s : CopyState) : (e : CopyEvent) → Decidable (copyEnabled s e)
  | .enter _ => inferInstanceAs (Decidable (s.call = none))
  | .byte => inferInstanceAs (Decidable (∃ call ∈ s.call, call.copied < sizeofGpsData))
  | .fail => inferInstanceAs (Decidable (∃ call ∈ s.call, call.copied < sizeofGpsData))
  | .complete => inferInstanceAs (Decidable (∃ call ∈ s.call, call.copied = sizeofGpsData))
  | .pps _ => .isTrue trivial
  | .relay _ => inferInstanceAs (Decidable (_ = true))
  | .ioctl _ _ _ => inferInstanceAs (Decidable (_ ≠ _))

def writeTemporaryByte (d : Driver) (record : GpsData) (i : Nat) : Driver :=
  { d with gpsTemporaryData := GpsData.layout.copyByte record d.gpsTemporaryData i }

def copyNext (s : CopyState) : CopyEvent → CopyState
  | .enter record => { s with call := some ⟨record, 0⟩ }
  | .byte =>
      match s.call with
      | some ⟨record, copied⟩ =>
          ⟨writeTemporaryByte s.driver record copied, some ⟨record, copied + 1⟩⟩
      | none => s
  | .fail => { s with call := none }
  | .complete => { driver := { s.driver with dataSupplied := 1 }, call := none }
  | .pps r => { s with driver := ppsTimerIrqHandler s.driver r }
  | .relay r => { s with driver := relayTimerIrqHandler s.driver r }
  | .ioctl cmd arg u => { s with driver := (synchronizationIoctl s.driver cmd arg u).driver }

def copyMachine : EventMachine CopyState CopyEvent := ⟨copyEnabled, copyNext⟩

instance (s : CopyState) (e : CopyEvent) : Decidable (copyMachine.enabled s e) :=
  inferInstanceAs (Decidable (copyEnabled s e))

theorem copy_bytes_run (d : Driver) (record : GpsData) (n : Nat) :
    copyMachine.run ⟨d, some ⟨record, 0⟩⟩ (List.replicate n .byte) =
      ⟨copyTemporaryGpsData d record n, some ⟨record, n⟩⟩ := by
  induction n with
  | zero => rfl
  | succ n ih =>
      rw [List.replicate_succ', run_append, ih]
      rfl

/-- Byte steps with nothing between them do what the atomic call does. -/
theorem copy_uninterrupted (d : Driver) (u : UserAccess) :
    let n := min u.copiedFromUser sizeofGpsData
    copyMachine.run ⟨d, none⟩ (.enter u.record :: (List.replicate n .byte ++
        [if u.copiedFromUser < sizeofGpsData then .fail else .complete])) =
      ⟨(setTemporaryGpsData d u).driver, none⟩ := by
  intro n
  rw [run_cons, run_append]
  change copyMachine.run (copyMachine.run ⟨d, some ⟨u.record, 0⟩⟩ _) _ = _
  rw [copy_bytes_run, setTemporaryGpsData]
  by_cases early : u.copiedFromUser < sizeofGpsData
  · rw [if_pos early, if_pos early, show n = u.copiedFromUser from Nat.min_eq_left early.le]
    rfl
  · rw [if_neg early, if_neg early,
      show n = sizeofGpsData from Nat.min_eq_right (Nat.not_lt.mp early)]
    rfl

/-- The bytes of the record up to the end of its last field; padding follows. -/
def gpsDataFieldBytes : Nat := 36

theorem lt_gpsDataFieldBytes : ∀ j < GpsData.layout.size, GpsData.layout.live j →
    j < gpsDataFieldBytes := by
  intro j _ live
  simp only [GpsData.layout, Layout.along, Layout.live_seq, Layout.live_word,
    Layout.live_padding, Layout.size_word, Layout.size_padding, false_or, or_false,
    and_false] at live
  unfold gpsDataFieldBytes
  omega

/-- What an observer of the calls knows: the records of the calls so far; whether the
temporary record holds all fields of one of them; and whether the bytes the call in
progress has copied are still there. -/
structure CallHistory where
  records : List GpsData
  whole : Bool
  intact : Bool
  deriving DecidableEq, Repr

def watchCalls (s : CopyState) (e : CopyEvent) (o : CallHistory) : CallHistory :=
  match e with
  | .enter record => { o with records := record :: o.records, intact := true }
  | .byte =>
      match s.call with
      | some call => { o with whole := o.intact && decide (gpsDataFieldBytes ≤ call.copied + 1) }
      | none => o
  | .pps _ =>
      -- `STATE_Initialization` clears the temporary record, and with it what a call has copied.
      if s.driver.driverCurrentState = .initialization then
        { o with
          whole := false
          intact := o.intact && decide (∀ call ∈ s.call, call.copied = 0) }
      else o
  | .fail | .complete | .relay _ | .ioctl _ _ _ => o

def watchedCopy : EventMachine (CopyState × CallHistory) CopyEvent :=
  copyMachine.observe watchCalls

def copyStart (ppsClock relayClock : Word) : CopyState × CallHistory :=
  (⟨synchronizationInitialize ppsClock relayClock, none⟩, ⟨[], false, false⟩)

/-- After a PPS in `STATE_Wait_for_Gps_Fixed` or `STATE_Gps_Fixed` the official record is
what it was or the record of one call. -/
def NoTornRecord (s : CopyState × CallHistory) : CopyEvent → Prop
  | .pps r => Tracking s.1.driver →
      (ppsTimerIrqHandler s.1.driver r).gpsOfficialData = s.1.driver.gpsOfficialData ∨
        (ppsTimerIrqHandler s.1.driver r).gpsOfficialData ∈ s.2.records
  | _ => True

instance (s : CopyState × CallHistory) : (e : CopyEvent) → Decidable (NoTornRecord s e)
  | .pps _ => inferInstanceAs (Decidable (_ → _ ∨ _))
  | .enter _ | .byte | .fail | .complete | .relay _ | .ioctl _ _ _ => .isTrue trivial

/-- A PPS that finds the flag set finds all fields of one call's record, undisturbed since
its first byte, in the temporary record. -/
def WholeWhenSupplied (s : CopyState × CallHistory) : CopyEvent → Prop
  | .pps _ => Tracking s.1.driver → s.1.driver.dataSupplied = 1 → s.2.whole = true
  | _ => True

instance (s : CopyState × CallHistory) : (e : CopyEvent) → Decidable (WholeWhenSupplied s e)
  | .pps _ => inferInstanceAs (Decidable (_ → _ → _))
  | .enter _ | .byte | .fail | .complete | .relay _ | .ioctl _ _ _ => .isTrue trivial

/-- The invariant behind the flags of the observer. -/
structure CallsTracked (s : CopyState × CallHistory) : Prop where
  whole : s.2.whole = true → s.1.driver.gpsTemporaryData ∈ s.2.records
  call : ∀ call ∈ s.1.call, call.record ∈ s.2.records ∧ (s.2.intact = true →
    GpsData.layout.AgreeBelow call.copied s.1.driver.gpsTemporaryData call.record)

theorem CallsTracked.transport {s : CopyState} {o : CallHistory} {d : Driver}
    (h : CallsTracked (s, o)) (temporary : d.gpsTemporaryData = s.driver.gpsTemporaryData) :
    CallsTracked ({ s with driver := d }, o) where
  whole := by
    rw [temporary]
    exact h.whole
  call := by
    rw [temporary]
    exact h.call

theorem byte_tracked {s : CopyState} {o : CallHistory} {call : RecordCopy}
    (h : CallsTracked (s, o)) (inProgress : s.call = some call)
    (left : call.copied < sizeofGpsData) :
    CallsTracked (copyNext s .byte, watchCalls s .byte o) := by
  obtain ⟨known, agrees⟩ := h.call call inProgress
  obtain ⟨record, copied⟩ := call
  have extended : o.intact = true → GpsData.layout.AgreeBelow (copied + 1)
      (GpsData.layout.copyByte record s.driver.gpsTemporaryData copied) record :=
    fun intact => (agrees intact).copyByte left
  simp only [copyNext, watchCalls, inProgress]
  refine ⟨fun whole => ?_, ?_⟩
  · -- The last field is there: the temporary record is the record of the call.
    simp only [Bool.and_eq_true, decide_eq_true_eq] at whole
    obtain ⟨intact, fields⟩ := whole
    change GpsData.layout.copyByte record s.driver.gpsTemporaryData copied ∈ o.records
    rw [GpsData.layout.eq_of_agreeBelow
      (fun j hj live => (lt_gpsDataFieldBytes j hj live).trans_le fields) (extended intact)]
    exact known
  · rintro _ ⟨rfl⟩
    exact ⟨known, extended⟩

theorem pps_calls {s : CopyState} {o : CallHistory} (r : PpsReads) (h : CallsTracked (s, o)) :
    CallsTracked (copyNext s (.pps r), watchCalls s (.pps r) o) := by
  have temporary := pps_gpsTemporaryData s.driver r
  by_cases initial : s.driver.driverCurrentState = .initialization
  · simp only [watchCalls, if_pos initial]
    refine ⟨fun no => absurd no Bool.false_ne_true, fun call inProgress =>
      ⟨(h.call call inProgress).1, fun intact => ?_⟩⟩
    -- Nothing has been copied yet.
    simp only [Bool.and_eq_true, decide_eq_true_eq] at intact
    rw [intact.2 call inProgress]
    exact GpsData.layout.agreeBelow_zero _ _
  · rw [if_neg initial] at temporary
    simp only [watchCalls, if_neg initial]
    exact h.transport temporary

theorem copy_next_tracked (s : CopyState × CallHistory) (e : CopyEvent) (h : CallsTracked s)
    (enabled : copyEnabled s.1 e) : CallsTracked (watchedCopy.next s e) := by
  obtain ⟨s, o⟩ := s
  cases e with
  | enter record =>
      refine ⟨fun whole => List.mem_cons_of_mem _ (h.whole whole), ?_⟩
      rintro _ ⟨rfl⟩
      exact ⟨List.mem_cons_self, fun _ => GpsData.layout.agreeBelow_zero _ _⟩
  | byte =>
      obtain ⟨call, inProgress, left⟩ := enabled
      exact byte_tracked h inProgress left
  | fail | complete => exact ⟨h.whole, fun _ none' => nomatch none'⟩
  | pps r => exact pps_calls r h
  | relay r => exact h.transport (relay_gpsTemporaryData s.driver r)
  | ioctl cmd arg u => exact h.transport (ioctl_temporary s.driver cmd arg u enabled).1

theorem noTornRecord_of_whole (s : CopyState × CallHistory) (e : CopyEvent) (h : CallsTracked s)
    (condition : WholeWhenSupplied s e) : NoTornRecord s e := by
  cases e with
  | pps r =>
      intro tracking
      rw [pps_official_tracking r tracking]
      by_cases supplied : s.1.driver.dataSupplied = 1
      · rw [if_pos supplied]
        exact .inr (h.whole (condition tracking supplied))
      · rw [if_neg supplied]
        exact .inl rfl
  | _ => exact trivial

/-- In every run from the load whose PPS find a whole record whenever the flag is set, no
torn record becomes official. -/
theorem no_torn_record {ppsClock relayClock : Word} {es : List CopyEvent}
    (h : copyMachine.Admits ⟨synchronizationInitialize ppsClock relayClock, none⟩ es)
    (condition : watchedCopy.EveryStep WholeWhenSupplied (copyStart ppsClock relayClock) es) :
    watchedCopy.EveryStep NoTornRecord (copyStart ppsClock relayClock) es :=
  everyStep_of_everyStep (fun s e tracked enabled _ => copy_next_tracked s e tracked enabled)
    (fun s e tracked _ whole => noTornRecord_of_whole s e tracked whole)
    ⟨fun no => absurd no Bool.false_ne_true, fun _ none' => nomatch none'⟩
    ((observe_admits _ _ es).mpr h) condition

/-- The first PPS comes before the first byte of a copy, and another one in its middle, when no
record is supplied yet. -/
def firstCopyRun : List CopyEvent :=
  [.enter (fixRecord 0), .pps (edgeReads 0)] ++ List.replicate 4 .byte ++ [.pps (edgeReads 1)] ++
    List.replicate 36 .byte ++ [.complete, .pps (edgeReads 2)]

set_option maxRecDepth 4000 in
theorem no_torn_record_firstCopy :
    watchedCopy.EveryStep NoTornRecord (copyStart 26000000 26000000) firstCopyRun :=
  no_torn_record (by decide +kernel) (by decide +kernel)

/-- A whole record, then a second call that fails after the four bytes of the time. -/
def failedCopyRun : List CopyEvent :=
  [.pps (edgeReads 0), .enter (fixRecord 0)] ++ List.replicate 40 .byte ++
    [.complete, .enter { fixRecord 1 with quality := 0 }] ++ List.replicate 4 .byte ++
    [.fail, .pps (edgeReads 1)]

set_option maxRecDepth 4000 in
theorem no_torn_record_refuted :
    ¬ ∀ (ppsClock relayClock : Word) (es : List CopyEvent),
      copyMachine.Admits ⟨synchronizationInitialize ppsClock relayClock, none⟩ es →
        watchedCopy.EveryStep NoTornRecord (copyStart ppsClock relayClock) es := by
  intro every
  have admitted : copyMachine.Admits ⟨synchronizationInitialize 26000000 26000000, none⟩
      failedCopyRun := by decide +kernel
  have torn : ¬ watchedCopy.EveryStep NoTornRecord (copyStart 26000000 26000000)
      failedCopyRun := by decide +kernel
  exact torn (every _ _ _ admitted)

end Gumstix.Synchronization
