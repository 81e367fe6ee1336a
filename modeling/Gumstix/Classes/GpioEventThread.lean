import Gumstix.Classes.CGPIO

/-!
# The event thread of `CGPIO`

`OnGpioEvent` polls, reads the value of an event, asks the driver for its date by an ioctl
and calls the callbacks with both. The interrupt handler may run between any two of these
steps and between the statements of the read. The observer numbers its runs.
-/
namespace Gumstix.Classes
open Gumstix.Synchronization (Word GeoDatationData)
open Gumstix.Gpio
open EventMachine

/-- Before which step of `OnGpioEvent` the thread is, with what it has got by then. -/
inductive ThreadPhase where
  | polling
  | reading (phase : ReadPhase)
  | requesting (r : ReadResult)
  | calling (r : ReadResult) (gdData : Option GeoDatationData)
  | ended

structure ThreadState where
  driver : GpioDriver
  phase : ThreadPhase
  threadRunning : Bool

inductive ThreadEvent where
  | step (k : Replies) (signalPending : Bool)
  | interrupt (g : Minor) (gdData : GeoDatationData) (level : Word)
  /-- An unregistering call sets `m_bThreadRunning` to false. -/
  | stop

/-- The data the event object is built from; without them it is built from scratch. -/
def recoveredGdData (result : IoctlResult) : Option GeoDatationData :=
  if result.ret < 0 then none
  else
    match result.stored with
    | some (.geoDatation gdData) => some gdData
    | _ => none

def loopTest (threadRunning : Bool) : ThreadPhase := if threadRunning then .polling else .ended

section machine
variable (minor : Minor) (s : ThreadState)

/-- One step of the thread on the GPIO that `m_fd` is open on. No interrupt writes what the
checks at the beginning of the read test. -/
def threadStep (k : Replies) (signalPending : Bool) : ThreadState :=
  match s.phase with
  | .polling =>
      if gpioPoll (s.driver.attributes minor) ≠ 0 then
        match readChecks (s.driver.attributes minor) 2 with
        | .ok phase => { s with phase := .reading phase }
        | .error ret => { s with phase := .requesting ⟨ret, none⟩ }
      else { s with phase := loopTest s.threadRunning }
  | .reading phase =>
      match readStatement s.driver minor k signalPending phase with
      | (driver, .inl next) => { s with driver := driver, phase := .reading next }
      | (driver, .inr r) => { s with driver := driver, phase := .requesting r }
  | .requesting r =>
      let result := gpioIoctl s.driver minor gpioIoctlGetLastItGdData 0 k
      { s with driver := result.driver, phase := .calling r (recoveredGdData result) }
  | .calling _ _ => { s with phase := loopTest s.threadRunning }
  | .ended => s

def ThreadPhase.wakeUp : ThreadPhase → ThreadPhase
  | .reading phase => .reading (Gpio.wakeUp phase)
  | phase => phase

def threadNext : ThreadEvent → ThreadState
  | .step k signalPending => threadStep minor s k signalPending
  | .interrupt g gdData level =>
      { s with
        driver := gpioIrqHandler s.driver g gdData level
        phase := s.phase.wakeUp }
  | .stop => { s with threadRunning := false }

def ThreadPhase.runnable : ThreadPhase → Bool
  | .reading .idle | .reading .asleep | .ended => false
  | _ => true

def threadEnabled : ThreadEvent → Prop
  | .step _ _ => s.phase.runnable = true
  | .interrupt g _ _ => 0 < (s.driver.pins g).interrupts
  | .stop => True

def threadMachine : EventMachine ThreadState ThreadEvent := ⟨threadEnabled, threadNext minor⟩

instance : (e : ThreadEvent) → Decidable ((threadMachine minor).enabled s e)
  | .step _ _ => inferInstanceAs (Decidable (_ = _))
  | .interrupt _ _ _ => inferInstanceAs (Decidable (_ < _))
  | .stop => .isTrue trivial

/-- The copies to the user are complete and no signal comes. -/
def DriverCallsSucceed (_ : ThreadState) : ThreadEvent → Prop
  | .step k signalPending => k.notCopiedToUser = 0 ∧ signalPending = false
  | .interrupt _ _ _ => True
  | .stop => True

instance : (e : ThreadEvent) → Decidable (DriverCallsSucceed s e)
  | .step _ _ => inferInstanceAs (Decidable (_ ∧ _))
  | .interrupt _ _ _ => .isTrue trivial
  | .stop => .isTrue trivial

/-- What each run of the handler has recorded, the first run first, and how many runs there
had been when the value and when the date of an event were copied. -/
structure Runs where
  log : List (GeoDatationData × Word)
  valueRun : Nat
  dateRun : Nat

def watchThread (e : ThreadEvent) (m : Runs) : Runs :=
  match e with
  | .interrupt g gdData level =>
      if g = minor then { m with log := m.log ++ [(gdData, level)] } else m
  | .step _ _ =>
      match s.phase with
      | .reading .copying => { m with valueRun := m.log.length }
      | .requesting _ => { m with dateRun := m.log.length }
      | _ => m
  | .stop => m

end machine

def eventMachine (minor : Minor) : EventMachine (ThreadState × Runs) ThreadEvent :=
  ((threadMachine minor).assuming DriverCallsSucceed).observe (watchThread minor)

/-- The value handed on is what run number `n` has recorded. -/
def ValueOfRun (m : Runs) (r : ReadResult) (n : Nat) : Prop :=
  m.valueRun = n + 1 ∧ ∃ date level, m.log[n]? = some (date, level) ∧ r = readCopy level 0

def DateOfRun (m : Runs) (gdData : Option GeoDatationData) (n : Nat) : Prop :=
  m.dateRun = n + 1 ∧ ∃ date level, m.log[n]? = some (date, level) ∧ gdData = some date

/-- What the callbacks get has been recorded by one run of the handler. -/
def HandedTogether (s : ThreadState × Runs) : Prop :=
  ∀ r gdData, s.1.phase = .calling r gdData → ∃ n, ValueOfRun s.2 r n ∧ DateOfRun s.2 gdData n

def NoRunBetween (m : Runs) : ThreadPhase → Prop
  | .requesting _ => m.valueRun = m.log.length
  | _ => True

/-- When the date is copied, the handler has not run since the value was copied. -/
def CopiedTogether (s : ThreadState × Runs) : ThreadEvent → Prop
  | .step _ _ => NoRunBetween s.2 s.1.phase
  | .interrupt _ _ _ => True
  | .stop => True

instance (m : Runs) : (phase : ThreadPhase) → Decidable (NoRunBetween m phase)
  | .requesting _ => inferInstanceAs (Decidable (_ = _))
  | .polling | .reading _ | .calling _ _ | .ended => .isTrue trivial

instance (s : ThreadState × Runs) : (e : ThreadEvent) → Decidable (CopiedTogether s e)
  | .step _ _ => inferInstanceAs (Decidable (NoRunBetween _ _))
  | .interrupt _ _ _ => .isTrue trivial
  | .stop => .isTrue trivial

/-- The entry of the GPIO holds what the last run has recorded. -/
structure HoldsLast (a : GpioAttributes) (m : Runs) : Prop where
  mode : a.mode = itMode
  binary : a.done = 0 ∨ a.done = 1
  done : a.done = 1 → m.log ≠ []
  last : ∀ n, n + 1 = m.log.length → m.log[n]? = some (a.lastItGDData, a.value)

/-- What the thread relies on by where it is. -/
def AtPlace (a : GpioAttributes) (m : Runs) : ThreadPhase → Prop
  | .reading .testing => a.done = 1
  | .reading .clearing => m.log ≠ []
  | .reading .copying => m.log ≠ []
  | .reading _ => False
  | .requesting r => ∃ n, ValueOfRun m r n
  | .calling r gdData => ∃ n, ValueOfRun m r n ∧ DateOfRun m gdData n
  | .polling => True
  | .ended => True

structure Handing (minor : Minor) (s : ThreadState × Runs) : Prop where
  entry : HoldsLast (s.1.driver.attributes minor) s.2
  place : AtPlace (s.1.driver.attributes minor) s.2 s.1.phase

theorem Handing.together {minor : Minor} {s : ThreadState × Runs} (h : Handing minor s) :
    HandedTogether s := by
  intro r gdData calling
  have place := h.place
  rw [calling] at place
  exact place

section entry
variable {a : GpioAttributes} {m : Runs}

theorem HoldsLast.doneMask (h : HoldsLast a m) : gpioPoll a ≠ 0 ↔ a.done = 1 := by
  rw [gpioPoll, if_pos h.mode, Gpio.doneMask]
  rcases h.binary with clear | set
  · simp [clear]
  · simp [set, Synchronization.pollin, Synchronization.pollrdnorm]

theorem HoldsLast.sameLog {m' : Runs} (h : HoldsLast a m) (same : m'.log = m.log) :
    HoldsLast a m' := by
  obtain ⟨mode, binary, done, last⟩ := h
  rw [← same] at done last
  exact ⟨mode, binary, done, last⟩

theorem HoldsLast.clear (h : HoldsLast a m) : HoldsLast { a with done := 0 } m where
  mode := h.mode
  binary := .inl rfl
  done set := by
    change (0 : Word) = 1 at set
    exact absurd set (by decide)
  last := h.last

/-- The handler of the GPIO runs once more. -/
def Runs.record (m : Runs) (gdData : GeoDatationData) (level : Word) : Runs :=
  { m with log := m.log ++ [(gdData, level)] }

theorem HoldsLast.record (h : HoldsLast a m) (gdData : GeoDatationData) (level : Word) :
    HoldsLast { a with lastItGDData := gdData, value := level, done := 1 }
      (m.record gdData level) where
  mode := h.mode
  binary := .inr rfl
  done _ := List.append_ne_nil_of_right_ne_nil _ (List.cons_ne_nil _ _)
  last n isLast := by
    rw [Runs.record, List.length_append, List.length_singleton, Nat.add_right_cancel_iff] at isLast
    rw [isLast]
    exact List.getElem?_concat_length

theorem getElem?_record {n : Nat} {run : GeoDatationData × Word} (recorded : m.log[n]? = some run)
    (gdData : GeoDatationData) (level : Word) : (m.record gdData level).log[n]? = some run := by
  have old : n < m.log.length := (List.getElem?_eq_some_iff.mp recorded).1
  rw [Runs.record, List.getElem?_append_left old]
  exact recorded

theorem ValueOfRun.record {r : ReadResult} {n : Nat} (h : ValueOfRun m r n)
    (gdData : GeoDatationData) (level : Word) : ValueOfRun (m.record gdData level) r n := by
  obtain ⟨run, date, value, recorded, handed⟩ := h
  exact ⟨run, date, value, getElem?_record recorded gdData level, handed⟩

theorem DateOfRun.record {date : Option GeoDatationData} {n : Nat} (h : DateOfRun m date n)
    (gdData : GeoDatationData) (level : Word) : DateOfRun (m.record gdData level) date n := by
  obtain ⟨run, date, value, recorded, handed⟩ := h
  exact ⟨run, date, value, getElem?_record recorded gdData level, handed⟩

theorem AtPlace.record {phase : ThreadPhase} (place : AtPlace a m phase)
    (gdData : GeoDatationData) (level : Word) :
    AtPlace { a with lastItGDData := gdData, value := level, done := 1 } (m.record gdData level)
      phase.wakeUp := by
  have some : (m.record gdData level).log ≠ [] :=
    List.append_ne_nil_of_right_ne_nil _ (List.cons_ne_nil _ _)
  cases phase with
  | polling | ended => trivial
  | requesting r =>
      obtain ⟨n, value⟩ := place
      exact ⟨n, value.record gdData level⟩
  | calling r handed =>
      obtain ⟨n, value, date⟩ := place
      exact ⟨n, value.record gdData level, date.record gdData level⟩
  | reading phase =>
      cases phase with
      | testing => rfl
      | clearing | copying => exact some
      | idle | sampling | parking | asleep | woken => exact place.elim

/-- The thread never sleeps in the read: nothing wakes it. -/
theorem AtPlace.wakeUp {phase : ThreadPhase} (place : AtPlace a m phase) :
    phase.wakeUp = phase := by
  cases phase with
  | polling | requesting | calling | ended => rfl
  | reading phase =>
      cases phase with
      | asleep => exact place.elim
      | idle | sampling | testing | parking | woken | clearing | copying => rfl

end entry

section steps
variable {minor : Minor} {s : ThreadState} {m : Runs}

theorem interrupt_handing (h : Handing minor (s, m)) (g : Minor) (gdData : GeoDatationData)
    (level : Word) :
    Handing minor ((eventMachine minor).next (s, m) (.interrupt g gdData level)) := by
  change Handing minor (threadNext minor s (.interrupt g gdData level),
    watchThread minor s (.interrupt g gdData level) m)
  rw [watchThread]
  by_cases same : g = minor
  · subst same
    rw [if_pos rfl]
    have now : (gpioIrqHandler s.driver g gdData level).attributes g =
        { s.driver.attributes g with lastItGDData := gdData, value := level, done := 1 } :=
      Function.update_self g _ _
    constructor
    · change HoldsLast ((gpioIrqHandler s.driver g gdData level).attributes g) _
      rw [now]
      exact h.entry.record gdData level
    · change AtPlace ((gpioIrqHandler s.driver g gdData level).attributes g) _ s.phase.wakeUp
      rw [now]
      exact h.place.record gdData level
  · rw [if_neg same]
    have now : (gpioIrqHandler s.driver g gdData level).attributes minor =
        s.driver.attributes minor := Function.update_of_ne (Ne.symm same) _ _
    constructor
    · change HoldsLast ((gpioIrqHandler s.driver g gdData level).attributes minor) m
      rw [now]
      exact h.entry
    · change AtPlace ((gpioIrqHandler s.driver g gdData level).attributes minor) m s.phase.wakeUp
      rw [now, h.place.wakeUp]
      exact h.place

theorem ioctl_getLastItGdData (d : GpioDriver) (minor : Minor) (arg : Word) (k : Replies) :
    gpioIoctl d minor gpioIoctlGetLastItGdData arg k = getLastItGdData d minor k := by
  unfold gpioIoctl
  iterate 6 rw [if_neg (by decide)]
  rw [if_pos rfl]

theorem loopTest_atPlace (a : GpioAttributes) (m : Runs) (threadRunning : Bool) :
    AtPlace a m (loopTest threadRunning) := by
  cases threadRunning <;> trivial

theorem step_handing (h : Handing minor (s, m)) {k : Replies} {signalPending : Bool}
    (running : s.phase.runnable = true) (copied : k.notCopiedToUser = 0)
    (fresh : NoRunBetween m s.phase) :
    Handing minor ((eventMachine minor).next (s, m) (.step k signalPending)) := by
  change Handing minor (threadStep minor s k signalPending,
    watchThread minor s (.step k signalPending) m)
  have entry : HoldsLast (s.driver.attributes minor) m := h.entry
  have place : AtPlace (s.driver.attributes minor) m s.phase := h.place
  unfold threadStep watchThread
  cases here : s.phase with
  | ended =>
      rw [here] at running
      cases running
  | calling r gdData => exact ⟨entry, loopTest_atPlace _ m s.threadRunning⟩
  | polling =>
      dsimp only
      by_cases ready : gpioPoll (s.driver.attributes minor) ≠ 0
      · have checks : readChecks (s.driver.attributes minor) 2 = .ok .testing := by
          rw [readChecks, if_neg (by decide), entry.mode]
          rfl
        rw [if_pos ready, checks]
        exact ⟨entry, entry.doneMask.mp ready⟩
      · rw [if_neg ready]
        exact ⟨entry, loopTest_atPlace _ m s.threadRunning⟩
  | requesting r =>
      rw [here] at place fresh
      obtain ⟨n, counted, value⟩ := place
      have isLast : n + 1 = m.log.length := counted.symm.trans fresh
      simp only [ioctl_getLastItGdData, getLastItGdData, copied, ne_eq, not_true_eq_false, if_false]
      exact ⟨entry.sameLog rfl, n, ⟨counted, value⟩, isLast.symm, _, _, entry.last n isLast, rfl⟩
  | reading phase =>
      rw [here] at place
      cases phase with
      | idle | sampling | parking | asleep | woken => exact place.elim
      | testing =>
          have set : (s.driver.attributes minor).done = 1 := place
          simp only [readStatement, if_pos set]
          exact ⟨entry, entry.done set⟩
      | clearing =>
          have now : (s.driver.attribute minor fun a => { a with done := 0 }).attributes minor =
              { s.driver.attributes minor with done := 0 } := Function.update_self minor _ _
          simp only [readStatement]
          constructor
          · change HoldsLast ((s.driver.attribute minor fun a =>
              { a with done := 0 }).attributes minor) m
            rw [now]
            exact entry.clear
          · exact place
      | copying =>
          have some : m.log ≠ [] := place
          obtain ⟨n, isLast⟩ := Nat.exists_eq_add_one.mpr (List.length_pos_iff.mpr some)
          simp only [readStatement, copied]
          exact ⟨entry.sameLog rfl, n, isLast, _, _, entry.last n isLast.symm, rfl⟩

theorem next_handing (s : ThreadState × Runs) (e : ThreadEvent) (h : Handing minor s)
    (enabled : (eventMachine minor).enabled s e) (together : CopiedTogether s e) :
    Handing minor ((eventMachine minor).next s e) := by
  cases e with
  | interrupt g gdData level => exact interrupt_handing h g gdData level
  | stop => exact ⟨h.entry, h.place⟩
  | step k signalPending => exact step_handing h enabled.1 enabled.2.1 together

/-- A date copied after another run of the handler is handed on with the older value. -/
theorem copiedTogether_of_handed (s : ThreadState × Runs) (e : ThreadEvent)
    (handed : HandedTogether ((eventMachine minor).next s e)) : CopiedTogether s e := by
  cases e with
  | interrupt | stop => trivial
  | step k signalPending =>
      change NoRunBetween s.2 s.1.phase
      cases here : s.1.phase with
      | polling | reading | calling | ended => trivial
      | requesting r =>
          change HandedTogether (threadStep minor s.1 k signalPending,
            watchThread minor s.1 (.step k signalPending) s.2) at handed
          unfold threadStep watchThread at handed
          simp only [here] at handed
          obtain ⟨n, value, date⟩ := handed r _ rfl
          exact value.1.trans date.1.symm

end steps

/-- The thread that is launched on an opened object, before its first poll. -/
def launchedThread (driver : GpioDriver) : ThreadState × Runs :=
  (⟨driver, .polling, true⟩, ⟨[], 0, 0⟩)

theorem openInterrupt_granted {o : CGpio} {d : GpioDriver} {k : OpenReplies} {minor : Minor}
    (fd : o.fd = some minor) (opened : (openInterrupt o d k).1 = 0) :
    ((openInterrupt o d k).2.attributes minor).mode = itMode ∧
      ((openInterrupt o d k).2.attributes minor).done = 0 := by
  have request (d : GpioDriver) (arg : Word) (k : Replies) :
      gpioIoctl d minor gpioIoctlSetInterrupt arg k = setInterrupt d minor arg k := by
    unfold gpioIoctl
    iterate 3 rw [if_neg (by decide)]
    rw [if_pos rfl]
  unfold openInterrupt at opened ⊢
  simp only [CGpio.ioctl, fd, request] at opened ⊢
  split_ifs at opened ⊢ with event delay delayed refused
  · cases opened
  · cases opened
  · cases opened
  · cases opened
  · exact setInterrupt_granted (not_lt.mp refused)

/-- An `Open` of an object in Interrupt mode that returns 0 has cleared `bDone`. -/
theorem cgpioOpen_interrupt {memory : Vector Word maxGpioNb} {devicePath following : List Byte}
    {activeEvent : Word} {k : OpenReplies} {d d' : GpioDriver} {o : CGpio} {minor : Minor}
    (opened : cgpioOpen (cgpioInterrupt memory devicePath activeEvent) d following k = (0, o, d'))
    (fd : o.fd = some minor) :
    (d'.attributes minor).mode = itMode ∧ (d'.attributes minor).done = 0 := by
  obtain ⟨found, rfl, -, configured⟩ := cgpioOpen_zero opened
  have notIo : (cgpioInterrupt memory devicePath activeEvent).mode ≠ ioMode := by
    change itMode ≠ ioMode
    decide
  rw [if_neg notIo] at configured
  obtain rfl : found = minor := Option.some.inj fd
  have granted := openInterrupt_granted rfl (congrArg Prod.fst configured)
  rw [configured] at granted
  exact granted

/-- With all driver calls succeeding, value and date handed to the callbacks come from one
run of the handler exactly if no run comes between the copies of the two. -/
theorem handed_together_iff {memory : Vector Word maxGpioNb} {devicePath following : List Byte}
    {activeEvent : Word} {k : OpenReplies} {d d' : GpioDriver} {o : CGpio} {minor : Minor}
    (opened : cgpioOpen (cgpioInterrupt memory devicePath activeEvent) d following k = (0, o, d'))
    (fd : o.fd = some minor) {es : List ThreadEvent}
    (admitted : ((threadMachine minor).assuming DriverCallsSucceed).Admits
      (launchedThread d').1 es) :
    (eventMachine minor).Always HandedTogether (launchedThread d') es ↔
      (eventMachine minor).EveryStep CopiedTogether (launchedThread d') es := by
  obtain ⟨mode, done⟩ := cgpioOpen_interrupt opened fd
  have start : Handing minor (launchedThread d') := by
    refine ⟨⟨mode, .inl done, fun set => ?_, nofun⟩, trivial⟩
    exact absurd (done.symm.trans set) (by decide)
  exact always_iff_everyStep (fun s h => h.together)
    (fun s e h enabled together => next_handing s e h enabled together)
    (fun s e _ _ handed => copiedTogether_of_handed s e handed) start
    ((observe_admits _ _ es).mpr admitted)

/-- An object in Interrupt mode on GPIO 64 of a freshly loaded driver. -/
def openedForEvents : Int × CGpio × GpioDriver :=
  cgpioOpen (cgpioInterrupt (Vector.replicate _ 0) (asciiBytes "/dev/gpio064") irqfTriggerRising)
    (gpioInitialize fun _ => 0) [0] ⟨.granted 0, .granted 0, .granted 0⟩

def gdDataAt (seconds : Word) : GeoDatationData :=
  ⟨{ Synchronization.GpsData.zero with timeInSeconds := seconds }, 0, 0, 0⟩

def threadStepOk : ThreadEvent := .step (.granted 0) false

/-- An event that is polled and read, its date copied, and the callbacks called. -/
def oneEvent : List ThreadEvent :=
  [.interrupt 64 (gdDataAt 1) 1, threadStepOk, threadStepOk, threadStepOk, threadStepOk,
    threadStepOk, threadStepOk]

set_option maxRecDepth 8000 in
theorem handed_together_iff_oneEvent :
    (eventMachine 64).Always HandedTogether (launchedThread openedForEvents.2.2) oneEvent := by
  have ret : openedForEvents.1 = 0 := by decide +kernel
  have fd : openedForEvents.2.1.fd = some 64 := by decide +kernel
  have admitted : ((threadMachine 64).assuming DriverCallsSucceed).Admits
      (launchedThread openedForEvents.2.2).1 oneEvent := by decide +kernel
  exact (handed_together_iff (Prod.ext ret rfl) fd admitted).mpr (by decide +kernel)

/-- A second interrupt comes between the read of the value and the ioctl. -/
def overtakenEvent : List ThreadEvent :=
  [.interrupt 64 (gdDataAt 1) 1, threadStepOk, threadStepOk, threadStepOk, threadStepOk,
    .interrupt 64 (gdDataAt 2) 0, threadStepOk]

set_option maxRecDepth 8000 in
theorem handed_together_refuted :
    ¬ ∀ (memory : Vector Word maxGpioNb) (devicePath following : List Byte) (activeEvent : Word)
      (k : OpenReplies) (d d' : GpioDriver) (o : CGpio) (minor : Minor),
      cgpioOpen (cgpioInterrupt memory devicePath activeEvent) d following k = (0, o, d') →
        o.fd = some minor → ∀ es : List ThreadEvent,
          ((threadMachine minor).assuming DriverCallsSucceed).Admits (launchedThread d').1 es →
            (eventMachine minor).Always HandedTogether (launchedThread d') es := by
  intro every
  have ret : openedForEvents.1 = 0 := by decide +kernel
  have opened : openedForEvents = (0, openedForEvents.2.1, openedForEvents.2.2) :=
    Prod.ext ret rfl
  have fd : openedForEvents.2.1.fd = some 64 := by decide +kernel
  have admitted : ((threadMachine 64).assuming DriverCallsSucceed).Admits
      (launchedThread openedForEvents.2.2).1 overtakenEvent := by decide +kernel
  have together := (every _ _ _ _ _ _ _ _ _ opened fd overtakenEvent admitted).last
  have different : ((eventMachine 64).run (launchedThread openedForEvents.2.2)
      overtakenEvent).2.valueRun ≠ ((eventMachine 64).run (launchedThread openedForEvents.2.2)
        overtakenEvent).2.dateRun := by decide +kernel
  obtain ⟨n, value, date⟩ := together _ _ rfl
  exact different (value.1.trans date.1.symm)

end Gumstix.Classes
