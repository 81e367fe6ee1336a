import Gumstix.Gpio.OperationSpecs

/-!
# Concurrent readers

`Gpio_read` keeps `minor` in a static variable that all processes share, and all of them
sleep in one wait queue. A step of the machine is what a read does between two points
where an interrupt may matter; a process keeps the processor until it sleeps or returns.
-/
namespace Gumstix.Gpio
open Gumstix.Synchronization (Word GeoDatationData)
open EventMachine

def errReadSpecifiedSize : Int := 1322
def errReadWrongGpioDirection : Int := 1323
def errReadWrongGpioMode : Int := 1324
def errReadWrongReadedBytes : Int := 1325
def eintr : Int := 4

/-- Where a process is in `Gpio_read`. -/
inductive ReadPhase where
  | idle
  /-- `IO_MODE`, before `gpio_get_value`. -/
  | sampling
  /-- `IT_MODE`, before the test of `bDone`. -/
  | testing
  /-- Before `interruptible_sleep_on`. -/
  | parking
  /-- In the wait queue. -/
  | asleep
  /-- Taken out of the wait queue, not running yet. -/
  | woken
  /-- Before `bDone` is set to 0. -/
  | clearing
  /-- Before `bValue` is copied to the user. -/
  | copying
  deriving DecidableEq, Repr

/-- The phases in which a process has the processor. -/
def ReadPhase.running : ReadPhase → Bool
  | .idle | .asleep | .woken => false
  | .sampling | .testing | .parking | .clearing | .copying => true

/-- The phases whose next step uses `minor` for the GPIO of the process. -/
def ReadPhase.usesMinor : ReadPhase → Bool
  | .sampling | .clearing | .copying => true
  | .idle | .testing | .parking | .asleep | .woken => false

theorem ReadPhase.running_of_usesMinor {phase : ReadPhase} (uses : phase.usesMinor = true) :
    phase.running = true := by
  cases phase <;> first | rfl | exact uses

/-- What `Gpio_read` returns and the bytes it has copied. -/
structure ReadResult where
  ret : Int
  copied : Option (BitVec 8 × BitVec 8)
  deriving DecidableEq, Repr

/-- `minor` and `running` are shared; `result` is what the last read of each process
returned. -/
structure ReadState (ι : Type*) where
  driver : GpioDriver
  minor : Minor
  running : Option ι
  phase : ι → ReadPhase
  result : ι → Option ReadResult

inductive ReadEvent (ι : Type*) where
  | enter (p : ι) (size : Nat)
  | sample (p : ι) (level : Word)
  | test (p : ι)
  | park (p : ι)
  | resume (p : ι) (signalPending : Bool)
  | clear (p : ι)
  | copy (p : ι) (notCopiedToUser : Nat)
  | interrupt (g : Minor) (gdData : GeoDatationData) (level : Word)
  | signal (p : ι)

/-- The process whose read takes the step. -/
def ReadEvent.reader {ι : Type*} : ReadEvent ι → Option ι
  | .enter p _ | .sample p _ | .test p | .park p | .resume p _ | .clear p | .copy p _ => some p
  | .interrupt _ _ _ | .signal _ => none

/-- The checks of `Gpio_read`, up to its first step; no interrupt writes what they read. -/
def readChecks (a : GpioAttributes) (size : Nat) : Except Int ReadPhase :=
  if size < 2 then .error (-errReadSpecifiedSize)
  else if a.mode = ioMode ∧ a.direction ≠ inputDirection then .error (-errReadWrongGpioDirection)
  else if a.mode = ioMode then .ok .sampling
  else if a.mode = itMode then .ok .testing
  else .error (-errReadWrongGpioMode)

/-- The string `"1"` or `"0"` with its final zero. -/
def readBytes (value : Word) : BitVec 8 × BitVec 8 := (if value ≠ 0 then 0x31 else 0x30, 0)

def readCopy (value : Word) (notCopiedToUser : Nat) : ReadResult :=
  if notCopiedToUser ≠ 0 then ⟨-errReadWrongReadedBytes, none⟩ else ⟨2, some (readBytes value)⟩

section machine
variable {ι : Type*} [DecidableEq ι]

/-- A process goes on to a phase; it gives up the processor if it sleeps or returns there. -/
def ReadState.goto (s : ReadState ι) (p : ι) (phase : ReadPhase) : ReadState ι :=
  { s with
    phase := Function.update s.phase p phase
    running := if phase.running then some p else none }

def ReadState.leave (s : ReadState ι) (p : ι) (r : ReadResult) : ReadState ι :=
  { s.goto p .idle with result := Function.update s.result p (some r) }

def ReadState.attribute (s : ReadState ι) (f : GpioAttributes → GpioAttributes) : ReadState ι :=
  { s with driver := s.driver.attribute s.minor f }

/-- The entry `m_pGpioAttributesTab[minor]`. -/
def ReadState.entry (s : ReadState ι) : GpioAttributes := s.driver.attributes s.minor

def wakeUp : ReadPhase → ReadPhase
  | .asleep => .woken
  | phase => phase

variable (own : ι → Minor)

def readNext (s : ReadState ι) : ReadEvent ι → ReadState ι
  | .enter p size =>
      let s := { s with minor := own p }
      match readChecks s.entry size with
      | .ok phase => s.goto p phase
      | .error ret => s.leave p ⟨ret, none⟩
  | .sample p level => (s.attribute fun a => { a with value := level }).goto p .copying
  | .test p => s.goto p (if s.entry.done = 1 then .clearing else .parking)
  | .park p => s.goto p .asleep
  -- `minor` is not set again after the sleep.
  | .resume p signalPending =>
      if signalPending then s.leave p ⟨-eintr, none⟩ else s.goto p .testing
  | .clear p => (s.attribute fun a => { a with done := 0 }).goto p .copying
  | .copy p notCopiedToUser => s.leave p (readCopy s.entry.value notCopiedToUser)
  | .interrupt g gdData level =>
      { s with
        driver := gpioIrqHandler s.driver g gdData level
        phase := fun p => wakeUp (s.phase p) }
  | .signal p => { s with phase := Function.update s.phase p .woken }

/-- A process starts or resumes when no other one is running. -/
def readEnabled (s : ReadState ι) : ReadEvent ι → Prop
  | .enter p _ => s.running = none ∧ s.phase p = .idle
  | .sample p _ => s.running = some p ∧ s.phase p = .sampling
  | .test p => s.running = some p ∧ s.phase p = .testing
  | .park p => s.running = some p ∧ s.phase p = .parking
  | .resume p _ => s.running = none ∧ s.phase p = .woken
  | .clear p => s.running = some p ∧ s.phase p = .clearing
  | .copy p _ => s.running = some p ∧ s.phase p = .copying
  | .interrupt _ _ _ => True
  | .signal p => s.phase p = .asleep

def readMachine : EventMachine (ReadState ι) (ReadEvent ι) := ⟨readEnabled, readNext own⟩

instance (s : ReadState ι) : (e : ReadEvent ι) → Decidable ((readMachine own).enabled s e)
  | .enter _ _ => inferInstanceAs (Decidable (_ ∧ _))
  | .sample _ _ => inferInstanceAs (Decidable (_ ∧ _))
  | .test _ => inferInstanceAs (Decidable (_ ∧ _))
  | .park _ => inferInstanceAs (Decidable (_ ∧ _))
  | .resume _ _ => inferInstanceAs (Decidable (_ ∧ _))
  | .clear _ => inferInstanceAs (Decidable (_ ∧ _))
  | .copy _ _ => inferInstanceAs (Decidable (_ ∧ _))
  | .interrupt _ _ _ => .isTrue trivial
  | .signal _ => inferInstanceAs (Decidable (_ = _))

/-- No process is in `Gpio_read`. -/
def noReader (ι : Type*) (driver : GpioDriver) (minor : Minor) : ReadState ι :=
  ⟨driver, minor, none, fun _ => .idle, fun _ => none⟩

/-- A step of a read of the GPIO `own p`: it goes beyond the test only if `bDone` of that GPIO
was set, sets `bDone` of that GPIO to 0 and of no other, and returns `bValue` of that GPIO. -/
structure NoInterference (s : ReadState ι) (e : ReadEvent ι) : Prop where
  completes : ∀ p, e = .test p → (readNext own s e).phase p = .clearing →
    (s.driver.attributes (own p)).done = 1
  clears : ∀ p, e = .clear p → ((readNext own s e).driver.attributes (own p)).done = 0
  clearsOnly : ∀ p, e.reader = some p → ∀ g, g ≠ own p →
    ((readNext own s e).driver.attributes g).done = (s.driver.attributes g).done
  returns : ∀ p n, e = .copy p n → (readNext own s e).result p =
    some (readCopy (s.driver.attributes (own p)).value n)

/-- No process that has slept tests the `bDone` of another process's GPIO and finds it set. -/
def MinorIntact (s : ReadState ι) : ReadEvent ι → Prop
  | .test p => s.minor = own p ∨ s.entry.done ≠ 1
  | _ => True

instance (s : ReadState ι) : (e : ReadEvent ι) → Decidable (MinorIntact own s e)
  | .test _ => inferInstanceAs (Decidable (_ ∨ _))
  | .enter _ _ | .sample _ _ | .park _ | .resume _ _ | .clear _ | .copy _ _ | .interrupt _ _ _
  | .signal _ => .isTrue trivial

/-- At most one process is running, and where it is going to use `minor`, this is its GPIO. -/
structure MinorOwned (s : ReadState ι) : Prop where
  processor : ∀ p, (s.phase p).running = true → s.running = some p
  own : ∀ p, (s.phase p).usesMinor = true → s.minor = own p

section steps
variable {own} {s : ReadState ι} {p : ι}

@[simp] theorem goto_phase_self (phase : ReadPhase) : (s.goto p phase).phase p = phase :=
  Function.update_self _ _ _

theorem goto_phase_of_ne {q : ι} (other : q ≠ p) (phase : ReadPhase) :
    (s.goto p phase).phase q = s.phase q := Function.update_of_ne other _ _

theorem wakeUp_of_running {phase : ReadPhase} (runs : (wakeUp phase).running = true) :
    wakeUp phase = phase := by
  cases phase <;> first | rfl | exact absurd runs Bool.false_ne_true

theorem goto_owned {phase : ReadPhase} (free : ∀ q, q ≠ p → (s.phase q).running = false)
    (mine : phase.usesMinor = true → s.minor = own p) : MinorOwned own (s.goto p phase) := by
  constructor
  · intro q runs
    by_cases same : q = p
    · subst same
      rw [goto_phase_self] at runs
      exact if_pos runs
    · rw [goto_phase_of_ne same, free q same] at runs
      exact absurd runs Bool.false_ne_true
  · intro q uses
    by_cases same : q = p
    · subst same
      rw [goto_phase_self] at uses
      exact mine uses
    · rw [goto_phase_of_ne same] at uses
      exact absurd (ReadPhase.running_of_usesMinor uses) (by rw [free q same]; decide)

theorem leave_owned (free : ∀ q, q ≠ p → (s.phase q).running = false) (r : ReadResult) :
    MinorOwned own (s.leave p r) := by
  have idle : MinorOwned own (s.goto p .idle) :=
    goto_owned free fun uses => absurd uses Bool.false_ne_true
  exact ⟨idle.processor, idle.own⟩

omit [DecidableEq ι] in
/-- Changes of phases without the processor. -/
theorem MinorOwned.rephase (owned : MinorOwned own s) (driver : GpioDriver)
    {phase : ι → ReadPhase} (kept : ∀ q, (phase q).running = true → phase q = s.phase q) :
    MinorOwned own { s with driver := driver, phase := phase } where
  processor q runs := owned.processor q (kept q runs ▸ runs)
  own q uses := owned.own q (kept q (ReadPhase.running_of_usesMinor uses) ▸ uses)

omit [DecidableEq ι] in
/-- The step of a read finds no other process on the processor. -/
theorem others_free (owned : MinorOwned own s) (turn : s.running = none ∨ s.running = some p) :
    ∀ q, q ≠ p → (s.phase q).running = false := by
  intro q other
  by_contra runs
  have onProcessor := owned.processor q (Bool.not_eq_false _ ▸ runs)
  rcases turn with free | mine
  · exact absurd (free.symm.trans onProcessor) (by simp)
  · exact other (Option.some.inj (onProcessor.symm.trans mine))

theorem readNext_owned (owned : MinorOwned own s) {e : ReadEvent ι}
    (enabled : readEnabled s e) (intact : MinorIntact own s e) :
    MinorOwned own (readNext own s e) := by
  have free : ∀ p, s.running = none ∨ s.running = some p →
      ∀ q, q ≠ p → (s.phase q).running = false := fun p => others_free owned
  have mine : ∀ {p phase}, s.phase p = phase → phase.usesMinor = true → s.minor = own p :=
    fun {p phase} here uses => owned.own p (here ▸ uses)
  have unused : ∀ {P : Prop}, false = true → P := fun no => absurd no Bool.false_ne_true
  cases e with
  | enter p size =>
      unfold readNext
      dsimp only
      split
      · exact goto_owned (free p (.inl enabled.1)) fun _ => rfl
      · exact leave_owned (s := { s with minor := own p }) (free p (.inl enabled.1)) _
  | sample p level => exact goto_owned (free p (.inr enabled.1)) fun _ => mine enabled.2 rfl
  | test p =>
      refine goto_owned (free p (.inr enabled.1)) fun uses => intact.resolve_right ?_
      by_contra notDone
      rw [if_neg notDone] at uses
      exact unused uses
  | park p => exact goto_owned (free p (.inr enabled.1)) unused
  | resume p signalPending =>
      unfold readNext
      dsimp only
      split
      · exact leave_owned (free p (.inl enabled.1)) _
      · exact goto_owned (free p (.inl enabled.1)) unused
  | clear p => exact goto_owned (free p (.inr enabled.1)) fun _ => mine enabled.2 rfl
  | copy p notCopiedToUser => exact leave_owned (free p (.inr enabled.1)) _
  | interrupt g gdData level => exact owned.rephase _ fun p => wakeUp_of_running
  | signal p =>
      refine owned.rephase s.driver fun q runs => Function.update_of_ne ?_ _ _
      intro same
      rw [same, Function.update_self] at runs
      exact unused runs

variable (own s p) in
theorem clear_done : ((readNext own s (.clear p)).driver.attributes s.minor).done = 0 := by
  change (Function.update s.driver.attributes s.minor { s.entry with done := 0 } s.minor).done = 0
  rw [Function.update_self]

theorem test_completes {e : ReadEvent ι} (intact : MinorIntact own s e) (test : e = .test p)
    (passed : (readNext own s e).phase p = .clearing) :
    (s.driver.attributes (own p)).done = 1 := by
  subst test
  have isSet : s.entry.done = 1 := by
    by_contra notDone
    rw [readNext, goto_phase_self, if_neg notDone] at passed
    exact absurd passed (by decide)
  rw [← intact.resolve_right (not_not.mpr isSet)]
  exact isSet

/-- A step of a read writes the `bDone` of no GPIO but its own. -/
theorem read_clearsOnly (owned : MinorOwned own s) {e : ReadEvent ι} (enabled : readEnabled s e)
    (reader : e.reader = some p) {g : Minor} (other : g ≠ own p) :
    ((readNext own s e).driver.attributes g).done = (s.driver.attributes g).done := by
  cases e with
  | clear q =>
      obtain rfl : q = p := Option.some.inj reader
      have minor := owned.own q (enabled.2 ▸ rfl)
      rw [← minor] at other
      exact congrArg GpioAttributes.done (Function.update_of_ne other _ _)
  | sample q level =>
      exact attribute_field s.driver s.minor g GpioAttributes.done
        (f := fun a => { a with value := level }) fun _ => rfl
  | enter q size | resume q signalPending =>
      unfold readNext
      dsimp only
      split <;> rfl
  | test q | park q | copy q n => rfl
  | interrupt | signal => nomatch reader

theorem readNext_noInterference (owned : MinorOwned own s) {e : ReadEvent ι}
    (enabled : readEnabled s e) (intact : MinorIntact own s e) : NoInterference own s e where
  completes p test passed := test_completes intact test passed
  clears p clear := by
    subst clear
    rw [← owned.own p (enabled.2 ▸ rfl)]
    exact clear_done own s p
  clearsOnly p reader g other := read_clearsOnly owned enabled reader other
  returns p n copy := by
    subst copy
    rw [← owned.own p (enabled.2 ▸ rfl)]
    exact Function.update_self _ _ _

/-- A process is about to clear the event of a GPIO that is not its own. -/
def Misled (own : ι → Minor) (s : ReadState ι) : Prop :=
  ∃ p, s.running = some p ∧ s.phase p = .clearing ∧ s.minor ≠ own p ∧ s.entry.done = 1

theorem misled_of_missed {e : ReadEvent ι} (missed : ¬ MinorIntact own s e) :
    Misled own (readNext own s e) := by
  cases e with
  | test p =>
      obtain ⟨foreign, isSet⟩ := not_or.mp missed
      have passes : readNext own s (.test p) = s.goto p .clearing := by
        rw [readNext, if_pos (not_not.mp isSet)]
      rw [passes]
      exact ⟨p, rfl, goto_phase_self _, foreign, not_not.mp isSet⟩
  | enter | sample | park | resume | clear | copy | interrupt | signal =>
      exact absurd trivial missed

/-- Until it clears that event, only interrupts and signals come in between. -/
theorem misled_remains (misled : Misled own s) {e : ReadEvent ι} (enabled : readEnabled s e)
    (law : NoInterference own s e) : Misled own (readNext own s e) := by
  obtain ⟨p, runs, clearing, foreign, isSet⟩ := misled
  have elsewhere : ∀ {q phase}, s.running = some q → s.phase q = phase → phase ≠ .clearing →
      False := by
    intro q phase mine here other
    obtain rfl : p = q := Option.some.inj (runs.symm.trans mine)
    exact other (here.symm.trans clearing)
  cases e with
  | enter q | resume q => exact absurd (enabled.1.symm.trans runs) (by simp)
  | sample q | test q | park q | copy q => exact (elsewhere enabled.1 enabled.2 (by decide)).elim
  | clear q =>
      obtain rfl : p = q := Option.some.inj (runs.symm.trans enabled.1)
      have kept := law.clearsOnly p rfl s.minor foreign
      exact absurd ((clear_done own s p).symm.trans (kept.trans isSet)) (by decide)
  | interrupt g gdData level =>
      exact ⟨p, runs, congrArg wakeUp clearing, foreign,
        gpioIrqHandler_keeps_done s.driver g s.minor gdData level isSet⟩
  | signal q =>
      refine ⟨p, runs, ?_, foreign, isSet⟩
      have asleep : s.phase q = .asleep := enabled
      refine (Function.update_of_ne ?_ _ _).trans clearing
      intro same
      rw [same, asleep] at clearing
      exact absurd clearing (by decide)

end steps

/-- Along every run from a state without readers, the reads do not interfere if no process
that has slept takes up the event of another GPIO. When the run ends with the processor free,
they do not interfere only if none does. -/
theorem reads_separate {own : ι → Minor} {driver : GpioDriver} {minor : Minor}
    {es : List (ReadEvent ι)} (admitted : (readMachine own).Admits (noReader ι driver minor) es) :
    ((readMachine own).EveryStep (MinorIntact own) (noReader ι driver minor) es →
        (readMachine own).EveryStep (NoInterference own) (noReader ι driver minor) es) ∧
      (((readMachine own).run (noReader ι driver minor) es).running = none →
        (readMachine own).EveryStep (NoInterference own) (noReader ι driver minor) es →
          (readMachine own).EveryStep (MinorIntact own) (noReader ι driver minor) es) := by
  have start : MinorOwned own (noReader ι driver minor) :=
    ⟨fun _ runs => absurd runs Bool.false_ne_true, fun _ uses => absurd uses Bool.false_ne_true⟩
  constructor
  · intro intact
    exact everyStep_of_everyStep (fun _ _ owned enabled => readNext_owned owned enabled)
      (fun _ _ owned enabled => readNext_noInterference owned enabled) start admitted intact
  · intro ended law
    refine everyStep_of_trap (T := Misled own) (fun _ _ _ missed => misled_of_missed missed)
      (fun _ _ misled enabled law => misled_remains misled enabled law) admitted law ?_
    rintro ⟨p, runs, -⟩
    exact absurd (ended.symm.trans runs) (by simp)

end machine

/-- GPIOs 10 and 20 are opened for reading and put into interrupt mode. -/
def twoInterrupts : List GpioEvent :=
  [.openFile 10 1 (.granted 0), .openFile 20 1 (.granted 0),
    .ioctl 10 gpioIoctlSetInterrupt irqfTriggerRising (.granted 0),
    .ioctl 20 gpioIoctlSetInterrupt irqfTriggerRising (.granted 0)]

/-- The state in which two processes start to read these GPIOs. -/
def twoReaders : ReadState (Fin 2) :=
  noReader (Fin 2) (gpioMachine.run (gpioInitialize fun _ => 0) twoInterrupts) 0

def readGpio : Fin 2 → Minor
  | 0 => 10
  | 1 => 20

/-- Both fall asleep, and GPIO 20 has an interrupt. -/
def bothWoken : List (ReadEvent (Fin 2)) :=
  [.enter 0 2, .test 0, .park 0, .enter 1 2, .test 1, .park 1,
    .interrupt 20 initialAttributes.lastItGDData 1]

theorem reads_separate_inOrder :
    (readMachine readGpio).EveryStep (NoInterference readGpio) twoReaders (bothWoken ++
      [.resume 1 false, .test 1, .clear 1, .copy 1 0, .resume 0 false, .test 0, .park 0]) :=
  (reads_separate (by decide +kernel)).1 (by decide +kernel)

theorem reads_separate_refuted :
    ¬ ∀ (ι : Type) [DecidableEq ι] (own : ι → Minor) (mux : Word → BitVec 16)
      (driver : GpioDriver) (minor : Minor) (es : List (ReadEvent ι)), Function.Injective own →
        gpioMachine.Reachable (gpioInitialize mux) driver →
          (readMachine own).Admits (noReader ι driver minor) es →
            (readMachine own).EveryStep (NoInterference own) (noReader ι driver minor) es := by
  intro every
  have opened : gpioMachine.Admits (gpioInitialize fun _ => 0) twoInterrupts := by decide +kernel
  -- The reader of GPIO 10 resumes first.
  have law := every (Fin 2) readGpio (fun _ => 0) _ 0
    ((bothWoken ++ [.resume 0 false]) ++ [.test 0, .clear 0, .copy 0 0]) (by decide) (.run opened)
    (by decide +kernel)
  have tested := (everyStep_append.mp law).2.1
  exact absurd (tested.completes 0 rfl (by decide +kernel)) (by decide +kernel)

end Gumstix.Gpio
