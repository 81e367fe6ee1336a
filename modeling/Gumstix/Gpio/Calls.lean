import Gumstix.Gpio.Readers

/-!
# System calls of one process

`Gpio_read`, `Gpio_poll` and the two commands of `Gpio_ioctl` that deal with interrupts,
statement by statement, as one user process makes them. `GpioIrqHandler` takes two steps:
all it does up to `bDone = 1`, and its wake-up. It may run between any two statements.
-/
namespace Gumstix.Gpio
open Gumstix.Synchronization (Word GeoDatationData pollin pollrdnorm)

/-- The mask of `Gpio_poll` in interrupt mode. -/
def doneMask (a : GpioAttributes) : Word := if a.done ≠ 0 then pollin ||| pollrdnorm else 0

def gpioPoll (a : GpioAttributes) : Word := if a.mode = itMode then doneMask a else 0

/-- Before which statement of `GPIO_IOCTL_SET_INTERRUPT` a process is. -/
inductive SetPhase where
  /-- `free_irq`, or `gpio_free` and the change of mode. -/
  | releasing
  | triggering
  | requesting
  /-- `bDone = 0`. -/
  | clearing
  deriving DecidableEq, Repr

/-- Before which statement of `GPIO_IOCTL_FREE_INTERRUPT` a process is. -/
inductive FreePhase where
  | releasing
  | booking
  /-- `bDone = 1`. -/
  | setting
  | waking
  deriving DecidableEq, Repr

section statements
variable (s : GpioDriver) (minor : Minor) (k : Replies)

/-- A statement of `Gpio_read`: where the call goes on, or what it returns. -/
def readStatement (signalPending : Bool) : ReadPhase → GpioDriver × (ReadPhase ⊕ ReadResult)
  | .idle => (s, .inl .idle)
  | .asleep => (s, .inl .asleep)
  | .sampling => (s.attribute minor fun a => { a with value := k.level }, .inl .copying)
  | .testing => (s, .inl (if (s.attributes minor).done = 1 then .clearing else .parking))
  | .parking => (s, .inl .asleep)
  | .woken => (s, if signalPending then .inr ⟨-eintr, none⟩ else .inl .testing)
  | .clearing => (s.attribute minor fun a => { a with done := 0 }, .inl .copying)
  | .copying => (s, .inr (readCopy (s.attributes minor).value k.notCopiedToUser))

def setStatement (arg : Word) : SetPhase → GpioDriver × (SetPhase ⊕ Int)
  | .releasing => (setInterruptRelease s minor k, .inl .triggering)
  | .triggering => (s.attribute minor fun a => { a with triggerMode := arg }, .inl .requesting)
  | .requesting => (s.kernel minor fun p => p.requestIrq k,
      if k.irq ≠ 0 then .inr (-errIoctlInterruptionRequest) else .inl .clearing)
  | .clearing => (s.attribute minor fun a => { a with done := 0 }, .inr 0)

def freeStatement : FreePhase → GpioDriver × (FreePhase ⊕ Int)
  | .releasing => (s.kernel minor fun p => p.freeIrq k, .inl .booking)
  | .booking => ((s.kernel minor fun p => p.gpioRequest k).attribute minor fun a =>
      { a with mode := if k.request ≠ 0 then 0 else ioMode }, .inl .setting)
  | .setting => (s.attribute minor fun a => { a with done := 1 }, .inl .waking)
  | .waking => (s, .inr 0)

/-- Without interruption the statements of `SET_INTERRUPT` do what the whole command does. -/
theorem setInterrupt_statements {arg : Word}
    (valid : ¬ (arg ≠ irqfTriggerRising ∧ arg ≠ irqfTriggerFalling)) :
    let released := (setStatement s minor k arg .releasing).1
    let triggered := (setStatement released minor k arg .triggering).1
    let requested := (setStatement triggered minor k arg .requesting).1
    (setInterrupt s minor arg k).driver =
      if k.irq ≠ 0 then requested else (setStatement requested minor k arg .clearing).1 := by
  unfold setInterrupt
  rw [if_neg valid]
  split_ifs <;> rfl

theorem freeInterrupt_statements (inMode : (s.attributes minor).mode = itMode) :
    let released := (freeStatement s minor k .releasing).1
    let booked := (freeStatement released minor k .booking).1
    (freeInterrupt s minor k).driver = (freeStatement booked minor k .setting).1 := by
  unfold freeInterrupt
  rw [if_neg (not_not.mpr inMode)]
  rfl

end statements

/-- In which call the process is, and before which statement. -/
inductive UserPhase where
  | outside
  | reading (minor : Minor) (phase : ReadPhase)
  | polling (minor : Minor)
  | setting (minor : Minor) (arg : Word) (phase : SetPhase)
  | freeing (minor : Minor) (phase : FreePhase)
  deriving DecidableEq, Repr

inductive UserCall where
  | read (minor : Minor) (size : Nat)
  | poll (minor : Minor)
  | setInterrupt (minor : Minor) (arg : Word)
  | freeInterrupt (minor : Minor)

def UserCall.minor : UserCall → Minor
  | .read minor _ | .poll minor | .setInterrupt minor _ | .freeInterrupt minor => minor

/-- What a call has returned. -/
inductive Returned where
  | read (r : ReadResult)
  | poll (mask : Word)
  | ioctl (ret : Int)
  deriving DecidableEq, Repr

/-- `handling` tells for each GPIO whether its interrupt handler has set `bDone` and has its
wake-up still to make; `returned` is what the last call returned. -/
structure UserState where
  driver : GpioDriver
  phase : UserPhase
  handling : Minor → Bool
  returned : Option Returned

inductive UserEvent where
  | call (c : UserCall)
  | statement (k : Replies) (signalPending : Bool)
  | flag (minor : Minor) (gdData : GeoDatationData) (level : Word)
  | wake (minor : Minor)
  | signal

def UserPhase.runnable : UserPhase → Bool
  | .outside | .reading _ .idle | .reading _ .asleep => false
  | _ => true

def UserPhase.wakeUp : UserPhase → UserPhase
  | .reading minor phase => .reading minor (Gpio.wakeUp phase)
  | phase => phase

section machine
variable (s : UserState)

def UserState.goto (driver : GpioDriver) (phase : UserPhase) : UserState :=
  { s with driver := driver, phase := phase }

def UserState.leave (driver : GpioDriver) (r : Returned) : UserState :=
  { s with driver := driver, phase := .outside, returned := some r }

/-- The checks a call begins with; no interrupt writes what they read. -/
def startCall : UserCall → UserState
  | .read minor size =>
      match readChecks (s.driver.attributes minor) size with
      | .ok phase => s.goto s.driver (.reading minor phase)
      | .error ret => s.leave s.driver (.read ⟨ret, none⟩)
  | .poll minor =>
      if (s.driver.attributes minor).mode = itMode then s.goto s.driver (.polling minor)
      else s.leave s.driver (.poll 0)
  | .setInterrupt minor arg =>
      if arg ≠ irqfTriggerRising ∧ arg ≠ irqfTriggerFalling then
        s.leave s.driver (.ioctl (-errIoctlSpecifiedEvent))
      else s.goto s.driver (.setting minor arg .releasing)
  | .freeInterrupt minor =>
      if (s.driver.attributes minor).mode ≠ itMode then
        s.leave s.driver (.ioctl (-errIoctlWrongGpioMode))
      else s.goto s.driver (.freeing minor .releasing)

/-- After a statement the call goes on or returns. -/
def UserState.proceed {φ ρ : Type} (goOn : φ → UserPhase) (ret : ρ → Returned) :
    GpioDriver × (φ ⊕ ρ) → UserState
  | (driver, .inl phase) => s.goto driver (goOn phase)
  | (driver, .inr r) => s.leave driver (ret r)

def nextStatement (k : Replies) (signalPending : Bool) : UserState :=
  match s.phase with
  | .outside => s
  | .reading minor phase =>
      s.proceed (.reading minor) .read (readStatement s.driver minor k signalPending phase)
  | .polling minor => s.leave s.driver (.poll (doneMask (s.driver.attributes minor)))
  | .setting minor arg phase =>
      s.proceed (.setting minor arg) .ioctl (setStatement s.driver minor k arg phase)
  | .freeing minor phase =>
      s.proceed (.freeing minor) .ioctl (freeStatement s.driver minor k phase)

def userNext : UserEvent → UserState
  | .call c => startCall s c
  | .statement k signalPending => nextStatement s k signalPending
  | .flag minor gdData level =>
      { s with
        driver := gpioIrqHandler s.driver minor gdData level
        handling := Function.update s.handling minor true }
  | .wake minor =>
      { s with
        phase := s.phase.wakeUp
        handling := Function.update s.handling minor false }
  | .signal => { s with phase := s.phase.wakeUp }

/-- `free_irq` waits for a handler of its interrupt that is running. -/
def UserState.handlerDone : Bool :=
  match s.phase with
  | .setting minor _ .releasing =>
      !s.handling minor || decide ((s.driver.attributes minor).mode ≠ itMode)
  | .freeing minor .releasing => !s.handling minor
  | _ => true

/-- Calls come on files that are open. The handler of a GPIO runs while its interrupt is
requested, and not twice at a time. -/
def userEnabled : UserEvent → Prop
  | .call c => s.phase = .outside ∧ (s.driver.attributes c.minor).isOpened = 1
  | .statement _ _ => s.phase.runnable = true ∧ s.handlerDone = true
  | .flag minor _ _ => 0 < (s.driver.pins minor).interrupts ∧ s.handling minor = false
  | .wake minor => s.handling minor = true
  | .signal => s.phase.wakeUp ≠ s.phase

def userMachine : EventMachine UserState UserEvent := ⟨userEnabled, userNext⟩

instance : (e : UserEvent) → Decidable (userMachine.enabled s e)
  | .call _ => inferInstanceAs (Decidable (_ ∧ _))
  | .statement _ _ => inferInstanceAs (Decidable (_ ∧ _))
  | .flag _ _ _ => inferInstanceAs (Decidable (_ ∧ _))
  | .wake _ => inferInstanceAs (Decidable (_ = _))
  | .signal => inferInstanceAs (Decidable (_ ≠ _))

section proceed
variable {φ ρ : Type} (goOn : φ → UserPhase) (ret : ρ → Returned) (o : GpioDriver × (φ ⊕ ρ))

variable {s goOn ret o} in
/-- The call goes on in a phase of its own, or is over. -/
theorem proceed_goesOn {phase : UserPhase} (here : (s.proceed goOn ret o).phase = phase) :
    (∃ next, o.2 = .inl next ∧ goOn next = phase) ∨ .outside = phase := by
  obtain ⟨driver, next | r⟩ := o
  · exact .inl ⟨next, rfl, here⟩
  · exact .inr here

end proceed

end machine

/-- The process is in no call and no handler is running. -/
def noCall (driver : GpioDriver) : UserState := ⟨driver, .outside, fun _ => false, none⟩

end Gumstix.Gpio
