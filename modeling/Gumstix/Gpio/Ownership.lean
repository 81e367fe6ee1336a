import Gumstix.Gpio.OperationSpecs

/-!
# Ownership of pins and interrupts

What the driver holds of one GPIO depends on the calls on that GPIO alone. The abstract
model keeps its mode, its open flag and the counts of what the kernel has granted; the
driver refines it, and the ownership law is proved of it.
-/
namespace Gumstix.Gpio
open Gumstix.Synchronization (Word)
open EventMachine

structure Holding where
  mode : Word
  isOpened : Word
  requests : Nat
  interrupts : Nat
  strayFrees : Nat
  deriving DecidableEq, Repr

def holdingOf (a : GpioAttributes) (p : Pin) : Holding :=
  ⟨a.mode, a.isOpened, p.requests, p.interrupts, p.strayFrees⟩

def GpioDriver.holding (s : GpioDriver) (g : Minor) : Holding :=
  holdingOf (s.attributes g) (s.pins g)

namespace Holding
variable (h : Holding)

def gpioRequest (ret : Int) : Holding :=
  if ret = 0 then { h with requests := h.requests + 1 } else h

def gpioFree : Holding :=
  if h.requests = 0 then { h with strayFrees := h.strayFrees + 1 }
  else { h with requests := h.requests - 1 }

def requestIrq (ret : Int) : Holding :=
  if ret = 0 then { h with interrupts := h.interrupts + 1 } else h

def freeIrq : Holding :=
  if h.interrupts = 0 then { h with strayFrees := h.strayFrees + 1 }
  else { h with interrupts := h.interrupts - 1 }

def afterOpen (k : Replies) : Holding :=
  if h.isOpened ≠ 0 then h
  else if k.request ≠ 0 then { h with isOpened := 0 }
  else if k.direction < 0 then { h with requests := h.requests + 1 }
  else { h with mode := ioMode, isOpened := 1, requests := h.requests + 1 }

def released : Holding :=
  if h.mode = ioMode then h.gpioFree else if h.mode = itMode then h.freeIrq else h

def afterClose : Holding := { h.released with isOpened := 0 }

def interruptReleased : Holding :=
  if h.mode = itMode then h.freeIrq else { h.gpioFree with mode := itMode }

def afterSetInterrupt (arg : Word) (k : Replies) : Holding :=
  if arg ≠ irqfTriggerRising ∧ arg ≠ irqfTriggerFalling then h
  else h.interruptReleased.requestIrq k.irq

def afterFreeInterrupt (k : Replies) : Holding :=
  if h.mode ≠ itMode then h
  else { h.freeIrq.gpioRequest k.request with mode := if k.request ≠ 0 then 0 else ioMode }

def afterIoctl (cmd arg : Word) (k : Replies) : Holding :=
  if cmd = gpioIoctlSetInterrupt then h.afterSetInterrupt arg k
  else if cmd = gpioIoctlFreeInterrupt then h.afterFreeInterrupt k
  else h

def next : GpioEvent → Holding
  | .openFile _ _ k => h.afterOpen k
  | .ioctl _ cmd arg k => h.afterIoctl cmd arg k
  | .closeFile _ _ => h.afterClose

end Holding

section refinement
variable (a : GpioAttributes) (p : Pin)

theorem holdingOf_gpioRequest (k : Replies) :
    holdingOf a (p.gpioRequest k) = (holdingOf a p).gpioRequest k.request := by
  unfold Pin.gpioRequest Holding.gpioRequest
  split <;> rfl

theorem holdingOf_gpioFree (k : Replies) :
    holdingOf a (p.gpioFree k) = (holdingOf a p).gpioFree := by
  unfold Pin.gpioFree Holding.gpioFree holdingOf Pin.leftBy
  dsimp only
  split <;> rfl

theorem holdingOf_requestIrq (k : Replies) :
    holdingOf a (p.requestIrq k) = (holdingOf a p).requestIrq k.irq := by
  unfold Pin.requestIrq Holding.requestIrq
  split <;> rfl

theorem holdingOf_freeIrq (k : Replies) :
    holdingOf a (p.freeIrq k) = (holdingOf a p).freeIrq := by
  unfold Pin.freeIrq Holding.freeIrq holdingOf Pin.leftBy
  dsimp only
  split <;> rfl

theorem holdingOf_directionInput (ret : Int) :
    holdingOf a (p.directionInput ret) = holdingOf a p := by
  unfold Pin.directionInput
  split <;> rfl

theorem holdingOf_directionOutput (level : Word) (ret : Int) :
    holdingOf a (p.directionOutput level ret) = holdingOf a p := by
  unfold Pin.directionOutput
  split <;> rfl

variable (s : GpioDriver) (minor : Minor)

/-- An update of the entry whose effect on what is held is `F`. -/
theorem holding_attribute (F : Holding → Holding) {f : GpioAttributes → GpioAttributes}
    (effect : ∀ a p, holdingOf (f a) p = F (holdingOf a p)) :
    (s.attribute minor f).holding minor = F (s.holding minor) := by
  simp only [GpioDriver.holding, attribute_attributes, attribute_pins, Function.update_self, effect]

theorem holding_kernel (F : Holding → Holding) {f : Pin → Pin}
    (effect : ∀ a p, holdingOf a (f p) = F (holdingOf a p)) :
    (s.kernel minor f).holding minor = F (s.holding minor) := by
  simp only [GpioDriver.holding, kernel_attributes, kernel_pins, Function.update_self, effect]

theorem holding_withBank (b : RegisterBank Nat Word (BitVec 16) Word) :
    (s.withBank minor b).holding minor = s.holding minor := by
  simp only [GpioDriver.holding, withBank_attributes, withBank_pins, Function.update_self]
  rfl

theorem openDirection_holding (openMode : Word) (k : Replies) :
    (openDirection s minor openMode k).2.holding minor = s.holding minor := by
  unfold openDirection
  split_ifs <;> dsimp only
  iterate 2
    refine (holding_attribute _ minor id ?_).trans
      ((holding_kernel _ minor id ?_).trans (holding_attribute _ minor id ?_))
    · exact fun _ _ => rfl
    · exact fun a p => holdingOf_directionInput a p _
    · exact fun _ _ => rfl
  iterate 2
    refine (holding_kernel _ minor id ?_).trans (holding_attribute _ minor id ?_)
    · exact fun a p => holdingOf_directionOutput a p _ _
    · exact fun _ _ => rfl

theorem gpioOpen_holding (openMode : Word) (k : Replies) :
    (gpioOpen s minor openMode k).2.holding minor = (s.holding minor).afterOpen k := by
  obtain ⟨b, forced⟩ := forceGpioMode_withBank s minor 0 k.ioremap
  have requested : (openRequested s minor k).holding minor =
      (s.holding minor).gpioRequest k.request := by
    rw [openRequested, forced, holding_kernel _ minor (fun h => h.gpioRequest k.request)
      fun a p => holdingOf_gpioRequest a p _, holding_withBank]
  have directed := (openDirection_holding _ minor openMode k).trans requested
  unfold Holding.gpioRequest at requested directed
  have outcome := gpioOpen_outcome s minor openMode k
  generalize (gpioOpen s minor openMode k).2 = s' at outcome ⊢
  unfold Holding.afterOpen
  cases outcome with
  | busy opened => rw [if_pos (show (s.holding minor).isOpened ≠ 0 from opened)]
  | refused free refused =>
      rw [if_neg (not_not.mpr free : ¬ (s.holding minor).isOpened ≠ 0), if_pos refused,
        holding_attribute _ minor (fun h => { h with isOpened := 0 }) fun _ _ => rfl, requested,
        if_neg refused]
  | undirected free granted failed =>
      rw [if_neg (not_not.mpr free : ¬ (s.holding minor).isOpened ≠ 0),
        if_neg (not_not.mpr granted), if_pos failed, directed, if_pos granted]
  | opened free granted succeeds =>
      rw [if_neg (not_not.mpr free : ¬ (s.holding minor).isOpened ≠ 0),
        if_neg (not_not.mpr granted), if_neg (not_lt.mpr succeeds),
        holding_attribute _ minor (fun h => { h with mode := ioMode, isOpened := 1 })
          fun _ _ => rfl, directed, if_pos granted]

theorem closeRelease_holding (k : Replies) :
    (closeRelease s minor k).holding minor = (s.holding minor).released := by
  unfold closeRelease Holding.released
  by_cases io : (s.attributes minor).mode = ioMode
  · rw [if_pos io, if_pos (show (s.holding minor).mode = ioMode from io)]
    exact holding_kernel s minor Holding.gpioFree fun a p => holdingOf_gpioFree a p k
  rw [if_neg io, if_neg (show ¬ (s.holding minor).mode = ioMode from io)]
  by_cases it : (s.attributes minor).mode = itMode
  · rw [if_pos it, if_pos (show (s.holding minor).mode = itMode from it)]
    exact holding_kernel s minor Holding.freeIrq fun a p => holdingOf_freeIrq a p k
  · rw [if_neg it, if_neg (show ¬ (s.holding minor).mode = itMode from it)]

theorem gpioClose_holding (k : Replies) :
    (gpioClose s minor k).2.holding minor = (s.holding minor).afterClose := by
  unfold gpioClose Holding.afterClose
  dsimp only
  obtain ⟨b, restored⟩ := restorePreviousGpioMode_withBank
    ((closeRelease s minor k).attribute minor fun a => { a with isOpened := 0 }) minor k.ioremap
  rw [restored, holding_withBank,
    holding_attribute _ minor (fun h => { h with isOpened := 0 }) fun _ _ => rfl,
    closeRelease_holding]

theorem setInterrupt_holding (arg : Word) (k : Replies) :
    (setInterrupt s minor arg k).driver.holding minor =
      (s.holding minor).afterSetInterrupt arg k := by
  have released : (setInterruptRelease s minor k).holding minor =
      (s.holding minor).interruptReleased := by
    unfold setInterruptRelease Holding.interruptReleased
    by_cases it : (s.attributes minor).mode = itMode
    · rw [if_pos it, if_pos (show (s.holding minor).mode = itMode from it)]
      exact holding_kernel s minor Holding.freeIrq fun a p => holdingOf_freeIrq a p k
    · rw [if_neg it, if_neg (show ¬ (s.holding minor).mode = itMode from it),
        holding_attribute _ minor (fun h => { h with mode := itMode }) fun _ _ => rfl,
        holding_kernel s minor Holding.gpioFree fun a p => holdingOf_gpioFree a p k]
  have requested : (((setInterruptRelease s minor k).attribute minor fun a =>
      { a with triggerMode := arg }).kernel minor fun p => p.requestIrq k).holding minor =
        (s.holding minor).interruptReleased.requestIrq k.irq := by
    rw [holding_kernel _ minor (fun h => h.requestIrq k.irq) fun a p =>
      holdingOf_requestIrq a p _, ← released]
    congr 1
    refine (holding_attribute _ minor id ?_)
    exact fun _ _ => rfl
  unfold setInterrupt Holding.afterSetInterrupt
  by_cases invalid : arg ≠ irqfTriggerRising ∧ arg ≠ irqfTriggerFalling
  · rw [if_pos invalid, if_pos invalid]
  rw [if_neg invalid, if_neg invalid]
  dsimp only
  split <;> dsimp only
  · exact requested
  · refine (holding_attribute _ minor id ?_).trans requested
    exact fun _ _ => rfl

theorem freeInterrupt_holding (k : Replies) :
    (freeInterrupt s minor k).driver.holding minor = (s.holding minor).afterFreeInterrupt k := by
  unfold freeInterrupt Holding.afterFreeInterrupt
  by_cases other : (s.attributes minor).mode ≠ itMode
  · rw [if_pos other, if_pos (show (s.holding minor).mode ≠ itMode from other)]
  rw [if_neg other, if_neg (show ¬ (s.holding minor).mode ≠ itMode from other)]
  dsimp only
  refine (holding_attribute _ minor id ?_).trans ?_
  · exact fun _ _ => rfl
  rw [holding_attribute _ minor (fun h => { h with mode := if k.request ≠ 0 then 0 else ioMode })
      fun _ _ => rfl,
    holding_kernel _ minor (fun h => h.gpioRequest k.request) fun a p =>
      holdingOf_gpioRequest a p _,
    holding_kernel s minor Holding.freeIrq fun a p => holdingOf_freeIrq a p k]
  rfl

/-- The commands that leave mode and resources alone. -/
theorem otherCommand_holding {cmd : Word} (arg : Word) (k : Replies)
    (notSet : cmd ≠ gpioIoctlSetInterrupt) (notFree : cmd ≠ gpioIoctlFreeInterrupt) :
    (gpioIoctl s minor cmd arg k).driver.holding minor = s.holding minor := by
  unfold gpioIoctl
  split_ifs
  · unfold setDirection
    split_ifs <;> dsimp only
    · refine (holding_attribute _ minor id ?_).trans
        ((holding_kernel _ minor id ?_).trans (holding_attribute _ minor id ?_))
      · exact fun _ _ => rfl
      · exact fun a p => holdingOf_directionInput a p _
      · exact fun _ _ => rfl
    · refine (holding_kernel _ minor id ?_).trans (holding_attribute _ minor id ?_)
      · exact fun a p => holdingOf_directionOutput a p _ _
      · exact fun _ _ => rfl
  · unfold setOutputValue
    split_ifs <;> dsimp only
    refine (holding_kernel _ minor id ?_).trans (holding_attribute _ minor id ?_) <;>
      exact fun _ _ => rfl
  · unfold getInputValue
    split_ifs <;> dsimp only
    apply holding_attribute _ minor id
    exact fun _ _ => rfl
  · unfold setDebounceDelay
    split_ifs <;> dsimp only
    apply holding_attribute _ minor id
    exact fun _ _ => rfl
  · unfold getLastItGdData
    split_ifs <;> rfl
  · rfl

theorem gpioIoctl_holding (cmd arg : Word) (k : Replies) :
    (gpioIoctl s minor cmd arg k).driver.holding minor =
      (s.holding minor).afterIoctl cmd arg k := by
  unfold Holding.afterIoctl
  by_cases set : cmd = gpioIoctlSetInterrupt
  · subst set
    exact setInterrupt_holding s minor arg k
  by_cases free : cmd = gpioIoctlFreeInterrupt
  · subst free
    exact freeInterrupt_holding s minor k
  · rw [if_neg set, if_neg free, otherCommand_holding s minor arg k set free]

end refinement

/-- One step of the driver is one step of the abstract model at the GPIO of the event. -/
theorem gpioNext_holding (s : GpioDriver) (e : GpioEvent) (g : Minor) :
    (gpioNext s e).holding g = if g = e.minor then (s.holding g).next e else s.holding g := by
  by_cases same : g = e.minor
  · rw [if_pos same, same]
    cases e with
    | openFile minor openMode k => exact gpioOpen_holding s minor openMode k
    | ioctl minor cmd arg k => exact gpioIoctl_holding s minor cmd arg k
    | closeFile minor k => exact gpioClose_holding s minor k
  · rw [if_neg same, GpioDriver.holding, (gpioNext_onlyAt s e g same).1,
      (gpioNext_onlyAt s e g same).2]
    rfl

/-- What the driver holds of a GPIO goes with its open flag and its mode. -/
structure Owned (h : Holding) : Prop where
  closed : h.isOpened = 0 → h.requests = 0 ∧ h.interrupts = 0
  io : h.isOpened = 1 → h.mode = ioMode → h.requests = 1 ∧ h.interrupts = 0
  it : h.isOpened = 1 → h.mode = itMode → h.requests = 0 ∧ h.interrupts = 1
  abstract : h.isOpened = 1 → h.mode = 0 → h.requests = 0 ∧ h.interrupts = 0
  noStrayFree : h.strayFrees = 0

/-- The states an owned GPIO can be in; the induction invariant. -/
inductive OwnedState : Holding → Prop
  | closed (mode : Word) : OwnedState ⟨mode, 0, 0, 0, 0⟩
  | io : OwnedState ⟨ioMode, 1, 1, 0, 0⟩
  | it : OwnedState ⟨itMode, 1, 0, 1, 0⟩
  | abstract : OwnedState ⟨0, 1, 0, 0, 0⟩

theorem OwnedState.owned {h : Holding} (state : OwnedState h) : Owned h := by
  cases state <;> constructor <;> simp

def AllOwned (s : GpioDriver) : Prop := ∀ g, Owned (s.holding g)

/-- The calls that keep the law: `Gpio_open` of a free GPIO does not fail in
`gpio_direction_*` after `gpio_request` has succeeded; `GPIO_IOCTL_SET_INTERRUPT` with a
valid trigger comes in `IO_MODE` or `IT_MODE` and its `request_irq` succeeds. -/
def KeepsResources (s : GpioDriver) : GpioEvent → Prop
  | .openFile minor _ k =>
      (s.attributes minor).isOpened ≠ 0 ∨ k.request ≠ 0 ∨ 0 ≤ k.direction
  | .ioctl minor cmd arg k =>
      cmd = gpioIoctlSetInterrupt → (arg = irqfTriggerRising ∨ arg = irqfTriggerFalling) →
        ((s.attributes minor).mode = ioMode ∨ (s.attributes minor).mode = itMode) ∧ k.irq = 0
  | .closeFile _ _ => True

instance (s : GpioDriver) : (e : GpioEvent) → Decidable (KeepsResources s e)
  | .openFile _ _ _ => inferInstanceAs (Decidable (_ ∨ _ ∨ _))
  | .ioctl _ _ _ _ => inferInstanceAs (Decidable (_ → _ → _ ∧ _))
  | .closeFile _ _ => .isTrue trivial

section steps
variable {h : Holding}

theorem afterOpen_state (state : OwnedState h) {k : Replies}
    (condition : h.isOpened ≠ 0 ∨ k.request ≠ 0 ∨ 0 ≤ k.direction) :
    OwnedState (h.afterOpen k) := by
  unfold Holding.afterOpen
  split_ifs with busy refused failed
  · exact state
  · cases state with
    | closed mode => exact .closed mode
    | io | it | abstract => exact absurd (by decide) busy
  · exact absurd failed (not_lt.mpr ((condition.resolve_left busy).resolve_left refused))
  · cases state with
    | closed mode => exact .io
    | io | it | abstract => exact absurd (by decide) busy

theorem afterOpen_condition {k : Replies} (owned : Owned (h.afterOpen k)) :
    h.isOpened ≠ 0 ∨ k.request ≠ 0 ∨ 0 ≤ k.direction := by
  by_contra violated
  simp only [not_or, not_not, not_le] at violated
  obtain ⟨closed, granted, failed⟩ := violated
  rw [Holding.afterOpen, if_neg (not_not.mpr closed), if_neg (not_not.mpr granted),
    if_pos failed] at owned
  exact Nat.succ_ne_zero _ (owned.closed closed).1

theorem afterClose_state (state : OwnedState h) (opened : h.isOpened = 1) :
    OwnedState h.afterClose := by
  cases state with
  | closed mode => exact absurd opened (show (0 : Word) ≠ 1 by decide)
  | io => exact .closed ioMode
  | it => exact .closed itMode
  | abstract => exact .closed 0

theorem afterSetInterrupt_state (state : OwnedState h) (opened : h.isOpened = 1) {arg : Word}
    {k : Replies} (condition : (arg = irqfTriggerRising ∨ arg = irqfTriggerFalling) →
      (h.mode = ioMode ∨ h.mode = itMode) ∧ k.irq = 0) :
    OwnedState (h.afterSetInterrupt arg k) := by
  unfold Holding.afterSetInterrupt
  by_cases invalid : arg ≠ irqfTriggerRising ∧ arg ≠ irqfTriggerFalling
  · rw [if_pos invalid]
    exact state
  · rw [if_neg invalid]
    obtain ⟨mode, granted⟩ := condition (by tauto)
    rw [Holding.requestIrq, if_pos granted]
    cases state with
    | closed mode => exact absurd opened (show (0 : Word) ≠ 1 by decide)
    | io | it => exact .it
    | abstract => exact absurd mode (by decide)

theorem afterSetInterrupt_condition (state : OwnedState h) (opened : h.isOpened = 1) {arg : Word}
    {k : Replies} (owned : Owned (h.afterSetInterrupt arg k))
    (valid : arg = irqfTriggerRising ∨ arg = irqfTriggerFalling) :
    (h.mode = ioMode ∨ h.mode = itMode) ∧ k.irq = 0 := by
  rw [Holding.afterSetInterrupt, if_neg (by tauto), Holding.requestIrq] at owned
  by_cases granted : k.irq = 0
  · rw [if_pos granted] at owned
    refine ⟨?_, granted⟩
    cases state with
    | closed mode => exact absurd opened (show (0 : Word) ≠ 1 by decide)
    | io => exact .inl rfl
    | it => exact .inr rfl
    | abstract => exact absurd owned.noStrayFree (by decide)
  · rw [if_neg granted] at owned
    cases state with
    | closed mode => exact absurd opened (show (0 : Word) ≠ 1 by decide)
    | io | it | abstract => exact absurd (owned.it rfl rfl).2 (by decide)

theorem afterFreeInterrupt_state (state : OwnedState h) (opened : h.isOpened = 1) (k : Replies) :
    OwnedState (h.afterFreeInterrupt k) := by
  unfold Holding.afterFreeInterrupt Holding.gpioRequest
  cases state with
  | closed mode => exact absurd opened (show (0 : Word) ≠ 1 by decide)
  | io => exact .io
  | it =>
      rw [if_neg (by decide)]
      by_cases granted : k.request = 0
      · rw [if_pos granted, if_neg (not_not.mpr granted)]
        exact .io
      · rw [if_neg granted, if_pos granted]
        exact .abstract
  | abstract => exact .abstract

end steps

def AllOwnedStates (s : GpioDriver) : Prop := ∀ g, OwnedState (s.holding g)

theorem gpioInitialize_owned (mux : Word → BitVec 16) : AllOwnedStates (gpioInitialize mux) := by
  intro g
  have loaded : (gpioInitialize mux).holding g =
      ⟨(saveRegisterAddr g initialAttributes).mode, 0, 0, 0, 0⟩ := by
    change Holding.mk _ (saveRegisterAddr g initialAttributes).isOpened 0 0 0 = _
    rw [saveRegisterAddr_isOpened]
    rfl
  rw [loaded]
  exact .closed _

theorem gpioNext_owned (s : GpioDriver) (e : GpioEvent) (h : AllOwnedStates s)
    (enabled : gpioEnabled s e) (condition : KeepsResources s e) :
    AllOwnedStates (gpioNext s e) := by
  intro g
  rw [gpioNext_holding]
  split
  · next same =>
      subst same
      cases e with
      | openFile minor openMode k => exact afterOpen_state (h minor) condition
      | closeFile minor k => exact afterClose_state (h minor) enabled
      | ioctl minor cmd arg k =>
          unfold Holding.next Holding.afterIoctl
          dsimp only
          split_ifs with set free
          · exact afterSetInterrupt_state (h minor) enabled (condition set)
          · exact afterFreeInterrupt_state (h minor) enabled k
          · exact h minor
  · exact h g

theorem keepsResources_of_owned (s : GpioDriver) (e : GpioEvent) (h : AllOwnedStates s)
    (enabled : gpioEnabled s e) (owned : AllOwned (gpioNext s e)) : KeepsResources s e := by
  have atMinor := owned e.minor
  rw [gpioNext_holding, if_pos rfl] at atMinor
  cases e with
  | openFile minor openMode k => exact afterOpen_condition atMinor
  | closeFile minor k => exact trivial
  | ioctl minor cmd arg k =>
      intro set valid
      subst set
      exact afterSetInterrupt_condition (h minor) enabled atMinor valid

/-- Along every run after the load the ownership law holds, and no release is called on a
resource not held, exactly if every step keeps the resources. -/
theorem ownership_iff {mux : Word → BitVec 16} {es : List GpioEvent}
    (admitted : gpioMachine.Admits (gpioInitialize mux) es) :
    gpioMachine.Always AllOwned (gpioInitialize mux) es ↔
      gpioMachine.EveryStep KeepsResources (gpioInitialize mux) es :=
  always_iff_everyStep (fun _ states g => (states g).owned)
    (fun s e states enabled condition => gpioNext_owned s e states enabled condition)
    (fun s e states enabled owned => keepsResources_of_owned s e states enabled owned)
    (gpioInitialize_owned mux) admitted

/-- A GPIO opened for reading, put into interrupt mode and back, and closed. -/
def interruptRun : List GpioEvent :=
  [.openFile 10 1 (.granted 0), .ioctl 10 gpioIoctlSetInterrupt irqfTriggerRising (.granted 0),
    .ioctl 10 gpioIoctlFreeInterrupt 0 (.granted 0), .closeFile 10 (.granted 0)]

theorem ownership_iff_interruptRun :
    gpioMachine.Always AllOwned (gpioInitialize fun _ => 0) interruptRun :=
  (ownership_iff (by decide +kernel)).mpr (by decide +kernel)

/-- `gpio_request` succeeds and `gpio_direction_input` fails. -/
def failedOpenRun : List GpioEvent := [.openFile 10 1 { Replies.granted 0 with direction := -5 }]

theorem ownership_refuted :
    ¬ ∀ (mux : Word → BitVec 16) (es : List GpioEvent),
      gpioMachine.Admits (gpioInitialize mux) es →
        gpioMachine.Always AllOwned (gpioInitialize mux) es := by
  intro every
  have owned := (every (fun _ => 0) failedOpenRun ⟨trivial, trivial⟩).last 10
  have leaked : (gpioMachine.run (gpioInitialize fun _ => 0) failedOpenRun).holding 10 =
      ⟨ioMode, 0, 1, 0, 0⟩ := by decide +kernel
  rw [leaked] at owned
  exact absurd (owned.closed rfl).1 (by decide)

end Gumstix.Gpio
