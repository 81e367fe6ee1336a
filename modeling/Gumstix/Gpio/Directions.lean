import Gumstix.Gpio.OperationSpecs

/-!
# Directions of the GPIOs

The driver keeps the direction of a GPIO in its table and tests it before each read and each
write, and the pin has a direction of its own, which `gpio_direction_input` and
`gpio_direction_output` set unless they fail. The calls that book a pin or its interrupt and give
it back may leave it in any direction.
-/
namespace Gumstix.Gpio
open Gumstix.Synchronization (Word)
open EventMachine

def PinDirection.toWord : PinDirection → Word
  | .input => inputDirection
  | .output => outputDirection

/-- The direction in the entry of a GPIO is that of its pin. -/
def DirectionAgrees (s : GpioDriver) (g : Minor) : Prop :=
  (s.attributes g).direction = (s.pins g).direction.toWord

def gpioReturned (s : GpioDriver) : GpioEvent → Int
  | .openFile minor openMode k => (gpioOpen s minor openMode k).1
  | .ioctl minor cmd arg k => (gpioIoctl s minor cmd arg k).ret
  | .closeFile minor k => (gpioClose s minor k).1

/-- A `GPIO_IOCTL_SET_DIRECTION` whose kernel call fails. -/
def DirectionCallFails (s : GpioDriver) : GpioEvent → Prop
  | .ioctl minor cmd arg k =>
      cmd = gpioIoctlSetDirection ∧ (s.attributes minor).mode = ioMode ∧
        (arg = inputDirection ∨ arg = outputDirection) ∧ k.direction < 0
  | .openFile _ _ _ | .closeFile _ _ => False

instance (s : GpioDriver) : (e : GpioEvent) → Decidable (DirectionCallFails s e)
  | .ioctl _ _ _ _ => inferInstanceAs (Decidable (_ ∧ _ ∧ _ ∧ _))
  | .openFile _ _ _ | .closeFile _ _ => .isFalse id

/-- A `GPIO_IOCTL_FREE_INTERRUPT` that books a pin again whose direction is not the one in the
entry: `gpio_free` and `request_irq` of the `GPIO_IOCTL_SET_INTERRUPT` before it, or `free_irq`
and `gpio_request` here, have turned it around. -/
def ReturnsTurned (s : GpioDriver) : GpioEvent → Prop
  | .ioctl minor cmd _ k =>
      cmd = gpioIoctlFreeInterrupt ∧ (s.attributes minor).mode = itMode ∧ k.request = 0 ∧
        (s.attributes minor).direction ≠
          (k.leaves .gpioRequest (k.leaves .freeIrq (s.pins minor).direction)).toWord
  | .openFile _ _ _ | .closeFile _ _ => False

instance (s : GpioDriver) : (e : GpioEvent) → Decidable (ReturnsTurned s e)
  | .ioctl _ _ _ _ => inferInstanceAs (Decidable (_ ∧ _ ∧ _ ∧ _))
  | .openFile _ _ _ | .closeFile _ _ => .isFalse id

/-- What a call promises: after a 0 every GPIO open in `IO_MODE` has the direction of its pin
in its entry, and a kernel call that fails is reported. -/
structure DirectionBooked (s : GpioDriver) (e : GpioEvent) : Prop where
  agree : gpioReturned s e = 0 → ∀ g, ((gpioNext s e).attributes g).isOpened = 1 →
    ((gpioNext s e).attributes g).mode = ioMode → DirectionAgrees (gpioNext s e) g
  reported : DirectionCallFails s e → gpioReturned s e < 0

/-- A GPIO in `IO_MODE` has the direction of its pin in its entry. -/
def IoDirectionAgrees (s : GpioDriver) (g : Minor) : Prop :=
  (s.attributes g).mode = ioMode → DirectionAgrees s g

section updates
variable {s : GpioDriver} {minor : Minor}

theorem DirectionAgrees.attribute (h : DirectionAgrees s minor)
    {f : GpioAttributes → GpioAttributes} (keeps : ∀ a, (f a).direction = a.direction) :
    DirectionAgrees (s.attribute minor f) minor :=
  (attribute_field s minor minor GpioAttributes.direction keeps).trans h

theorem DirectionAgrees.kernel (h : DirectionAgrees s minor) {f : Pin → Pin}
    (keeps : ∀ p, (f p).direction = p.direction) : DirectionAgrees (s.kernel minor f) minor := by
  rw [DirectionAgrees, kernel_attributes, kernel_pins, Function.update_self, keeps]
  exact h

theorem IoDirectionAgrees.attribute (h : IoDirectionAgrees s minor)
    {f : GpioAttributes → GpioAttributes} (keeps : ∀ a, (f a).direction = a.direction)
    (same : ∀ a, (f a).mode = a.mode) : IoDirectionAgrees (s.attribute minor f) minor := by
  intro io
  rw [attribute_field s minor minor GpioAttributes.mode same] at io
  exact (h io).attribute keeps

theorem IoDirectionAgrees.kernel (h : IoDirectionAgrees s minor) {f : Pin → Pin}
    (keeps : ∀ p, (f p).direction = p.direction) : IoDirectionAgrees (s.kernel minor f) minor :=
  fun io => (h io).kernel keeps

theorem ioDirectionAgrees_of_mode (other : (s.attributes minor).mode ≠ ioMode) :
    IoDirectionAgrees s minor := fun io => absurd io other

/-- A kernel call that succeeds brings the pin to the direction written before. -/
theorem directionAgrees_set {f : GpioAttributes → GpioAttributes} {f' : Pin → Pin}
    (direction : PinDirection) (entry : ∀ a, (f a).direction = direction.toWord)
    (pin : ∀ p, (f' p).direction = direction) :
    DirectionAgrees ((s.attribute minor f).kernel minor f') minor := by
  rw [DirectionAgrees, kernel_attributes, attribute_attributes, kernel_pins, Function.update_self,
    Function.update_self, entry, pin]

end updates

section pins
variable (p : Pin)

theorem direction_gpioRequest (k : Replies) :
    (p.gpioRequest k).direction = k.leaves .gpioRequest p.direction := by
  unfold Pin.gpioRequest
  split <;> rfl

theorem direction_freeIrq (k : Replies) :
    (p.freeIrq k).direction = k.leaves .freeIrq p.direction := by
  unfold Pin.freeIrq
  dsimp only
  split <;> rfl

theorem direction_directionInput {ret : Int} (succeeds : 0 ≤ ret) :
    (p.directionInput ret).direction = .input := by
  rw [Pin.directionInput, if_neg (not_lt.mpr succeeds)]

theorem direction_directionOutput {ret : Int} (succeeds : 0 ≤ ret) (level : Word) :
    (p.directionOutput level ret).direction = .output := by
  rw [Pin.directionOutput, if_neg (not_lt.mpr succeeds)]

end pins

section calls
variable {s : GpioDriver} {minor : Minor}

/-- The two statements that set the input direction and read the level. -/
theorem toInput_agrees (s : GpioDriver) (minor : Minor) {k : Replies} (directed : 0 ≤ k.direction) :
    DirectionAgrees (((s.attribute minor fun a => { a with direction := inputDirection }).kernel
      minor fun p => p.directionInput k.direction).attribute minor fun a =>
        { a with value := k.level }) minor := by
  have set : DirectionAgrees ((s.attribute minor fun a =>
      { a with direction := inputDirection }).kernel minor fun p =>
        p.directionInput k.direction) minor :=
    directionAgrees_set .input (fun _ => rfl) fun p => direction_directionInput p directed
  exact set.attribute fun _ => rfl

theorem toOutput_agrees (s : GpioDriver) (minor : Minor) {k : Replies}
    (directed : 0 ≤ k.direction) :
    DirectionAgrees ((s.attribute minor fun a =>
      { a with value := 0, direction := outputDirection }).kernel minor fun p =>
        p.directionOutput 0 k.direction) minor :=
  directionAgrees_set .output (fun _ => rfl) fun p => direction_directionOutput p directed 0

theorem openDirection_agrees (s : GpioDriver) (minor : Minor) (openMode : Word) {k : Replies}
    (directed : 0 ≤ k.direction) : DirectionAgrees (openDirection s minor openMode k).2 minor := by
  unfold openDirection
  split_ifs with reads failed failed
  · exact absurd failed (not_lt.mpr directed)
  · exact toInput_agrees s minor directed
  · exact absurd failed (not_lt.mpr directed)
  · exact toOutput_agrees s minor directed

theorem setDirection_agrees (h : IoDirectionAgrees s minor) {arg : Word} {k : Replies}
    (answered : ¬ DirectionCallFails s (.ioctl minor gpioIoctlSetDirection arg k)) :
    IoDirectionAgrees (setDirection s minor arg k).driver minor := by
  unfold setDirection
  split_ifs with other toInput toOutput
  · exact h
  · exact fun _ => toInput_agrees s minor (not_lt.mp fun failed =>
      answered ⟨rfl, not_not.mp other, .inl toInput, failed⟩)
  · exact fun _ => toOutput_agrees s minor (not_lt.mp fun failed =>
      answered ⟨rfl, not_not.mp other, .inr toOutput, failed⟩)
  · exact h

/-- A GPIO whose interrupt has been asked for is no longer in `IO_MODE`. -/
theorem setInterrupt_agrees (h : IoDirectionAgrees s minor) (arg : Word) (k : Replies) :
    IoDirectionAgrees (setInterrupt s minor arg k).driver minor := by
  have interrupting : ((((setInterruptRelease s minor k).attribute minor fun a =>
      { a with triggerMode := arg }).kernel minor fun p => p.requestIrq k).attributes minor).mode =
        itMode := by
    rw [kernel_attributes, attribute_attributes, Function.update_self]
    exact setInterruptRelease_mode s minor k
  have other : itMode ≠ ioMode := by decide
  unfold setInterrupt
  split_ifs <;> dsimp only
  · exact h
  · exact ioDirectionAgrees_of_mode (interrupting ▸ other)
  · refine ioDirectionAgrees_of_mode ?_
    rw [attribute_attributes, Function.update_self]
    exact interrupting ▸ other

/-- The pin that `free_irq` and `gpio_request` leave, in the mode that `FREE_INTERRUPT` sets. -/
theorem freeInterrupt_agrees (h : IoDirectionAgrees s minor) {arg : Word} {k : Replies}
    (kept : ¬ ReturnsTurned s (.ioctl minor gpioIoctlFreeInterrupt arg k)) :
    IoDirectionAgrees (freeInterrupt s minor k).driver minor := by
  unfold freeInterrupt
  split_ifs with other refused
  · exact h
  · refine ioDirectionAgrees_of_mode ?_
    dsimp only
    rw [attribute_attributes, Function.update_self, attribute_attributes, Function.update_self]
    exact (by decide : (0 : Word) ≠ ioMode)
  · intro _
    dsimp only
    refine DirectionAgrees.attribute ?_ fun _ => rfl
    refine DirectionAgrees.attribute ?_ fun _ => rfl
    rw [DirectionAgrees, kernel_attributes, kernel_attributes, kernel_pins, Function.update_self,
      kernel_pins, Function.update_self, direction_gpioRequest, direction_freeIrq]
    by_contra turned
    exact kept ⟨rfl, not_not.mp other, not_not.mp refused, turned⟩

theorem gpioIoctl_agrees (h : IoDirectionAgrees s minor) {cmd arg : Word} {k : Replies}
    (answered : ¬ DirectionCallFails s (.ioctl minor cmd arg k))
    (kept : ¬ ReturnsTurned s (.ioctl minor cmd arg k)) :
    IoDirectionAgrees (gpioIoctl s minor cmd arg k).driver minor := by
  unfold gpioIoctl
  split_ifs with toSet _ _ _ _ toFree
  · subst toSet
    exact setDirection_agrees h answered
  · unfold setOutputValue
    split_ifs <;> dsimp only
    · exact h
    · exact h
    · exact h
    · refine IoDirectionAgrees.kernel ?_ fun _ => rfl
      exact h.attribute (fun _ => rfl) fun _ => rfl
  · unfold getInputValue
    split_ifs <;> dsimp only
    · exact h
    · exact h
    · exact h.attribute (fun _ => rfl) fun _ => rfl
  · exact setInterrupt_agrees h arg k
  · unfold setDebounceDelay
    split_ifs <;> dsimp only
    · exact h
    · exact h.attribute (fun _ => rfl) fun _ => rfl
  · subst toFree
    exact freeInterrupt_agrees h kept
  · unfold getLastItGdData
    split_ifs
    · exact h
    · exact h
  · exact h

theorem openRequested_isOpened (s : GpioDriver) (minor : Minor) (k : Replies) :
    ((openRequested s minor k).attributes minor).isOpened = (s.attributes minor).isOpened := by
  obtain ⟨b, forced⟩ := forceGpioMode_withBank s minor 0 k.ioremap
  rw [openRequested, forced, kernel_attributes, withBank_attributes, Function.update_self]

theorem openDirection_isOpened (s : GpioDriver) (minor : Minor) (openMode : Word) (k : Replies) :
    ((openDirection s minor openMode k).2.attributes minor).isOpened =
      (s.attributes minor).isOpened := by
  unfold openDirection
  split_ifs <;> simp only [attribute_attributes, kernel_attributes, Function.update_self]

theorem gpioIoctl_isOpened (s : GpioDriver) (minor : Minor) (cmd arg : Word) (k : Replies) :
    ((gpioIoctl s minor cmd arg k).driver.attributes minor).isOpened =
      (s.attributes minor).isOpened := by
  refine gpioIoctl_kept (P := fun s' => (s'.attributes minor).isOpened =
    (s.attributes minor).isOpened) ?_ (fun same => same) cmd arg k rfl
  intro s' f update same
  exact (attribute_field s' minor minor GpioAttributes.isOpened
    fun a => (update a).isOpened).trans same

theorem gpioClose_isOpened (s : GpioDriver) (minor : Minor) (k : Replies) :
    ((gpioClose s minor k).2.attributes minor).isOpened = 0 := by
  obtain ⟨b, restored⟩ := restorePreviousGpioMode_withBank
    ((closeRelease s minor k).attribute minor fun a => { a with isOpened := 0 }) minor k.ioremap
  unfold gpioClose
  dsimp only
  rw [restored, withBank_attributes, Function.update_self, attribute_attributes,
    Function.update_self]

end calls

/-- Every GPIO open in `IO_MODE` has the direction of its pin in its entry. -/
def OpenDirectionsAgree (s : GpioDriver) : Prop :=
  ∀ g, (s.attributes g).isOpened = 1 → IoDirectionAgrees s g

section runs
variable {s : GpioDriver} {e : GpioEvent}

theorem gpioOpen_agrees {minor : Minor} (h : OpenDirectionsAgree s) (openMode : Word)
    (k : Replies) (opened : ((gpioOpen s minor openMode k).2.attributes minor).isOpened = 1) :
    IoDirectionAgrees (gpioOpen s minor openMode k).2 minor := by
  have outcome := gpioOpen_outcome s minor openMode k
  generalize (gpioOpen s minor openMode k).2 = s' at outcome opened ⊢
  cases outcome with
  | busy busy => exact h minor opened
  | refused free refused =>
      rw [attribute_attributes, Function.update_self] at opened
      exact absurd opened (show (0 : Word) ≠ 1 by decide)
  | undirected free granted failed =>
      rw [openDirection_isOpened, openRequested_isOpened, free] at opened
      exact absurd opened (by decide)
  | opened free granted directed =>
      exact fun _ => (openDirection_agrees _ minor openMode directed).attribute fun _ => rfl

theorem gpioNext_directionsAgree (h : OpenDirectionsAgree s) (answered : ¬ DirectionCallFails s e)
    (kept : ¬ ReturnsTurned s e) : OpenDirectionsAgree (gpioNext s e) := by
  intro g opened
  by_cases same : g = e.minor
  · subst same
    cases e with
    | openFile minor openMode k => exact gpioOpen_agrees h openMode k opened
    | ioctl minor cmd arg k =>
        refine gpioIoctl_agrees (h minor ?_) answered kept
        exact (gpioIoctl_isOpened s minor cmd arg k).symm.trans opened
    | closeFile minor k =>
        exact absurd ((gpioClose_isOpened s minor k).symm.trans opened) (by decide)
  · obtain ⟨entry, pin⟩ := gpioNext_onlyAt s e g same
    rw [entry] at opened
    rw [IoDirectionAgrees, DirectionAgrees, entry, pin]
    exact h g opened

/-- The result of the kernel call is not looked at. -/
theorem returned_of_directionCallFails (fails : DirectionCallFails s e) : gpioReturned s e = 0 := by
  cases e with
  | openFile | closeFile => exact fails.elim
  | ioctl minor cmd arg k =>
      obtain ⟨rfl, mode, valid, -⟩ := fails
      rw [gpioReturned, gpioIoctl, if_pos rfl, setDirection, if_neg (not_not.mpr mode)]
      rcases valid with rfl | rfl
      · rfl
      · rfl

/-- The call returns 0, and the pin that it books again disagrees with the entry. -/
theorem not_directionBooked_of_returnsTurned (enabled : gpioEnabled s e)
    (turned : ReturnsTurned s e) : ¬ DirectionBooked s e := by
  cases e with
  | openFile | closeFile => exact turned.elim
  | ioctl minor cmd arg k =>
      obtain ⟨rfl, mode, granted, turned⟩ := turned
      have call : gpioIoctl s minor gpioIoctlFreeInterrupt arg k = freeInterrupt s minor k := rfl
      intro booked
      have agree := booked.agree
      simp only [gpioReturned, gpioNext, call] at agree
      unfold freeInterrupt at agree
      rw [if_neg (not_not.mpr mode), granted] at agree
      have agrees := agree rfl minor ?_ ?_
      · rw [DirectionAgrees] at agrees
        simp only [attribute_attributes, attribute_pins, kernel_attributes, kernel_pins,
          Function.update_self, direction_gpioRequest, direction_freeIrq] at agrees
        exact turned agrees
      · simp only [attribute_attributes, kernel_attributes, Function.update_self]
        exact enabled
      · simp only [attribute_attributes, Function.update_self]
        rfl

theorem directionBooked_iff (h : OpenDirectionsAgree s) (enabled : gpioEnabled s e) :
    DirectionBooked s e ↔ ¬ DirectionCallFails s e ∧ ¬ ReturnsTurned s e := by
  constructor
  · intro booked
    refine ⟨fun fails => ?_, fun turned => ?_⟩
    · exact absurd (booked.reported fails) (returned_of_directionCallFails fails).not_lt
    · exact not_directionBooked_of_returnsTurned enabled turned booked
  · rintro ⟨answered, kept⟩
    exact ⟨fun _ g opened io => gpioNext_directionsAgree h answered kept g opened io,
      fun fails => absurd fails answered⟩

theorem gpioInitialize_directionsAgree (mux : Word → BitVec 16) :
    OpenDirectionsAgree (gpioInitialize mux) := by
  intro g opened
  change (saveRegisterAddr g initialAttributes).isOpened = 1 at opened
  rw [saveRegisterAddr_isOpened] at opened
  exact absurd opened (by decide)

end runs

/-- Along every run after the load all calls keep their promise, exactly if no
`GPIO_IOCTL_SET_DIRECTION` is refused by the kernel and no `GPIO_IOCTL_FREE_INTERRUPT` gets the
pin back with another direction. -/
theorem directions_booked_iff {mux : Word → BitVec 16} {es : List GpioEvent}
    (admitted : gpioMachine.Admits (gpioInitialize mux) es) :
    gpioMachine.EveryStep DirectionBooked (gpioInitialize mux) es ↔
      gpioMachine.EveryStep (fun s e => ¬ DirectionCallFails s e ∧ ¬ ReturnsTurned s e)
        (gpioInitialize mux) es :=
  everyStep_iff_everyStep (I := OpenDirectionsAgree)
    (fun _ _ h _ condition => gpioNext_directionsAgree h condition.1 condition.2)
    (fun _ _ h enabled => directionBooked_iff h enabled) (gpioInitialize_directionsAgree mux)
    admitted

/-- A kernel whose `gpio_free` leaves the pin an input. -/
def freedToInput : Replies :=
  { Replies.granted 0 with
    leaves := fun call direction => if call = .gpioFree then .input else direction }

/-- The kernel refuses the direction at the first open, which fails, and no later one; a GPIO that
is an input comes back from its interrupt as an input. -/
def directedRun : List GpioEvent :=
  [.openFile 10 1 { Replies.granted 0 with direction := -5 }, .openFile 10 1 (.granted 0),
    .ioctl 10 gpioIoctlSetInterrupt irqfTriggerRising freedToInput,
    .ioctl 10 gpioIoctlFreeInterrupt 0 freedToInput,
    .ioctl 10 gpioIoctlSetDirection outputDirection (.granted 0), .closeFile 10 freedToInput]

theorem directions_booked_iff_directedRun :
    gpioMachine.EveryStep DirectionBooked (gpioInitialize fun _ => 0) directedRun :=
  (directions_booked_iff (by decide +kernel)).mpr (by decide +kernel)

/-- A GPIO is opened for reading, and its change to output fails. -/
def refusedDirectionRun : List GpioEvent :=
  [.openFile 10 1 (.granted 0),
    .ioctl 10 gpioIoctlSetDirection outputDirection { Replies.granted 0 with direction := -5 }]

theorem directions_booked_refuted :
    ¬ ∀ (mux : Word → BitVec 16) (es : List GpioEvent),
      gpioMachine.Admits (gpioInitialize mux) es →
        gpioMachine.EveryStep DirectionBooked (gpioInitialize mux) es := by
  intro every
  have booked := every (fun _ => 0) refusedDirectionRun (by decide +kernel)
  have reported := booked.2.1.reported (by decide +kernel)
  exact absurd reported (by decide +kernel)

end Gumstix.Gpio
