import Gumstix.Gpio.Calls

/-!
# Transfers as whole calls

`Gpio_read` where it needs no sleep, `Gpio_write` and the change of direction, as a process
sees them that nobody disturbs.
-/
namespace Gumstix.Gpio
open Gumstix.Synchronization (Word)

def errWriteSpecifiedSize : Int := 1342
def errWriteSpecifiedBuffer : Int := 1343
def errWriteWrongGpioMode : Int := 1344
def errWriteWrongGpioDirection : Int := 1345

abbrev Byte := BitVec 8

section calls
variable (s : GpioDriver) (minor : Minor)

/-- At most `n` statements of a read; `none` when it is not over by then. -/
def readOn (k : Replies) : Nat → GpioDriver → ReadPhase → Option (ReadResult × GpioDriver)
  | 0, _, _ => none
  | n + 1, s, phase =>
      match readStatement s minor k false phase with
      | (s, .inl next) => readOn k n s next
      | (s, .inr r) => some (r, s)

/-- A read that does not sleep takes three statements; `none` when it sleeps. -/
def gpioRead (size : Nat) (k : Replies) : Option (ReadResult × GpioDriver) :=
  match readChecks (s.attributes minor) size with
  | .error ret => some (⟨ret, none⟩, s)
  | .ok phase => readOn minor k 3 s phase

/-- `buf` is the first byte of the buffer, `none` for a null pointer. -/
def gpioWrite (buf : Option Byte) (size : Nat) : Int × GpioDriver :=
  if size < 2 then (-errWriteSpecifiedSize, s)
  else
    match buf with
    | none => (-errWriteSpecifiedBuffer, s)
    | some first =>
        if (s.attributes minor).mode ≠ ioMode then (-errWriteWrongGpioMode, s)
        else if (s.attributes minor).direction ≠ outputDirection then
          (-errWriteWrongGpioDirection, s)
        else
          let value : Word := if first = 0 ∨ first = 0x30 then 0 else 1
          let s := s.attribute minor fun a => { a with value := value }
          (size, s.kernel minor fun p => p.setValue value)

/-- The GPIO is in Input/Output mode with the given direction. -/
structure Directed (direction : Word) : Prop where
  mode : (s.attributes minor).mode = ioMode
  direction : (s.attributes minor).direction = direction

variable {s minor}

theorem Directed.attribute {direction : Word} (h : Directed s minor direction)
    {f : GpioAttributes → GpioAttributes} (mode : ∀ a, (f a).mode = a.mode)
    (same : ∀ a, (f a).direction = a.direction) :
    Directed (s.attribute minor f) minor direction := by
  constructor
  · rw [attribute_field s minor minor GpioAttributes.mode mode]
    exact h.mode
  · rw [attribute_field s minor minor GpioAttributes.direction same]
    exact h.direction

theorem Directed.kernel {direction : Word} (h : Directed s minor direction) (f : Pin → Pin) :
    Directed (s.kernel minor f) minor direction := ⟨h.mode, h.direction⟩

theorem Directed.redirect {direction direction' : Word} (h : Directed s minor direction)
    {f : GpioAttributes → GpioAttributes} (mode : ∀ a, (f a).mode = a.mode)
    (set : ∀ a, (f a).direction = direction') :
    Directed (s.attribute minor f) minor direction' := by
  constructor
  · rw [attribute_field s minor minor GpioAttributes.mode mode]
    exact h.mode
  · rw [attribute_attributes, Function.update_self]
    exact set _

theorem gpioRead_input (h : Directed s minor inputDirection) {size : Nat} (large : 2 ≤ size)
    (k : Replies) :
    gpioRead s minor size k = some (readCopy k.level k.notCopiedToUser,
      s.attribute minor fun a => { a with value := k.level }) := by
  have checks : readChecks (s.attributes minor) size = .ok .sampling := by
    rw [readChecks, if_neg (Nat.not_lt.mpr large), if_neg (fun wrong => wrong.2 h.direction),
      if_pos h.mode]
  rw [gpioRead, checks]
  simp only [readOn, readStatement, attribute_attributes, Function.update_self]

theorem gpioRead_output (h : Directed s minor outputDirection) {size : Nat} (large : 2 ≤ size)
    (k : Replies) :
    gpioRead s minor size k = some (⟨-errReadWrongGpioDirection, none⟩, s) := by
  have wrong : (s.attributes minor).direction ≠ inputDirection := by
    rw [h.direction]
    decide
  rw [gpioRead, readChecks, if_neg (Nat.not_lt.mpr large), if_pos ⟨h.mode, wrong⟩]

theorem gpioWrite_output (h : Directed s minor outputDirection) {size : Nat} (large : 2 ≤ size)
    (first : Byte) :
    gpioWrite s minor (some first) size =
      ((size : Int), (s.attribute minor fun a =>
        { a with value := if first = 0 ∨ first = 0x30 then 0 else 1 }).kernel minor fun p =>
          p.setValue (if first = 0 ∨ first = 0x30 then 0 else 1)) := by
  unfold gpioWrite
  rw [if_neg (Nat.not_lt.mpr large)]
  dsimp only
  rw [if_neg (not_not.mpr h.mode), if_neg (not_not.mpr h.direction)]

theorem gpioWrite_input (h : Directed s minor inputDirection) {size : Nat} (large : 2 ≤ size)
    (first : Byte) :
    gpioWrite s minor (some first) size = (-errWriteWrongGpioDirection, s) := by
  have wrong : (s.attributes minor).direction ≠ outputDirection := by
    rw [h.direction]
    decide
  unfold gpioWrite
  rw [if_neg (Nat.not_lt.mpr large)]
  dsimp only
  rw [if_neg (not_not.mpr h.mode), if_pos wrong]

theorem ioctl_setDirection_input {direction : Word} (h : Directed s minor direction) (k : Replies) :
    (gpioIoctl s minor gpioIoctlSetDirection inputDirection k).ret = 0 ∧
      Directed (gpioIoctl s minor gpioIoctlSetDirection inputDirection k).driver minor
        inputDirection := by
  rw [gpioIoctl, if_pos rfl, setDirection, if_neg (not_not.mpr h.mode), if_pos rfl]
  refine ⟨rfl, ?_⟩
  have redirected := (h.redirect (f := fun a => { a with direction := inputDirection })
    (fun _ => rfl) (fun _ => rfl)).kernel fun p => p.directionInput k.direction
  exact redirected.attribute (f := fun a => { a with value := k.level }) (fun _ => rfl)
    (fun _ => rfl)

theorem ioctl_setDirection_output {direction : Word} (h : Directed s minor direction)
    (k : Replies) :
    (gpioIoctl s minor gpioIoctlSetDirection outputDirection k).ret = 0 ∧
      Directed (gpioIoctl s minor gpioIoctlSetDirection outputDirection k).driver minor
        outputDirection ∧
      (gpioIoctl s minor gpioIoctlSetDirection outputDirection k).driver.pins minor =
        (s.pins minor).directionOutput 0 k.direction := by
  rw [gpioIoctl, if_pos rfl, setDirection, if_neg (not_not.mpr h.mode), if_neg (by decide),
    if_pos rfl]
  refine ⟨rfl, ?_, ?_⟩
  · exact (h.redirect (f := fun a => { a with value := 0, direction := outputDirection })
      (fun _ => rfl) (fun _ => rfl)).kernel fun p => p.directionOutput 0 k.direction
  · exact Function.update_self minor _ _

theorem openDirection_input (s : GpioDriver) (minor : Minor) {openMode : Word} {k : Replies}
    (reads : openMode &&& 1 ≠ 0) (directed : 0 ≤ k.direction) :
    ((openDirection s minor openMode k).2.attributes minor).direction = inputDirection ∧
      ((openDirection s minor openMode k).2.pins minor).direction = .input := by
  rw [openDirection, if_pos reads]
  dsimp only
  rw [if_neg (not_lt.mpr directed)]
  simp [Pin.directionInput, not_lt.mpr directed]

/-- A file opened for reading, or for both, starts out in input direction. -/
theorem gpioOpen_directed (s : GpioDriver) (minor : Minor) {openMode : Word} {k : Replies}
    (reads : openMode &&& 1 ≠ 0) (opened : 0 ≤ (gpioOpen s minor openMode k).1) :
    Directed (gpioOpen s minor openMode k).2 minor inputDirection ∧
      ((gpioOpen s minor openMode k).2.pins minor).direction = .input := by
  revert opened
  unfold gpioOpen
  split_ifs with busy refused
  · intro opened
    change 0 ≤ -errOpenGpioBusyInDriver at opened
    exact absurd opened (by decide)
  · intro opened
    change 0 ≤ -errOpenGpioBusyOutDriver at opened
    exact absurd opened (by decide)
  · have lost := openDirection_ret (openRequested s minor k) minor openMode k
    dsimp only
    split_ifs with failed
    · exact fun opened => absurd opened (not_le.mpr failed)
    · intro _
      obtain ⟨direction, pin⟩ := openDirection_input (openRequested s minor k) minor reads
        (not_lt.mp (mt lost.mpr failed))
      refine ⟨⟨?_, ?_⟩, pin⟩
      · rw [attribute_attributes, Function.update_self]
      · rw [attribute_attributes, Function.update_self]
        exact direction

end calls

end Gumstix.Gpio
