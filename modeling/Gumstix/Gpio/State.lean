import Gumstix.Library.RegisterBank
import Gumstix.Synchronization.State

/-!
# Data of the GPIO driver

The table of `GpioAttributes`, what the kernel has granted for each pin, and the mux
registers. `Gpio_initialize` registers the minors 0 to 191, so a minor is one of these
and the tests `minor < 0` of the system calls have no counterpart.
-/
namespace Gumstix.Gpio
open Gumstix.Synchronization (Word GeoDatationData GpsData)

abbrev driverDevRegisterNb : Nat := 192

abbrev Minor := Fin driverDevRegisterNb

instance : NeZero driverDevRegisterNb := ⟨by decide⟩

/-- `INPUT` and `OUTPUT`. -/
abbrev inputDirection : Word := 921
abbrev outputDirection : Word := 922

abbrev ioMode : Word := 931
abbrev itMode : Word := 932
abbrev maxDebounceValue : Word := 500
abbrev irqfTriggerRising : Word := 1
abbrev irqfTriggerFalling : Word := 2
abbrev initValue : Word := 255

/-- The values written to a mux register: GPIO mode and safe mode. -/
abbrev gpioMuxMode : BitVec 16 := 0x010C
abbrev safeMuxMode : BitVec 16 := 0x010F

/-- One entry of `m_pGpioAttributesTab`; of its arrays the first `nbMuxed` entries are used. -/
structure GpioAttributes where
  value : Word
  mode : Word
  direction : Word
  done : Word
  isOpened : Word
  triggerMode : Word
  msDebounceDelay : Word
  previousMode : Nat → Word
  defaultMode : Nat → Word
  nbMuxed : Nat
  registerAdress : Nat → Word
  lastItGDData : GeoDatationData

inductive PinDirection where
  | input
  | output
  deriving DecidableEq, Repr

/-- The kernel's view of a pin: how often `gpio_request` and `request_irq` have been
granted and not released, how often a release was called on nothing held, the direction
of the pin and the level it was last driven to. -/
structure Pin where
  requests : Nat
  interrupts : Nat
  strayFrees : Nat
  direction : PinDirection
  driven : Word
  deriving DecidableEq, Repr

structure GpioDriver where
  attributes : Minor → GpioAttributes
  pins : Minor → Pin
  mux : Word → BitVec 16

/-- The kernel calls that book a pin or its interrupt, and give it back. -/
inductive PinCall where
  | gpioRequest
  | gpioFree
  | requestIrq
  | freeIrq
  deriving DecidableEq, Repr

/-- What the kernel answers during one call of the driver: the results of `gpio_request`,
`gpio_direction_*` and `request_irq`, the level `gpio_get_value` reads, whether `ioremap`
maps the mux register of an index, the bytes `copy_to_user` leaves uncopied, and the direction
in which a call leaves a pin that it books or gives back. -/
structure Replies where
  request : Int
  direction : Int
  irq : Int
  level : Word
  ioremap : Nat → Bool
  notCopiedToUser : Nat
  leaves : PinCall → PinDirection → PinDirection

/-- The answers when every kernel call succeeds and none turns a pin around. -/
def Replies.granted (level : Word) : Replies := ⟨0, 0, 0, level, fun _ => true, 0, fun _ d => d⟩

section updates
variable (s : GpioDriver) (minor : Minor)

def GpioDriver.setAttributes (a : GpioAttributes) : GpioDriver :=
  { s with attributes := Function.update s.attributes minor a }

def GpioDriver.setPin (p : Pin) : GpioDriver :=
  { s with pins := Function.update s.pins minor p }

end updates

/-- A row of `SaveRegisterAddr`: the registers of consecutive GPIOs, two bytes apart. -/
structure RegisterRange where
  first : Nat
  last : Nat
  base : Word
  deriving DecidableEq, Repr

def registerRanges : List RegisterRange :=
  [⟨0, 0, 0x480021E0⟩, ⟨1, 1, 0x48002A06⟩, ⟨2, 10, 0x48002A0A⟩, ⟨11, 11, 0x48002A24⟩,
    ⟨12, 29, 0x480025D8⟩, ⟨30, 30, 0x48002A08⟩, ⟨31, 31, 0x48002A26⟩, ⟨32, 32, 0x4800223A⟩,
    ⟨34, 43, 0x4800207A⟩, ⟨44, 51, 0x4800209E⟩, ⟨52, 59, 0x480020B0⟩, ⟨60, 62, 0x480020C6⟩,
    ⟨63, 111, 0x480020CE⟩, ⟨112, 166, 0x48002134⟩, ⟨167, 167, 0x48002130⟩,
    ⟨168, 168, 0x480021BE⟩, ⟨169, 169, 0x480021B0⟩, ⟨170, 182, 0x480021C6⟩,
    ⟨183, 185, 0x480021C0⟩, ⟨186, 186, 0x480021E2⟩, ⟨187, 187, 0x48002238⟩,
    ⟨188, 191, 0x480021B2⟩]

/-- The second registers of the GPIOs that have two. -/
def multiMuxed : List (Nat × Word) :=
  [(120, 0x480021A2), (121, 0x480021A4), (122, 0x480021A6), (124, 0x480021A8),
    (125, 0x480021AA), (126, 0x48002132), (130, 0x480021AC), (131, 0x480021AE)]

def notMuxed : Nat := 33

def firstRegister (minor : Minor) : Option Word :=
  (registerRanges.find? fun r => r.first ≤ minor.val && minor.val ≤ r.last).map fun r =>
    r.base + 2 * BitVec.ofNat 32 (minor.val - r.first)

/-- `SaveRegisterAddr` on the entry of one GPIO. -/
def saveRegisterAddr (minor : Minor) (a : GpioAttributes) : GpioAttributes :=
  let a := match firstRegister minor with
    | some address => { a with registerAdress := Function.update a.registerAdress 0 address }
    | none => a
  let a := if minor.val = notMuxed then { a with nbMuxed := 0 } else a
  match multiMuxed.lookup minor.val with
  | some address =>
      { a with
        registerAdress := Function.update a.registerAdress 1 address
        nbMuxed := a.nbMuxed + 1 }
  | none => a

theorem saveRegisterAddr_isOpened (minor : Minor) (a : GpioAttributes) :
    (saveRegisterAddr minor a).isOpened = a.isOpened := by
  unfold saveRegisterAddr
  split <;> split <;> split <;> rfl

/-- The entry of a GPIO after the loop of `Gpio_initialize` that creates the devices. -/
def initialAttributes : GpioAttributes where
  value := initValue
  mode := ioMode
  direction := inputDirection
  done := 0
  isOpened := 0
  triggerMode := initValue
  msDebounceDelay := 0
  previousMode _ := safeMuxMode.setWidth 32
  defaultMode _ := safeMuxMode.setWidth 32
  nbMuxed := 1
  registerAdress _ := 0
  -- The table is a static variable and starts out zero.
  lastItGDData := ⟨GpsData.zero, 0, 0, 0⟩

/-- `SaveDefaultMode` on the entry of one GPIO, every `ioremap` succeeding. -/
def saveDefaultMode (mux : Word → BitVec 16) (a : GpioAttributes) : GpioAttributes :=
  { a with defaultMode := fun i =>
      if i < a.nbMuxed then (mux (a.registerAdress i)).setWidth 32 else a.defaultMode i }

/-- The mux registers of a GPIO: their number and their addresses. -/
def nbMuxed (minor : Minor) : Nat := (saveRegisterAddr minor initialAttributes).nbMuxed

def registerAdress (minor : Minor) : Nat → Word :=
  (saveRegisterAddr minor initialAttributes).registerAdress

def freePin : Pin := ⟨0, 0, 0, .input, 0⟩

/-- The driver after a `Gpio_initialize` that returns 0. -/
def gpioInitialize (mux : Word → BitVec 16) : GpioDriver where
  attributes minor := saveDefaultMode mux (saveRegisterAddr minor initialAttributes)
  pins _ := freePin
  mux := mux

/-- All mux registers, as pairs of a GPIO and an index. -/
def muxRegisters : List (Minor × Nat) :=
  (List.finRange driverDevRegisterNb).flatMap fun minor =>
    (List.range (nbMuxed minor)).map fun i => (minor, i)

set_option maxRecDepth 8000 in
/-- The addresses of the table are pairwise distinct. -/
theorem registerAdress_nodup :
    (muxRegisters.map fun r => registerAdress r.1 r.2).Nodup := by
  -- the offsets from the start of the GPIO block keep the mask small
  apply List.Nodup.of_map fun address => address.toNat - 0x48002000
  have distinct : RegisterBank.distinctFrom 0
      ((muxRegisters.map fun r => registerAdress r.1 r.2).map fun address =>
        address.toNat - 0x48002000) = true := by
    decide +kernel
  exact (RegisterBank.distinctFrom_spec distinct).1

end Gumstix.Gpio
