import Gumstix.Gpio.State
import Gumstix.Synchronization.Ioctl

/-!
# Operations of the GPIO driver

One definition for each function of the driver and for each command of `Gpio_ioctl`, the
kernel calls they make, and the machine that opens, closes and controls the GPIOs in any
order.
-/
namespace Gumstix.Gpio
open Gumstix.Synchronization (Word GeoDatationData UserStore ioc sizeofGeoDatationData)

def errForceGpioModeMuxUnavailable : Int := 1221
def errForceGpioModeMuxRequest : Int := 1222
def errRestorePreviousGpioModeMuxRequest : Int := 1241
def errOpenGpioBusyInDriver : Int := 1282
def errOpenGpioBusyOutDriver : Int := 1283
def errOpenGpioSetDirectionInput : Int := 1284
def errOpenGpioSetDirectionOutput : Int := 1285
def errIoctlWrongGpioMode : Int := 1361
def errIoctlWrongGpioDirection : Int := 1362
def errIoctlInterruptionRequest : Int := 1363
def errIoctlSpecifiedDirection : Int := 1364
def errIoctlSpecifiedOutputValue : Int := 1365
def errIoctlSpecifiedEvent : Int := 1366
def errIoctlSpecifiedDebounceValue : Int := 1367
def errIoctlSpecifiedIoctlCommand : Int := 1368
def errIoctlCopyGdDataToUser : Int := 1369

namespace Pin

/-- The pin in the direction in which a call leaves it. -/
def leftBy (p : Pin) (call : PinCall) (k : Replies) : Pin :=
  { p with direction := k.leaves call p.direction }

def gpioRequest (p : Pin) (k : Replies) : Pin :=
  let p := p.leftBy .gpioRequest k
  if k.request = 0 then { p with requests := p.requests + 1 } else p

def gpioFree (p : Pin) (k : Replies) : Pin :=
  let p := p.leftBy .gpioFree k
  if p.requests = 0 then { p with strayFrees := p.strayFrees + 1 }
  else { p with requests := p.requests - 1 }

def requestIrq (p : Pin) (k : Replies) : Pin :=
  let p := p.leftBy .requestIrq k
  if k.irq = 0 then { p with interrupts := p.interrupts + 1 } else p

def freeIrq (p : Pin) (k : Replies) : Pin :=
  let p := p.leftBy .freeIrq k
  if p.interrupts = 0 then { p with strayFrees := p.strayFrees + 1 }
  else { p with interrupts := p.interrupts - 1 }

def directionInput (p : Pin) (ret : Int) : Pin :=
  if ret < 0 then p else { p with direction := .input }

def directionOutput (p : Pin) (level : Word) (ret : Int) : Pin :=
  if ret < 0 then p else { p with direction := .output, driven := level }

def setValue (p : Pin) (level : Word) : Pin := { p with driven := level }

end Pin

section mux
variable (s : GpioDriver) (minor : Minor)

/-- The body of the loop of `ForceGpioMode`. -/
def forceRegister (registerToMux : Nat) (iCpt : Nat) : GpioDriver :=
  let a := s.attributes minor
  let addr := a.registerAdress iCpt
  { s.setAttributes minor { a with
      previousMode := Function.update a.previousMode iCpt ((s.mux addr).setWidth 32) } with
    mux := Function.update s.mux addr
      (if iCpt = registerToMux then gpioMuxMode else safeMuxMode) }

/-- The loop of `ForceGpioMode` over the given indices. -/
def forceRegisters (registerToMux : Nat) (ioremap : Nat → Bool) :
    GpioDriver → List Nat → Int × GpioDriver
  | s, [] => (0, s)
  | s, iCpt :: rest =>
      if ioremap iCpt then forceRegisters registerToMux ioremap
        (forceRegister s minor registerToMux iCpt) rest
      else (-errForceGpioModeMuxRequest, s)

def forceGpioMode (registerToMux : Nat) (ioremap : Nat → Bool) : Int × GpioDriver :=
  if (s.attributes minor).nbMuxed ≤ registerToMux then (-errForceGpioModeMuxUnavailable, s)
  else forceRegisters minor registerToMux ioremap s (List.range (s.attributes minor).nbMuxed)

/-- The body of the loop of `RestorePreviousGpioMode`; the mode to restore is a `u16`. -/
def restoreRegister (iCpt : Nat) : GpioDriver :=
  let a := s.attributes minor
  let addr := a.registerAdress iCpt
  let toRestoreMode : BitVec 16 := (a.previousMode iCpt).setWidth 16
  let current : Word := (s.mux addr).setWidth 32
  { s.setAttributes minor { a with
      previousMode := Function.update a.previousMode iCpt current } with
    mux := if current ≠ toRestoreMode.setWidth 32 then Function.update s.mux addr toRestoreMode
      else s.mux }

def restoreRegisters (ioremap : Nat → Bool) : GpioDriver → List Nat → Int × GpioDriver
  | s, [] => (0, s)
  | s, iCpt :: rest =>
      if ioremap iCpt then restoreRegisters ioremap (restoreRegister s minor iCpt) rest
      else (-errRestorePreviousGpioModeMuxRequest, s)

def restorePreviousGpioMode (ioremap : Nat → Bool) : Int × GpioDriver :=
  restoreRegisters minor ioremap s (List.range (s.attributes minor).nbMuxed)

end mux

section calls
variable (s : GpioDriver) (minor : Minor)

def GpioDriver.attribute (f : GpioAttributes → GpioAttributes) : GpioDriver :=
  s.setAttributes minor (f (s.attributes minor))

def GpioDriver.kernel (f : Pin → Pin) : GpioDriver := s.setPin minor (f (s.pins minor))

/-- The part of `Gpio_open` that sets the direction; `oOpenMode & 1` is the read mode. -/
def openDirection (openMode : Word) (k : Replies) : Int × GpioDriver :=
  if openMode &&& 1 ≠ 0 then
    let s := s.attribute minor fun a => { a with direction := inputDirection }
    let s := s.kernel minor fun p => p.directionInput k.direction
    let s := s.attribute minor fun a => { a with value := k.level }
    if k.direction < 0 then (-errOpenGpioSetDirectionInput, s) else (0, s)
  else
    let s := s.attribute minor fun a => { a with value := 0, direction := outputDirection }
    let s := s.kernel minor fun p => p.directionOutput 0 k.direction
    if k.direction < 0 then (-errOpenGpioSetDirectionOutput, s) else (0, s)

/-- The result of `ForceGpioMode` is not looked at. -/
def gpioOpen (openMode : Word) (k : Replies) : Int × GpioDriver :=
  if (s.attributes minor).isOpened ≠ 0 then (-errOpenGpioBusyInDriver, s)
  else
    let s := (forceGpioMode s minor 0 k.ioremap).2
    let s := s.kernel minor fun p => p.gpioRequest k
    if k.request ≠ 0 then
      (-errOpenGpioBusyOutDriver, s.attribute minor fun a => { a with isOpened := 0 })
    else
      let (iRet, s) := openDirection s minor openMode k
      if iRet < 0 then (iRet, s)
      else (0, s.attribute minor fun a => { a with mode := ioMode, done := 0, isOpened := 1 })

/-- The first part of `Gpio_close`, by the mode. -/
def closeRelease (k : Replies) : GpioDriver :=
  if (s.attributes minor).mode = ioMode then s.kernel minor fun p => p.gpioFree k
  else if (s.attributes minor).mode = itMode then s.kernel minor fun p => p.freeIrq k
  else s

def gpioClose (k : Replies) : Int × GpioDriver :=
  let s := closeRelease s minor k
  let s := s.attribute minor fun a => { a with isOpened := 0 }
  (0, (restorePreviousGpioMode s minor k.ioremap).2)

/-- What an interrupt on a GPIO records; `gdData` is what
`EXPORT_GD_DATA_FROM_SYNCHONIZATION_DRIVER` returns then. -/
def gpioIrqHandler (gdData : GeoDatationData) (level : Word) : GpioDriver :=
  s.attribute minor fun a => { a with lastItGDData := gdData, value := level, done := 1 }

/-- The returned value, the driver after the call and what was stored at `arg`. -/
structure IoctlResult where
  ret : Int
  driver : GpioDriver
  stored : Option UserStore

/-- The result of the kernel call is not looked at. -/
def setDirection (arg : Word) (k : Replies) : IoctlResult :=
  if (s.attributes minor).mode ≠ ioMode then ⟨-errIoctlWrongGpioMode, s, none⟩
  else if arg = inputDirection then
    let s := s.attribute minor fun a => { a with direction := inputDirection }
    let s := s.kernel minor fun p => p.directionInput k.direction
    ⟨0, s.attribute minor fun a => { a with value := k.level }, none⟩
  else if arg = outputDirection then
    let s := s.attribute minor fun a => { a with value := 0, direction := outputDirection }
    ⟨0, s.kernel minor fun p => p.directionOutput 0 k.direction, none⟩
  else ⟨-errIoctlSpecifiedDirection, s, none⟩

def setOutputValue (arg : Word) : IoctlResult :=
  if (s.attributes minor).mode ≠ ioMode then ⟨-errIoctlWrongGpioMode, s, none⟩
  else if (s.attributes minor).direction ≠ outputDirection then
    ⟨-errIoctlWrongGpioDirection, s, none⟩
  else if arg > 1 then ⟨-errIoctlSpecifiedOutputValue, s, none⟩
  else
    let s := s.attribute minor fun a => { a with value := arg }
    ⟨0, s.kernel minor fun p => p.setValue arg, none⟩

/-- `arg` is taken to be memory apart from the variables of the driver; the source stores there
unchecked. -/
def getInputValue (k : Replies) : IoctlResult :=
  if (s.attributes minor).mode ≠ ioMode then ⟨-errIoctlWrongGpioMode, s, none⟩
  else if (s.attributes minor).direction ≠ inputDirection then
    ⟨-errIoctlWrongGpioDirection, s, none⟩
  else ⟨0, s.attribute minor fun a => { a with value := k.level }, some (.word k.level)⟩

/-- What the GPIO has is released before its interrupt is requested. -/
def setInterruptRelease (k : Replies) : GpioDriver :=
  if (s.attributes minor).mode = itMode then s.kernel minor fun p => p.freeIrq k
  else (s.kernel minor fun p => p.gpioFree k).attribute minor fun a => { a with mode := itMode }

def setInterrupt (arg : Word) (k : Replies) : IoctlResult :=
  if arg ≠ irqfTriggerRising ∧ arg ≠ irqfTriggerFalling then ⟨-errIoctlSpecifiedEvent, s, none⟩
  else
    let s := setInterruptRelease s minor k
    let s := s.attribute minor fun a => { a with triggerMode := arg }
    let s := s.kernel minor fun p => p.requestIrq k
    if k.irq ≠ 0 then ⟨-errIoctlInterruptionRequest, s, none⟩
    else ⟨0, s.attribute minor fun a => { a with done := 0 }, none⟩

def setDebounceDelay (arg : Word) : IoctlResult :=
  if arg > maxDebounceValue then ⟨-errIoctlSpecifiedDebounceValue, s, none⟩
  else ⟨0, s.attribute minor fun a => { a with msDebounceDelay := arg }, none⟩

/-- It also wakes the sleeping readers, which this model leaves out. -/
def freeInterrupt (k : Replies) : IoctlResult :=
  if (s.attributes minor).mode ≠ itMode then ⟨-errIoctlWrongGpioMode, s, none⟩
  else
    let s := s.kernel minor fun p => p.freeIrq k
    let s := s.kernel minor fun p => p.gpioRequest k
    let s := s.attribute minor fun a => { a with mode := if k.request ≠ 0 then 0 else ioMode }
    ⟨0, s.attribute minor fun a => { a with done := 1 }, none⟩

def getLastItGdData (k : Replies) : IoctlResult :=
  if k.notCopiedToUser ≠ 0 then ⟨-errIoctlCopyGdDataToUser, s, none⟩
  else ⟨0, s, some (.geoDatation (s.attributes minor).lastItGDData)⟩

/-- `'G'`. -/
def gpioMagic : Word := 0x47

def gpioIoctlGetInputValue : Word := ioc 0 gpioMagic 0 0x51
def gpioIoctlGetLastItGdData : Word := ioc 3 gpioMagic sizeofGeoDatationData 0x52
def gpioIoctlSetDirection : Word := ioc 0 gpioMagic 0 0x53
def gpioIoctlSetOutputValue : Word := ioc 0 gpioMagic 0 0x54
def gpioIoctlSetInterrupt : Word := ioc 0 gpioMagic 0 0x55
def gpioIoctlSetDebounceDelay : Word := ioc 0 gpioMagic 0 0x56
def gpioIoctlFreeInterrupt : Word := ioc 0 gpioMagic 0 0x57

def gpioIoctl (cmd arg : Word) (k : Replies) : IoctlResult :=
  if cmd = gpioIoctlSetDirection then setDirection s minor arg k
  else if cmd = gpioIoctlSetOutputValue then setOutputValue s minor arg
  else if cmd = gpioIoctlGetInputValue then getInputValue s minor k
  else if cmd = gpioIoctlSetInterrupt then setInterrupt s minor arg k
  else if cmd = gpioIoctlSetDebounceDelay then setDebounceDelay s minor arg
  else if cmd = gpioIoctlFreeInterrupt then freeInterrupt s minor k
  else if cmd = gpioIoctlGetLastItGdData then getLastItGdData s minor k
  else ⟨-errIoctlSpecifiedIoctlCommand, s, none⟩

end calls

inductive GpioEvent where
  | openFile (minor : Minor) (openMode : Word) (k : Replies)
  | ioctl (minor : Minor) (cmd arg : Word) (k : Replies)
  | closeFile (minor : Minor) (k : Replies)

def GpioEvent.minor : GpioEvent → Minor
  | .openFile minor _ _ | .ioctl minor _ _ _ | .closeFile minor _ => minor

def GpioEvent.replies : GpioEvent → Replies
  | .openFile _ _ k | .ioctl _ _ _ k | .closeFile _ k => k

/-- Ioctls and closes come on a file that `Gpio_open` has opened. -/
def gpioEnabled (s : GpioDriver) : GpioEvent → Prop
  | .openFile _ _ _ => True
  | .ioctl minor _ _ _ => (s.attributes minor).isOpened = 1
  | .closeFile minor _ => (s.attributes minor).isOpened = 1

def gpioNext (s : GpioDriver) : GpioEvent → GpioDriver
  | .openFile minor openMode k => (gpioOpen s minor openMode k).2
  | .ioctl minor cmd arg k => (gpioIoctl s minor cmd arg k).driver
  | .closeFile minor k => (gpioClose s minor k).2

def gpioMachine : EventMachine GpioDriver GpioEvent := ⟨gpioEnabled, gpioNext⟩

instance (s : GpioDriver) : (e : GpioEvent) → Decidable (gpioMachine.enabled s e)
  | .openFile _ _ _ => .isTrue trivial
  | .ioctl _ _ _ _ => inferInstanceAs (Decidable (_ = _))
  | .closeFile _ _ => inferInstanceAs (Decidable (_ = _))

end Gumstix.Gpio
