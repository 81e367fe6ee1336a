import Gumstix.Gpio.Transfers

/-!
# The class `CGPIO`

The object that a user program opens on one GPIO. `Read` and `Write` change the direction
of the GPIO by an ioctl where the direction kept in the object says so; no method writes
`m_iDirection` after the constructor.
-/
namespace Gumstix.Classes
open Gumstix.Synchronization (Word)
open Gumstix.Gpio
open EventMachine

def errCgpioOpenSpecifiedPath : Int := 4001
def errCgpioOpenGpioNotUseable : Int := 4002
def errCgpioOpenGpioDriverOpen : Int := 4003
def errCgpioOpenSetDirection : Int := 4004
def errCgpioOpenSetOutputValue : Int := 4005
def errCgpioOpenSpecifiedEvent : Int := 4006
def errCgpioOpenSpecifiedDebounceDelay : Int := 4007
def errCgpioOpenSetDebounceDelay : Int := 4008
def errCgpioOpenSetInterruptMode : Int := 4009
def errCgpioReadWrongMode : Int := 4051
def errCgpioReadSetDirection : Int := 4052
def errCgpioReadGpioDriverRead : Int := 4053
def errCgpioReadWrongReadValue : Int := 4054
def errCgpioWriteWrongMode : Int := 4101
def errCgpioWriteSetDirection : Int := 4102
def errCgpioWriteGpioDriverWrite : Int := 4103

def asciiBytes (text : String) : List Byte := text.toList.map fun c => BitVec.ofNat 8 c.toNat

def isDigit (b : Byte) : Bool := 0x30 ≤ b && b ≤ 0x39

def isSpace (b : Byte) : Bool := b = 0x20 || (0x09 ≤ b && b ≤ 0x0D)

def readDigits (n : Nat) : List Byte → Nat
  | [] => n
  | b :: bytes => if isDigit b then readDigits (10 * n + (b.toNat - 0x30)) bytes else n

/-- `atoi` as `strtol` with a 32-bit `long` computes it. -/
def atoi (bytes : List Byte) : Int :=
  let value : Int := match bytes.dropWhile isSpace with
    | 0x2D :: digits => -readDigits 0 digits
    | 0x2B :: digits => readDigits 0 digits
    | digits => readDigits 0 digits
  max (-2 ^ 31) (min (2 ^ 31 - 1) value)

abbrev maxGpioNb : Nat := 64

/-- `fd` is the GPIO that `m_fd` is open on, `none` for a negative descriptor. -/
structure CGpio where
  fd : Option Minor
  mode : Word
  direction : Word
  defaultValue : Bool
  activeEvent : Word
  delay : Word
  authorizedGpio : Vector Word maxGpioNb
  gpioPath : List Byte

/-- The assignments of `SetAuthorizeGpio`, index and number. -/
def authorizedNumbers : List (Nat × Word) :=
  [(0, 12), (1, 13), (2, 14), (3, 17), (4, 18), (5, 19), (6, 20), (7, 21), (8, 22), (9, 23),
    (10, 70), (11, 71), (12, 72), (13, 73), (14, 74), (15, 75), (16, 76), (17, 77), (18, 78),
    (19, 79), (20, 80), (21, 81), (22, 64), (23, 65), (24, 67), (25, 147), (26, 69), (37, 86),
    (28, 171), (29, 172), (30, 173), (31, 174), (32, 175), (33, 184), (34, 185)]

/-- On a table whose memory the constructor has not written before. -/
def setAuthorizeGpio (memory : Vector Word maxGpioNb) : Vector Word maxGpioNb :=
  authorizedNumbers.foldl (fun table (entry : Nat × Word) =>
    table.setIfInBounds entry.1 entry.2) memory

/-- The constructor for the Input/Output mode. -/
def cgpioInputOutput (memory : Vector Word maxGpioNb) (devicePath : List Byte) (direction : Word)
    (defaultValue : Bool) : CGpio where
  fd := none
  mode := ioMode
  direction := direction
  defaultValue := defaultValue
  activeEvent := 0
  delay := 0
  authorizedGpio := setAuthorizeGpio memory
  gpioPath := devicePath

/-- The constructor for the Interrupt mode. -/
def cgpioInterrupt (memory : Vector Word maxGpioNb) (devicePath : List Byte) (activeEvent : Word) :
    CGpio where
  fd := none
  mode := itMode
  direction := inputDirection
  defaultValue := false
  activeEvent := activeEvent
  delay := 0
  authorizedGpio := setAuthorizeGpio memory
  gpioPath := devicePath

/-- The local array of three characters has no room for a final zero: `atoi` reads on in the
bytes that follow it in memory. -/
def getuiGpioNum (gpioPath following : List Byte) : Word :=
  BitVec.ofInt 32 (atoi ((gpioPath.drop 9 ++ [0]).take 3 ++ following))

def searchOnTable (table : Vector Word maxGpioNb) (gpioNum : Word) : Bool :=
  table.toList.contains gpioNum

/-- The entry in `/dev` that `Gpio_initialize` creates for a minor. -/
def devEntry (minor : Minor) : List Byte :=
  let digit (n : Nat) : Byte := BitVec.ofNat 8 (0x30 + n % 10)
  asciiBytes "/dev/gpio" ++ [digit (minor.val / 100), digit (minor.val / 10), digit minor.val]

def findDevice (path : List Byte) : Option Minor :=
  (List.finRange driverDevRegisterNb).find? fun minor => devEntry minor = path

/-- What the kernel answers during `Open`: to the open and to the two ioctls after it. -/
structure OpenReplies where
  device : Replies
  first : Replies
  second : Replies

section methods
variable (o : CGpio) (d : GpioDriver)

/-- On a closed descriptor a system call fails with `EBADF`. -/
def ebadf : Int := 9

def CGpio.ioctl (cmd arg : Word) (k : Replies) : Int × GpioDriver :=
  match o.fd with
  | none => (-ebadf, d)
  | some minor => ((gpioIoctl d minor cmd arg k).ret, (gpioIoctl d minor cmd arg k).driver)

def CGpio.read (size : Nat) (k : Replies) : Option (ReadResult × GpioDriver) :=
  match o.fd with
  | none => some (⟨-ebadf, none⟩, d)
  | some minor => gpioRead d minor size k

def CGpio.write (buf : List Byte) (size : Nat) : Int × GpioDriver :=
  match o.fd with
  | none => (-ebadf, d)
  | some minor => gpioWrite d minor buf.head? size

/-- The end of `Open` in Input/Output mode. -/
def openInputOutput (k : OpenReplies) : Int × GpioDriver :=
  let (directed, d) := if o.direction = outputDirection then
      o.ioctl d gpioIoctlSetDirection outputDirection k.first
    else (0, d)
  if directed < 0 then (-errCgpioOpenSetDirection, d)
  else
    let (valued, d) := if o.defaultValue then o.ioctl d gpioIoctlSetOutputValue 1 k.second
      else (0, d)
    if valued < 0 then (-errCgpioOpenSetOutputValue, d) else (0, d)

/-- The end of `Open` in Interrupt mode. -/
def openInterrupt (k : OpenReplies) : Int × GpioDriver :=
  if o.activeEvent > 0x0000000F then (-errCgpioOpenSpecifiedEvent, d)
  else if o.delay > 500 then (-errCgpioOpenSpecifiedDebounceDelay, d)
  else
    let (delayed, d) := o.ioctl d gpioIoctlSetDebounceDelay o.delay k.first
    if delayed < 0 then (-errCgpioOpenSetDebounceDelay, d)
    else
      let (requested, d) := o.ioctl d gpioIoctlSetInterrupt o.activeEvent k.second
      if requested < 0 then (-errCgpioOpenSetInterruptMode, d) else (0, d)

/-- `O_RDWR` gives the file the modes `FMODE_READ` and `FMODE_WRITE`. -/
def readWriteMode : Word := 3

/-- `Open`: the returned value, the object and the driver after it. -/
def cgpioOpen (following : List Byte) (k : OpenReplies) : Int × CGpio × GpioDriver :=
  if o.gpioPath.take 9 ≠ asciiBytes "/dev/gpio" then (-errCgpioOpenSpecifiedPath, o, d)
  else if searchOnTable o.authorizedGpio (getuiGpioNum o.gpioPath following) = false then
    (-errCgpioOpenGpioNotUseable, o, d)
  else
    match findDevice o.gpioPath with
    | none => (-errCgpioOpenGpioDriverOpen, { o with fd := none }, d)
    | some minor =>
        let (opened, d) := gpioOpen d minor readWriteMode k.device
        if opened < 0 then (-errCgpioOpenGpioDriverOpen, { o with fd := none }, d)
        else
          let o := { o with fd := some minor }
          let (ret, d) := if o.mode = ioMode then openInputOutput o d k else openInterrupt o d k
          (ret, o, d)

/-- `sRxBuffer` after the read. -/
def rxBuffer (r : ReadResult) : List Byte :=
  match r.copied with
  | some (first, second) => [first, second]
  | none => [0, 0]

/-- What `Read` returns after the read of the driver. -/
def readConverted (r : ReadResult) : Int :=
  if r.ret < 0 then -errCgpioReadGpioDriverRead
  else
    let value : Word := BitVec.ofInt 32 (atoi (rxBuffer r))
    if value > 1 then -errCgpioReadWrongReadValue else value.toNat

/-- `Read`, with the answers during the ioctl and during the read; `none` where it sleeps. -/
def cgpioRead (k k' : Replies) : Option (Int × GpioDriver) :=
  if o.mode = itMode then some (-errCgpioReadWrongMode, d)
  else
    let (directed, d) := if o.direction = outputDirection then
        o.ioctl d gpioIoctlSetDirection inputDirection k
      else (0, d)
    if directed < 0 then some (-errCgpioReadSetDirection, d)
    else (o.read d 2 k').map fun (r, d) => (readConverted r, d)

def txBuffer (value : Bool) : List Byte := [if value then 0x31 else 0x30, 0]

def cgpioWrite (value : Bool) (k : Replies) : Int × GpioDriver :=
  if o.mode = itMode then (-errCgpioWriteWrongMode, d)
  else
    let (directed, d) := if o.direction = inputDirection then
        o.ioctl d gpioIoctlSetDirection outputDirection k
      else (0, d)
    if directed ≠ 0 then (-errCgpioWriteSetDirection, d)
    else
      let (written, d) := o.write d (txBuffer value) 2
      if written ≠ 2 then (-errCgpioWriteGpioDriverWrite, d) else (2, d)

end methods

/-- An `Open` that returns 0 has opened the GPIO and gone through its mode's configuration. -/
theorem cgpioOpen_zero {o o' : CGpio} {d d' : GpioDriver} {following : List Byte}
    {k : OpenReplies} (opened : cgpioOpen o d following k = (0, o', d')) :
    ∃ minor, o' = { o with fd := some minor } ∧
      0 ≤ (gpioOpen d minor readWriteMode k.device).1 ∧
      (if o.mode = ioMode then openInputOutput o' (gpioOpen d minor readWriteMode k.device).2 k
        else openInterrupt o' (gpioOpen d minor readWriteMode k.device).2 k) = (0, d') := by
  unfold cgpioOpen at opened
  split_ifs at opened with path useable
  · cases opened
  · cases opened
  · cases found : findDevice o.gpioPath with
    | none =>
        rw [found] at opened
        cases opened
    | some minor =>
        simp only [found] at opened
        refine ⟨minor, ?_⟩
        split_ifs at opened with failed io
        · cases opened
        · rw [Prod.mk.injEq, Prod.mk.injEq] at opened
          obtain ⟨ret, rfl, rfl⟩ := opened
          rw [if_pos io]
          exact ⟨rfl, not_lt.mp failed, Prod.ext ret rfl⟩
        · rw [Prod.mk.injEq, Prod.mk.injEq] at opened
          obtain ⟨ret, rfl, rfl⟩ := opened
          rw [if_neg io]
          exact ⟨rfl, not_lt.mp failed, Prod.ext ret rfl⟩

end Gumstix.Classes
