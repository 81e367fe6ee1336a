import Gumstix.Library.BlockHeap
import Gumstix.Synchronization.Ioctl

/-!
# State of the CAN SPI driver

The driver reads samples from the SPI bus with one message, one transfer and one receive
buffer, which are static. Its calls are split into the statements between which the
completion of a transfer, a signal or another process may come.
-/
namespace Gumstix.CanSpi
open Gumstix.Synchronization (Word ioc)

abbrev Byte := BitVec 8

def spiBuffSize : Nat := 4000
def userBuffSize : Nat := 128
def spiBusSpeed : Word := 100000

def efault : Int := 14
def eintr : Int := 4
def enodev : Int := 19
def enomem : Int := 12
def erestartsys : Int := 512

/-- `'G'`. -/
def spiIoMagic : Word := 0x47

def cmdSpiStart : Word := ioc 0 spiIoMagic 0 0x80
def cmdSpiStop : Word := ioc 0 spiIoMagic 0 0x81
def cmdSpiFrequency : Word := ioc 1 spiIoMagic 4 0x82
def cmdSpiBitsPerWord : Word := ioc 1 spiIoMagic 4 0x84
def cmdSpiNbEch : Word := ioc 1 spiIoMagic 4 0x85
def cmdTest : Word := ioc 1 spiIoMagic 4 0x86

/-- The variables of the driver. `inFlight` counts the submissions of the message that
`spi_async` has accepted and whose completion handler has not run; `openFiles` counts the
open files. Pointers are numbers of blocks of the heap, whose contents are sizes. -/
structure Driver where
  running : Word
  rxbuff : Option Nat
  busy : Word
  spiCallbacks : Word
  busyCounter : Word
  txBuff : Nat
  rxBuff : Nat
  transferLen : Word
  transferRxBuf : Option Nat
  spiLocked : Bool
  fopSem : Nat
  spiDevice : Bool
  maxSpeedHz : Word
  bitsPerWord : Word
  userBuff : Option Nat
  heap : BlockHeap Nat
  inFlight : Nat
  openFiles : Nat

/-- After an `ifsttar_can_spi_init` that returns 0; the probe is an event of its own. -/
def canSpiInit : Driver where
  running := 0
  rxbuff := none
  busy := 0
  spiCallbacks := 0
  busyCounter := 0
  txBuff := 0
  rxBuff := 1
  transferLen := 0
  transferRxBuf := none
  spiLocked := false
  fopSem := 1
  spiDevice := false
  maxSpeedHz := spiBusSpeed
  bitsPerWord := 16
  userBuff := none
  heap := ((BlockHeap.mk []).alloc spiBuffSize).alloc spiBuffSize
  inFlight := 0
  openFiles := 0

/-- `ifsttar_can_spi_exit`, as far as the buffers are concerned. -/
def canSpiExit (d : Driver) : Driver :=
  { d with heap := (d.heap.free d.txBuff).freeAt d.userBuff }

/-- What a statement gets from its environment: whether a signal is pending, what
`spi_async` returns, whether `kmalloc` finds memory, how many bytes a copy from or to the
user leaves uncopied, and the bytes that a write passes. -/
structure Replies where
  signalPending : Bool
  asyncStatus : Int
  allocated : Bool
  notCopied : Nat
  userBytes : List Byte
  deriving DecidableEq

/-- No signal, and everything succeeds. -/
def Replies.granted : Replies := ⟨false, 0, true, 0, []⟩

inductive Call where
  | openFile
  | read (buffIsNull : Bool) (count : Word)
  | write (count : Word)
  | ioctl (cmd arg : Word)
  deriving DecidableEq

/-- Before which statement of a call a process is. A waiting process is in
`down_interruptible`, a read that is `asleep` in `interruptible_sleep_on`. -/
inductive Phase where
  | outside
  /-- `CMD_SPI_START`: the lock, the test of the device and `spi_async`. -/
  | submitting
  | unlocking (status : Int)
  /-- `if (status == 0) busy = 1` -/
  | marking (status : Int)
  /-- `running = 1` in the submission -/
  | started (status : Int)
  | readWaiting (count : Word)
  /-- `if (running == 0)` -/
  | testing (count : Word)
  | parking (count : Word)
  | asleep (count : Word)
  | woken (count : Word)
  | copying (count : Word)
  | readReleasing (status : Int)
  /-- `running = 1` at the end of the read -/
  | finishing (status : Int)
  | writeWaiting (count : Word)
  | writing (count : Word)
  | writeReleasing (status : Int)
  | openWaiting
  | opening
  | openReleasing (status : Int)
  deriving DecidableEq

section statements
variable (d : Driver) (k : Replies)

/-- `down_interruptible`: without the semaphore a process waits, or leaves on a signal. -/
def down (taken waiting : Phase) : Driver × (Phase ⊕ Int) :=
  if 0 < d.fopSem then ({ d with fopSem := d.fopSem - 1 }, .inl taken)
  else if k.signalPending then (d, .inr (-erestartsys))
  else (d, .inl waiting)

def up : Driver := { d with fopSem := d.fopSem + 1 }

def toLower (b : Byte) : Byte := if 0x41 ≤ b ∧ b ≤ 0x5A then b + 0x20 else b

/-- `strnicmp (…, "start", 5)` finds no difference. -/
def isStart (received : List Byte) : Bool :=
  (received.take 5).map toLower = [0x73, 0x74, 0x61, 0x72, 0x74]

/-- The body of `ifsttar_can_spi_write`: its status and the driver after it. -/
def writeBody (count : Word) : Driver × Int :=
  let len := if count > 8 then 8 else count.toNat
  if k.notCopied ≠ 0 then (d, -efault)
  else if isStart (k.userBytes.take len) ∧ d.busy = 0 then
    ({ d with spiCallbacks := 0, busyCounter := 0 }, count.toInt)
  else (d, count.toInt)

/-- The body of `ifsttar_can_spi_open`. No read sleeps in the wait queue that it initialises, as a
read sleeps with the semaphore; `spi_poll`, whose callers may, is left out. -/
def openBody : Driver × Int :=
  match d.userBuff with
  | some _ => (d, 0)
  | none =>
      if k.allocated then
        ({ d with userBuff := some d.heap.fresh, heap := d.heap.alloc userBuffSize }, 0)
      else (d, -enomem)

/-- A statement: the driver after it, and where the call goes on or what it returns. -/
def statement : Phase → Driver × (Phase ⊕ Int)
  | .outside => (d, .inl .outside)
  | .submitting =>
      let status := if d.spiDevice then k.asyncStatus else -enodev
      ({ d with
          spiLocked := true
          inFlight := if status = 0 then d.inFlight + 1 else d.inFlight },
        .inl (.unlocking status))
  | .unlocking status => ({ d with spiLocked := false }, .inl (.marking status))
  | .marking status => (if status = 0 then { d with busy := 1 } else d, .inl (.started status))
  | .started status => ({ d with running := 1 }, .inr status)
  | .readWaiting count => down d k (.testing count) (.readWaiting count)
  | .testing count => (d, .inl (if d.running = 0 then .copying count else .parking count))
  | .parking count => (d, .inl (.asleep count))
  | .asleep count => (d, .inl (.asleep count))
  -- This return leaves the semaphore taken.
  | .woken count => if k.signalPending then (d, .inr (-eintr)) else (d, .inl (.copying count))
  | .copying count =>
      (d, .inl (.readReleasing (if k.notCopied ≠ 0 then -efault else count.toInt)))
  | .readReleasing status => (up d, .inl (.finishing status))
  | .finishing status => ({ d with running := 1 }, .inr status)
  | .writeWaiting count => down d k (.writing count) (.writeWaiting count)
  | .writing count => ((writeBody d k count).1, .inl (.writeReleasing (writeBody d k count).2))
  | .writeReleasing status => (up d, .inr status)
  | .openWaiting => down d k .opening .openWaiting
  | .opening => ((openBody d k).1, .inl (.openReleasing (openBody d k).2))
  | .openReleasing status =>
      ({ up d with openFiles := if status = 0 then d.openFiles + 1 else d.openFiles },
        .inr status)

/-- `Spi_ioctl`; a start goes on after the message has been initialised. -/
def spiIoctl (cmd arg : Word) : Driver × (Phase ⊕ Int) :=
  if cmd = cmdSpiStart then ({ d with transferRxBuf := some d.rxBuff }, .inl .submitting)
  else if cmd = cmdSpiStop then ({ d with transferLen := 0 }, .inr 0)
  else if cmd = cmdSpiFrequency then ({ d with maxSpeedHz := d.bitsPerWord * arg }, .inr 0)
  else if cmd = cmdSpiBitsPerWord then
    if arg ≠ 8 ∧ arg ≠ 16 ∧ arg ≠ 32 then (d, .inr (-1))
    else ({ d with bitsPerWord := arg }, .inr 0)
  else if cmd = cmdSpiNbEch then
    if arg < 160 ∨ arg > 10000 then (d, .inr (-1)) else ({ d with transferLen := arg }, .inr 0)
  else if cmd = cmdTest then (d, .inr 0)
  else (d, .inr (-1))

/-- The first statements of a call, up to the semaphore or the lock. -/
def startCall : Call → Driver × (Phase ⊕ Int)
  | .openFile => (d, .inl .openWaiting)
  | .read buffIsNull count =>
      if buffIsNull then (d, .inr (-efault)) else (d, .inl (.readWaiting count))
  | .write count => (d, .inl (.writeWaiting count))
  | .ioctl cmd arg => spiIoctl d cmd arg

/-- `ifsttar_can_spi_completion_handler`, without the wake-up. It is one step, although the source
wakes the readers before it sets `running` to 0. -/
def completionHandler : Driver :=
  { d with
    spiCallbacks := d.spiCallbacks + 1
    busy := 0
    rxbuff := d.transferRxBuf
    running := 0
    inFlight := d.inFlight - 1 }

/-- `ifsttar_can_spi_close` frees the buffer and keeps the pointer. -/
def closeFile : Driver :=
  { d with heap := d.heap.freeAt d.userBuff, openFiles := d.openFiles - 1 }

end statements

end Gumstix.CanSpi
