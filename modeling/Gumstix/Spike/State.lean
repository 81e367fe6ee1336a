import Gumstix.Library.BlockHeap
import Gumstix.Library.EventMachine
import Gumstix.Synchronization.Ioctl

/-!
# The spike driver

The driver of the LM74 sensor has a transmit and a receive buffer of 4 bytes and, from the
first open on, a user buffer of 128 bytes for the texts that it returns or logs. Its calls
are taken whole.
-/
namespace Gumstix.Spike
open Gumstix.Synchronization (Word ioc)

abbrev Byte := BitVec 8

def spiBuffSize : Nat := 4
def userBuffSize : Nat := 128

def efault : Int := 14
def enodev : Int := 19
def enomem : Int := 12
def enotty : Int := 25
def erestartsys : Int := 512

/-- The magic number is `'L'`. -/
def lm74IoctlSetMode : Word := ioc 1 0x4C 4 0x50
def shutdownMode : Word := 0xFF
def contconvMode : Word := 0x00

/-- Pointers are numbers of blocks of the heap, which holds their bytes; `offset` has the
position of each open file. -/
structure SpikeDriver where
  txBuff : Nat
  rxBuff : Nat
  spiDevice : Bool
  userBuff : Option Nat
  heap : BlockHeap (List Byte)
  openFiles : Nat
  offset : Nat → Nat

/-- What a call gets from its environment: whether a signal comes at one of the semaphores,
whether `kmalloc` finds memory, what `spi_sync` returns and receives, the status it leaves in
the message, and how many bytes a copy to the user leaves uncopied. -/
structure SpikeReplies where
  fopInterrupted : Bool
  spiInterrupted : Bool
  allocated : Bool
  spiSync : Word
  received : List Byte
  messageStatus : Word
  notCopied : Nat
  deriving DecidableEq

/-- No signal, and everything succeeds. -/
def SpikeReplies.granted (received : List Byte) : SpikeReplies :=
  ⟨false, false, true, 0, received, 0, 0⟩

/-- The contents of a new block are never read before they are written. -/
def kmalloc (h : BlockHeap (List Byte)) (size : Nat) : BlockHeap (List Byte) :=
  h.alloc (List.replicate size 0)

/-- After a `spike_init` that returns 0; the probe is an event of its own. -/
def spikeInit : SpikeDriver where
  txBuff := 0
  rxBuff := 1
  spiDevice := false
  userBuff := none
  heap := kmalloc (kmalloc ⟨[]⟩ spiBuffSize) spiBuffSize
  openFiles := 0
  offset _ := 0

def charByte (c : Char) : Byte := BitVec.ofNat 8 c.toNat

/-- The bytes of a string with its final zero. -/
def cString (text : String) : List Byte := text.toList.map charByte ++ [0]

def strlen (content : List Byte) : Nat := (content.takeWhile (· ≠ 0)).length

/-- Bytes written from the start of a block; what goes beyond its end is lost here. -/
def overlay (bytes content : List Byte) : List Byte :=
  bytes.take content.length ++ content.drop bytes.length

@[simp] theorem length_overlay (bytes content : List Byte) :
    (overlay bytes content).length = content.length := by
  rw [overlay, List.length_append, List.length_take, List.length_drop]
  omega

def doOneMessageFailed (status : Int) : String :=
  "spike_do_one_message failed : " ++ toString status ++ "\n"

def lm74ConfigMessageFailed (status : Int) : String :=
  "spike_do_one_lm74_config_message failed : " ++ toString status ++ "\n"

/-- The four bytes that the message has received. -/
def receivedText (messageStatus : Int) (rx : List Byte) : String :=
  "Status: " ++ toString messageStatus ++ "\nRX: " ++ toString (rx.getD 0 0).toNat ++ " " ++
    toString (rx.getD 1 0).toNat ++ " " ++ toString (rx.getD 2 0).toNat ++ " " ++
      toString (rx.getD 3 0).toNat ++ "\n"

section calls
variable (d : SpikeDriver) (k : SpikeReplies)

def SpikeDriver.write (block : Nat) (bytes : List Byte) : SpikeDriver :=
  { d with heap := d.heap.update block (overlay bytes) }

/-- A write through `user_buff`. -/
def SpikeDriver.writeUser (bytes : List Byte) : SpikeDriver :=
  match d.userBuff with
  | none => d
  | some b => d.write b bytes

def SpikeDriver.bytes (block : Nat) : List Byte := (d.heap.content block).getD []

def SpikeDriver.userBytes : List Byte :=
  match d.userBuff with
  | none => []
  | some b => d.bytes b

/-- The semaphore, the test of the device, the preparation of the message and `spi_sync`. -/
def transfer (command : List Byte) : SpikeDriver × Int :=
  if k.spiInterrupted then (d, -erestartsys)
  else if d.spiDevice then
    (((d.write d.txBuff command).write d.rxBuff (List.replicate spiBuffSize 0)).write d.rxBuff
      (k.received.take command.length), k.spiSync.toInt)
  else (d, -enodev)

def spikeDoOneMessage : SpikeDriver × Int := transfer d k [0, 0]

def spikeDoOneLm74ConfigMessage (mode : Word) : SpikeDriver × Int :=
  if mode ≠ shutdownMode ∧ mode ≠ contconvMode then (d, -enotty)
  else transfer d k [0, 0, 0, mode.setWidth 8]

/-- A call: the driver after it, its return value, the text that it writes into the user
buffer and the bytes that it copies to the user. -/
structure Outcome where
  driver : SpikeDriver
  ret : Int
  text : Option String
  copied : List Byte

/-- The copy to the user and the end of `spike_read`. -/
def readCopy (file : Nat) (count : Word) (text : Option String) : Outcome :=
  let content := d.userBytes
  let n := if strlen content < count.toNat then strlen content else count.toNat
  let done : SpikeDriver :=
    if k.notCopied ≠ 0 then d
    else { d with offset := Function.update d.offset file (d.offset file + n) }
  { driver := (done.writeUser [0, 0]).write d.rxBuff [0, 0]
    ret := if k.notCopied ≠ 0 then -efault else n
    text := text
    copied := (content.take n).take (n - k.notCopied) }

/-- `spike_read`; a transfer that succeeds makes the receive buffer the user buffer. -/
def spikeRead (file : Nat) (buffIsNull : Bool) (count : Word) : Outcome :=
  if buffIsNull then ⟨d, -efault, none, []⟩
  else if 0 < d.offset file then ⟨d, 0, none, []⟩
  else if k.fopInterrupted then ⟨d, -erestartsys, none, []⟩
  else
    let sent := (spikeDoOneMessage d k).1
    let status := (spikeDoOneMessage d k).2
    if status ≠ 0 then
      readCopy (sent.writeUser (cString (doOneMessageFailed status))) k file count
        (some (doOneMessageFailed status))
    else readCopy { sent with userBuff := some sent.rxBuff } k file count none

def spikeIoctl (cmd arg : Word) : Outcome :=
  if cmd = lm74IoctlSetMode then
    let sent := (spikeDoOneLm74ConfigMessage d k arg).1
    let status := (spikeDoOneLm74ConfigMessage d k arg).2
    let text :=
      if status ≠ 0 then lm74ConfigMessageFailed status
      else receivedText k.messageStatus.toInt (sent.bytes sent.rxBuff)
    ⟨sent.writeUser (cString text), 0, some text, []⟩
  else ⟨d, -enotty, none, []⟩

/-- A file that is opened is at its start. -/
def SpikeDriver.newFile : SpikeDriver :=
  { d with
    openFiles := d.openFiles + 1
    offset := Function.update d.offset d.openFiles 0 }

def spikeOpen : Outcome :=
  if k.fopInterrupted then ⟨d, -erestartsys, none, []⟩
  else
    match d.userBuff with
    | some _ => ⟨d.newFile, 0, none, []⟩
    | none =>
        if k.allocated then
          let heap := kmalloc d.heap userBuffSize
          ⟨{ d with userBuff := some d.heap.fresh, heap }.newFile, 0, none, []⟩
        else ⟨d, -enomem, none, []⟩

/-- `spike_exit`, as far as the buffers are concerned. -/
def spikeExit : SpikeDriver :=
  { d with heap := ((d.heap.free d.txBuff).free d.rxBuff).freeAt d.userBuff }

end calls

inductive SpikeEvent where
  | openFile (k : SpikeReplies)
  | read (file : Nat) (buffIsNull : Bool) (count : Word) (k : SpikeReplies)
  | ioctl (file : Nat) (cmd arg : Word) (k : SpikeReplies)
  | probe
  | remove
  deriving DecidableEq

def spikeCall (d : SpikeDriver) : SpikeEvent → Outcome
  | .openFile k => spikeOpen d k
  | .read file buffIsNull count k => spikeRead d k file buffIsNull count
  | .ioctl _ cmd arg k => spikeIoctl d k cmd arg
  | .probe => ⟨{ d with spiDevice := true }, 0, none, []⟩
  | .remove => ⟨{ d with spiDevice := false }, 0, none, []⟩

/-- Reads and commands work on an open file. -/
def spikeEnabled (d : SpikeDriver) : SpikeEvent → Prop
  | .read file _ _ _ | .ioctl file _ _ _ => file < d.openFiles
  | .openFile _ | .probe | .remove => True

def spikeMachine : EventMachine SpikeDriver SpikeEvent :=
  ⟨spikeEnabled, fun d e => (spikeCall d e).driver⟩

instance (d : SpikeDriver) : (e : SpikeEvent) → Decidable (spikeMachine.enabled d e)
  | .read _ _ _ _ | .ioctl _ _ _ _ => inferInstanceAs (Decidable (_ < _))
  | .openFile _ | .probe | .remove => .isTrue trivial

end Gumstix.Spike
