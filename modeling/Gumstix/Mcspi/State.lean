import Gumstix.Library.MaskedWrites
import Gumstix.Library.WordMemory
import Gumstix.Synchronization.State

/-!
# Data of the McSPI driver

The controller driver of the SPI bus. A channel of the controller has a configuration and a control
register; what passes through its data registers is recorded here in pulses of the chip select. The
words and bits of the registers are those of `omap2_mcspi.c`.
-/
namespace Gumstix.Mcspi
open Gumstix.Synchronization (Word)
open WordMemory (Memory)

abbrev Byte := BitVec 8

def omap2McspiMaxFreq : Word := 48000000
def dmaMinBytes : Word := 160

def einval : Int := 22
def eio : Int := 5
def enomem : Int := 12
def eagain : Int := 11

def bit (n : Nat) : Word := 1 <<< n

def chconfPha : Word := bit 0
def chconfPol : Word := bit 1
def chconfClkdMask : Word := 0x0f <<< 2
def chconfEpol : Word := bit 6
def chconfWlMask : Word := 0x1f <<< 7
def chconfTrmRxOnly : Word := bit 12
def chconfTrmTxOnly : Word := bit 13
def chconfTrmMask : Word := 0x03 <<< 12
def chconfDmaw : Word := bit 14
def chconfDmar : Word := bit 15
def chconfDpe0 : Word := bit 16
def chconfDpe1 : Word := bit 17
def chconfIs : Word := bit 18
def chconfTurbo : Word := bit 19
def chconfForce : Word := bit 20
def chctrlEn : Word := bit 0

/-- The bits of `spi->mode`. -/
def spiCpha : Byte := 0x01
def spiCpol : Byte := 0x02
def spiCsHigh : Byte := 0x04

/-- What the driver reads of a device; `turboMode` is that of its controller data, and false without
them. -/
structure SpiDevice where
  mode : Byte
  bitsPerWord : Byte
  maxSpeedHz : Word
  turboMode : Bool
  deriving DecidableEq, Repr

/-- A buffer is the memory from its start on, `none` for a null pointer. -/
structure Transfer where
  txBuf : Option Memory
  rxBuf : Option Memory
  len : Word
  speedHz : Word
  bitsPerWord : Byte
  csChange : Bool

/-- A word that passes a data register, and the registers at that moment. -/
structure Exchange where
  chconf : Word
  chctrl : Word
  word : Word
  deriving DecidableEq, Repr

/-- What passes while the chip select stays active. -/
structure Pulse where
  sent : List Exchange
  received : List Exchange
  deriving DecidableEq, Repr

/-- The registers of a channel, the current pulse, the finished ones and what has passed without the
chip select, the oldest first. -/
structure Registers where
  chconf : Word
  chctrl : Word
  pulse : Option Pulse
  pulses : List Pulse
  strays : List Exchange
  deriving DecidableEq, Repr

def Pulse.empty : Pulse := ⟨[], []⟩

def isOn (l mask : Word) : Bool := l &&& mask ≠ 0

section registers
variable (r : Registers)

/-- The chip select is active while `FORCE` is set. -/
def Registers.writeChconf (l : Word) : Registers :=
  match isOn l chconfForce, r.pulse with
  | true, none => { r with chconf := l, pulse := some .empty }
  | false, some p => { r with chconf := l, pulse := none, pulses := r.pulses ++ [p] }
  | _, _ => { r with chconf := l }

def Registers.exchange (w : Word) : Exchange := ⟨r.chconf, r.chctrl, w⟩

/-- In receive-only mode a write starts the reception, and the word is not sent. -/
def Registers.writeTx (w : Word) : Registers :=
  if r.chconf &&& chconfTrmMask = chconfTrmRxOnly then r
  else
    match r.pulse with
    | some p => { r with pulse := some { p with sent := p.sent ++ [r.exchange w] } }
    | none => { r with strays := r.strays ++ [r.exchange w] }

def Registers.readRx (w : Word) : Registers :=
  match r.pulse with
  | some p => { r with pulse := some { p with received := p.received ++ [r.exchange w] } }
  | none => { r with strays := r.strays ++ [r.exchange w] }

end registers

/-- `chconf0` is the shadow of the configuration register in `omap2_mcspi_cs`. -/
structure Channel where
  wordLen : Nat
  chconf0 : Word
  registers : Registers
  deriving DecidableEq, Repr

def modRegBit (val mask : Word) (set : Bool) : Word :=
  if set then val ||| mask else val &&& ~~~mask

section channel
variable (c : Channel)

/-- `mcspi_write_chconf0` -/
def writeChconf0 (l : Word) : Channel :=
  { c with chconf0 := l, registers := c.registers.writeChconf l }

/-- `omap2_mcspi_set_dma_req` -/
def setDmaReq (isRead enable : Bool) : Channel :=
  writeChconf0 c (modRegBit c.chconf0 (if isRead then chconfDmar else chconfDmaw) enable)

/-- `omap2_mcspi_set_enable` -/
def setEnable (enable : Bool) : Channel :=
  { c with registers := { c.registers with chctrl := if enable then chctrlEn else 0 } }

/-- `omap2_mcspi_force_cs` -/
def forceCs (csActive : Bool) : Channel :=
  writeChconf0 c (modRegBit c.chconf0 chconfForce csActive)

def writeTx (w : Word) : Channel := { c with registers := c.registers.writeTx w }

def readRx (w : Word) : Channel := { c with registers := c.registers.readRx w }

/-- `omap2_mcspi_calc_divisor` -/
def calcDivisor (speedHz : Word) : Nat :=
  ((List.range 15).find? fun div => omap2McspiMaxFreq >>> div ≤ speedHz).getD 15

/-- The configuration that `omap2_mcspi_setup_transfer` makes of an old one. -/
def setupChconf (mode wordLen : Byte) (speedHz l : Word) : Word :=
  let l := l &&& ~~~(chconfIs ||| chconfDpe1)
  let l := l ||| chconfDpe0
  let l := l &&& ~~~chconfWlMask
  let l := l ||| ((wordLen.setWidth 32 - 1) <<< 7)
  let l := if mode &&& spiCsHigh = 0 then l ||| chconfEpol else l &&& ~~~chconfEpol
  let l := l &&& ~~~chconfClkdMask
  let l := l ||| (BitVec.ofNat 32 (calcDivisor speedHz) <<< 2)
  let l := if mode &&& spiCpol ≠ 0 then l ||| chconfPol else l &&& ~~~chconfPol
  if mode &&& spiCpha ≠ 0 then l ||| chconfPha else l &&& ~~~chconfPha

/-- The word length in force for a transfer, or for the device without one. -/
def wordLenOf (d : SpiDevice) (t : Option Transfer) : Byte :=
  match t with
  | some t => if t.bitsPerWord ≠ 0 then t.bitsPerWord else d.bitsPerWord
  | none => d.bitsPerWord

/-- The rate in force for a transfer, or for the device without one. -/
def speedOf (d : SpiDevice) (t : Option Transfer) : Word :=
  let speedHz :=
    match t with
    | some t => if t.speedHz ≠ 0 then t.speedHz else d.maxSpeedHz
    | none => d.maxSpeedHz
  if speedHz < omap2McspiMaxFreq then speedHz else omap2McspiMaxFreq

/-- `omap2_mcspi_setup_transfer`, which returns 0. -/
def setupTransfer (d : SpiDevice) (t : Option Transfer) : Channel :=
  writeChconf0 { c with wordLen := (wordLenOf d t).toNat }
    (setupChconf d.mode (wordLenOf d t) (speedOf d t) c.chconf0)

end channel

end Gumstix.Mcspi
