import Gumstix.Mcspi.Transfers

/-!
# Messages of the McSPI driver

A message is a list of transfers for one device. It is validated as a whole before anything passes;
its long transfers are then mapped for the DMA. The work on a message ends at the first transfer
that does not deliver its full length.
-/
namespace Gumstix.Mcspi
open Gumstix.Synchronization (Word)
open WordMemory (Memory)

structure Message where
  transfers : List Transfer
  isDmaMapped : Bool

/-- A transfer that the DMA makes. -/
def Transfer.byDma (x : Transfer) (isDmaMapped : Bool) : Bool :=
  x.len ≠ 0 ∧ (isDmaMapped ∨ dmaMinBytes ≤ x.len)

inductive DmaDirection where
  | toDevice
  | fromDevice
  deriving DecidableEq, Repr

/-- A buffer for the DMA: the number of its transfer in the message, and its direction. The device
is left out: the source maps for `mcspi->dev` and unmaps for `&spi->dev`. -/
abbrev Mapping := Nat × DmaDirection

/-- The buffers of a transfer, the transmit buffer first. -/
def mappingsOf (x : Transfer) (i : Nat) : List Mapping :=
  (if x.txBuf.isSome then [(i, .toDevice)] else []) ++
    if x.rxBuf.isSome then [(i, .fromDevice)] else []

/-- The variables of `omap2_mcspi_work`, the receive buffers of the transfers that have been made,
and the mappings that have been undone. -/
structure Work where
  csActive : Bool
  parOverride : Bool
  status : Int
  actualLength : Word
  channel : Channel
  rxBufs : List (Option Memory)
  unmapped : List Mapping

/-- What the line answers in each transfer, by its number. -/
abbrev Replies := Nat → LineReplies

section work
variable (d : SpiDevice) (isDmaMapped : Bool) (x : Transfer) (r : LineReplies) (i : Nat) (w : Work)

/-- A transfer that brings settings of its own. -/
def Transfer.overrides : Bool := x.speedHz ≠ 0 ∨ x.bitsPerWord ≠ 0

/-- `setup_transfer` for a transfer that overrides, and for the one after it. -/
def workSetup : Work :=
  if w.parOverride ∨ x.overrides then
    { w with
      channel := setupTransfer w.channel d (some x)
      status := 0
      parOverride := x.overrides }
  else w

def workSelect : Work :=
  if w.csActive then w else { w with channel := forceCs w.channel true, csActive := true }

/-- The transmit and receive mode and the turbo mode of a transfer. -/
def transferChconf (wordLen : Nat) (l : Word) : Word :=
  let l := l &&& ~~~chconfTrmMask
  let l := l &&& ~~~chconfTurbo
  let l :=
    if x.txBuf.isNone then l ||| chconfTrmRxOnly
    else if x.rxBuf.isNone then l ||| chconfTrmTxOnly
    else l
  if d.turboMode ∧ x.txBuf.isNone ∧ (wordLen + 7) >>> 3 < x.len.toNat then l ||| chconfTurbo else l

def workMode : Work :=
  { w with
    channel := writeChconf0 w.channel (transferChconf d x w.channel.wordLen w.channel.chconf0) }

/-- The words of a transfer, if it has any, and whether all of them have passed. A reception is
started by a dummy word. -/
def workExchange : Work × Bool :=
  if x.len = 0 then ({ w with rxBufs := w.rxBufs ++ [x.rxBuf] }, true)
  else
    let c := if x.txBuf.isNone then writeTx w.channel 0 else w.channel
    let moved := txrx x r c isDmaMapped
    let w :=
      { w with
        channel := moved.channel
        actualLength := w.actualLength + moved.count
        rxBufs := w.rxBufs ++ [moved.rxBuf]
        unmapped := w.unmapped ++
          if isDmaMapped ∨ dmaMinBytes ≤ x.len then mappingsOf x i else [] }
    if moved.count = x.len then (w, true) else ({ w with status := -eio }, false)

def workDeselect : Work :=
  if x.csChange then { w with channel := forceCs w.channel false, csActive := false } else w

/-- A turn of the loop, and whether it does not `break`. -/
def workTurn : Work × Bool :=
  if x.txBuf.isNone ∧ x.rxBuf.isNone ∧ x.len ≠ 0 then ({ w with status := -einval }, false)
  else
    let exchanged := workExchange isDmaMapped x r i (workMode d x (workSelect (workSetup d x w)))
    if exchanged.2 then (workDeselect x exchanged.1, true) else exchanged

/-- `list_for_each_entry`, and whether the loop has come to its end. -/
def workLoop (replies : Replies) : List Transfer → Nat → Work → Work × Bool
  | [], _, w => (w, true)
  | x :: transfers, i, w =>
      let turn := workTurn d isDmaMapped x (replies i) i w
      if turn.2 then workLoop replies transfers (i + 1) turn.1 else turn

/-- Restore defaults if they were overridden. -/
def workRestore : Work :=
  if w.parOverride then
    { w with channel := setupTransfer w.channel d none, status := 0, parOverride := false }
  else w

def workEnd : Work :=
  let w := workRestore d w
  let c := if w.csActive then forceCs w.channel false else w.channel
  { w with channel := setEnable c false }

end work

def workStart (c : Channel) : Work := ⟨false, false, 0, 0, setEnable c true, [], []⟩

/-- `omap2_mcspi_work` -/
def omap2McspiWork (d : SpiDevice) (m : Message) (replies : Replies) (c : Channel) : Work :=
  workEnd d (workLoop d m.isDmaMapped replies m.transfers 0 (workStart c)).1

/-- A transfer that is refused. -/
def Transfer.invalid (x : Transfer) : Bool :=
  omap2McspiMaxFreq < x.speedHz ∨ (x.len ≠ 0 ∧ ¬ (x.rxBuf.isSome ∨ x.txBuf.isSome)) ∨
    (x.bitsPerWord ≠ 0 ∧ (x.bitsPerWord < 4 ∨ 32 < x.bitsPerWord)) ∨
      (x.speedHz ≠ 0 ∧ x.speedHz < omap2McspiMaxFreq >>> 15)

/-- The mappings that have been made and those that have been undone. -/
structure Mappings where
  mapped : List Mapping
  unmapped : List Mapping
  deriving DecidableEq, Repr

section validation
variable (isDmaMapped : Bool) (maps : Mapping → Bool)

/-- The mappings of a transfer, and whether they succeed; `maps` says which of them do. -/
def mapTransfer (x : Transfer) (i : Nat) (a : Mappings) : Mappings × Bool :=
  if x.txBuf.isSome then
    if maps (i, .toDevice) then
      let a := { a with mapped := a.mapped ++ [(i, .toDevice)] }
      if x.rxBuf.isSome then
        if maps (i, .fromDevice) then ({ a with mapped := a.mapped ++ [(i, .fromDevice)] }, true)
        else ({ a with unmapped := a.unmapped ++ [(i, .toDevice)] }, false)
      else (a, true)
    else (a, false)
  else if x.rxBuf.isSome then
    if maps (i, .fromDevice) then ({ a with mapped := a.mapped ++ [(i, .fromDevice)] }, true)
    else (a, false)
  else (a, true)

/-- The validation of the transfers from number `i` on, and whether none is refused. -/
def validate : List Transfer → Nat → Mappings → Mappings × Bool
  | [], _, a => (a, true)
  | x :: transfers, i, a =>
      if x.invalid then (a, false)
      else if isDmaMapped ∨ x.len < dmaMinBytes then validate transfers (i + 1) a
      else
        let mapping := mapTransfer maps x i a
        if mapping.2 then validate transfers (i + 1) mapping.1 else mapping

end validation

/-- A message after `transfer_one_message`; `finalized` says whether the queue has been told. -/
structure MessageResult where
  returned : Int
  finalized : Bool
  status : Int
  actualLength : Word
  rxBufs : List (Option Memory)
  mappings : Mappings
  channel : Channel

/-- `omap2_mcspi_transfer_one_message` -/
def transferOneMessage (d : SpiDevice) (maps : Mapping → Bool) (m : Message) (replies : Replies)
    (c : Channel) : MessageResult :=
  if m.transfers = [] then ⟨-einval, false, 0, 0, [], ⟨[], []⟩, c⟩
  else
    let validated := validate m.isDmaMapped maps m.transfers 0 ⟨[], []⟩
    if validated.2 then
      let w := omap2McspiWork d m replies c
      ⟨0, true, w.status, w.actualLength, w.rxBufs,
        { validated.1 with unmapped := validated.1.unmapped ++ w.unmapped }, w.channel⟩
    else ⟨-einval, false, 0, 0, [], validated.1, c⟩

end Gumstix.Mcspi
