import Gumstix.Library.EventMachine
import Gumstix.Mcspi.MessageRuns

/-!
# The McSPI controller

The devices of a controller have a chip select each, with the registers of its channel and two DMA
channels. Between messages the controller may be suspended and lose its registers; the contexts of
the set-up devices restore them. Calls are taken whole.

The core of the SPI layer sets up one device at a time for a chip select. It may release others that
have never been set up: those it has refused because the chip select is taken.
-/
namespace Gumstix.Mcspi
open Gumstix.Synchronization (Word)

def modulctrlSingle : Word := bit 0
def modulctrlMs : Word := bit 2
def modulctrlStest : Word := bit 3
def wakeupenableWken : Word := bit 0

/-- `omap2_mcspi_cs` -/
structure Cs where
  wordLen : Nat
  chconf0 : Word
  deriving DecidableEq, Repr

/-- A chip select. A DMA channel that has not been requested is `none` for `-1`. `device` is the
device as it has last been set up, and `none` when the last set-up has failed. -/
structure Slot where
  registers : Registers
  cs : Option Cs
  dmaRxChannel : Option Nat
  dmaTxChannel : Option Nat
  device : Option SpiDevice

/-- `ctx` are the chip selects whose contexts are linked, in the order of the list; `usage` is the
count of the power management. -/
structure Controller where
  numChipselect : Nat
  slots : Nat → Slot
  ctx : List Nat
  modulctrl : Word
  wakeupenable : Word
  ctxModulctrl : Word
  ctxWakeupenable : Word
  usage : Int
  powered : Bool
  prepared : Bool
  dmaInUse : List Nat

section slots
variable (p : Slot) (s : Controller) (i : Nat)

/-- A function on the channel of a chip select that has a context. -/
def Slot.onChannel (f : Channel → Channel) : Slot :=
  match p.cs with
  | none => p
  | some cs =>
      let c := f ⟨cs.wordLen, cs.chconf0, p.registers⟩
      { p with registers := c.registers, cs := some ⟨c.wordLen, c.chconf0⟩ }

def Controller.onSlot (f : Slot → Slot) : Controller :=
  { s with slots := Function.update s.slots i (f (s.slots i)) }

theorem onSlot_self (f : Slot → Slot) : (s.onSlot i f).slots i = f (s.slots i) :=
  Function.update_self ..

theorem onSlot_of_ne {i j : Nat} (other : j ≠ i) (f : Slot → Slot) :
    (s.onSlot i f).slots j = s.slots j := Function.update_of_ne other ..

/-- `list_for_each_entry(cs, &ctx->cs, node)` -/
def Controller.eachCs (f : Channel → Channel) : Controller :=
  s.ctx.foldl (fun s i => s.onSlot i fun p => p.onChannel f) s

end slots

section power
variable (s : Controller)

/-- `omap2_mcspi_restore_ctx` -/
def restoreCtx : Controller :=
  let s := { s with modulctrl := s.ctxModulctrl, wakeupenable := s.ctxWakeupenable }
  s.eachCs fun c => writeChconf0 c c.chconf0

/-- `pm_runtime_get_sync`, which counts also when it fails; a controller that has been suspended is
resumed by `omap_mcspi_runtime_resume`. -/
def enableClocks (succeeds : Bool) : Controller :=
  let s := { s with usage := s.usage + 1 }
  if succeeds ∧ ¬ s.powered then { restoreCtx s with powered := true } else s

/-- `pm_runtime_put_autosuspend` -/
def disableClocks : Controller := { s with usage := s.usage - 1 }

/-- A suspended controller loses its registers or not; `lost` is what the configurations come back
with. -/
def suspend (lost : Option Word) : Controller :=
  match lost with
  | none => { s with powered := false }
  | some l =>
      { s with
        powered := false
        modulctrl := 0
        wakeupenable := 0
        slots := fun i =>
          let p := s.slots i
          { p with registers := { p.registers.writeChconf l with chctrl := 0 } } }

/-- `omap2_mcspi_resume`, which does not look at whether the clocks have come. -/
def omap2McspiResume (clocks : Bool) : Controller :=
  let s := enableClocks s clocks
  disableClocks (s.eachCs fun c =>
    if c.chconf0 &&& chconfForce = 0 then forceCs (forceCs c true) false else c)

/-- `omap2_mcspi_set_master_mode` -/
def setMasterMode : Controller :=
  let l := modRegBit s.modulctrl modulctrlStest false
  let l := modRegBit l modulctrlMs false
  let l := modRegBit l modulctrlSingle true
  { s with modulctrl := l, ctxModulctrl := l }

/-- `omap2_mcspi_master_setup` -/
def masterSetup (clocks : Bool) : Controller × Bool :=
  let s := enableClocks s clocks
  if clocks then
    let s := { s with wakeupenable := wakeupenableWken, ctxWakeupenable := wakeupenableWken }
    (disableClocks (setMasterMode s), true)
  else (s, false)

end power

/-- What a set-up gets from its environment: whether `kzalloc` finds memory, the DMA channels that
are offered, and what `pm_runtime_get_sync` returns. -/
structure SetupReplies where
  allocated : Bool
  rxChannel : Option Nat
  txChannel : Option Nat
  clocks : Int
  deriving DecidableEq, Repr

section devices
variable (s : Controller) (i : Nat)

/-- `omap_request_dma`, which gives out no channel twice. -/
def requestChannel (offer : Option Nat) : Option Nat := offer.filter (· ∉ s.dmaInUse)

/-- `omap2_mcspi_request_dma`, and whether it returns 0. -/
def requestDma (r : SetupReplies) : Controller × Bool :=
  match requestChannel s r.rxChannel with
  | none => (s, false)
  | some rx =>
      let s := { s with dmaInUse := rx :: s.dmaInUse }
      let s := s.onSlot i fun p => { p with dmaRxChannel := some rx }
      match requestChannel s r.txChannel with
      | none =>
          let s := { s with dmaInUse := s.dmaInUse.erase rx }
          (s.onSlot i fun p => { p with dmaRxChannel := none }, false)
      | some tx =>
          let s := { s with dmaInUse := tx :: s.dmaInUse }
          (s.onSlot i fun p => { p with dmaTxChannel := some tx }, true)

/-- `kzalloc` of a context, which is linked to the context save list. -/
def linkCs : Controller :=
  let s := s.onSlot i fun p => { p with cs := some ⟨0, 0⟩ }
  { s with ctx := s.ctx ++ [i] }

/-- `omap2_mcspi_setup` up to the set-up of the channel, and what it returns. -/
def setupCalls (d : SpiDevice) (r : SetupReplies) : Controller × Int :=
  if d.bitsPerWord < 4 ∨ 32 < d.bitsPerWord then (s, -einval)
  else if (s.slots i).cs.isNone ∧ ¬ r.allocated then (s, -enomem)
  else
    let s := if (s.slots i).cs.isNone then linkCs s i else s
    let requested :=
      if (s.slots i).dmaRxChannel.isNone ∨ (s.slots i).dmaTxChannel.isNone then requestDma s i r
      else (s, true)
    if requested.2 then
      let s := enableClocks requested.1 (0 ≤ r.clocks)
      if r.clocks < 0 then (s, r.clocks)
      else (disableClocks (s.onSlot i fun p => p.onChannel fun c => setupTransfer c d none), 0)
    else (requested.1, -eagain)

/-- `omap2_mcspi_setup` -/
def omap2McspiSetup (d : SpiDevice) (r : SetupReplies) : Controller × Int :=
  let left := setupCalls s i d r
  (left.1.onSlot i fun p => { p with device := if left.2 = 0 then some d else none }, left.2)

/-- `omap_free_dma` of a channel unless it is `-1`. -/
def freeChannel (channel : Option Nat) : Controller :=
  match channel with
  | none => s
  | some n => { s with dmaInUse := s.dmaInUse.erase n }

/-- The context is unlinked from the context save list and freed; the device goes with it. -/
def unlinkCs : Controller :=
  let s := { s with ctx := s.ctx.erase i }
  s.onSlot i fun p => { p with cs := none, device := none }

/-- Both channels of the chip select are freed. -/
def freeChannels : Controller :=
  if i < s.numChipselect then
    let p := s.slots i
    let s := freeChannel s p.dmaRxChannel
    let s := freeChannel s p.dmaTxChannel
    s.onSlot i fun p => { p with dmaRxChannel := none, dmaTxChannel := none }
  else s

/-- `omap2_mcspi_cleanup` of a device of chip select `i`. The context is that of the device, and
`controllerState` says whether it has one; the channels are those of the chip select. -/
def omap2McspiCleanup (controllerState : Bool) : Controller :=
  freeChannels (if controllerState then unlinkCs s i else s) i

/-- A message for a device, which the queue hands on between `prepare` and `unprepare`. -/
def transferMessage (q : Request) : Controller :=
  match (s.slots i).device with
  | none => s
  | some d => s.onSlot i fun p => p.onChannel fun c => (transferRequest d q c).channel

end devices

/-- `cleanup` is for the device of a chip select, `release` for one that has never been set up;
`clocks` says whether `pm_runtime_get_sync` succeeds. -/
inductive McspiEvent where
  | setup (i : Nat) (d : SpiDevice) (r : SetupReplies)
  | cleanup (i : Nat)
  | release (i : Nat)
  | prepare (clocks : Bool)
  | message (i : Nat) (q : Request)
  | unprepare
  | suspend (lost : Option Word)
  | resume (clocks : Bool)

def Message.usesDma (m : Message) : Bool := m.transfers.any fun x => x.byDma m.isDmaMapped

def Slot.hasChannels (p : Slot) : Bool := p.dmaRxChannel.isSome && p.dmaTxChannel.isSome

/-- A message that gets what it needs: an access to the registers of a controller without clocks is
a bus error, and a transfer by DMA without channels never completes. -/
def Served (s : Controller) (i : Nat) (q : Request) : Prop :=
  q.accepted = true → s.powered = true ∧
    (q.message.usesDma = true → (s.slots i).hasChannels = true)

instance (s : Controller) (i : Nat) (q : Request) : Decidable (Served s i q) :=
  inferInstanceAs (Decidable (_ → _ ∧ _))

/-- The callers keep to the chip selects of the controller, messages come between `prepare` and
`unprepare` and for devices that are set up, and a controller in use is not suspended. A run does
not go on from a bus error or a transfer that never completes. -/
def mcspiEnabled (s : Controller) : McspiEvent → Prop
  | .setup i _ _ => i < s.numChipselect
  | .cleanup i => i < s.numChipselect
  | .release i => i < s.numChipselect
  | .prepare _ => s.prepared = false
  | .message i q => s.prepared = true ∧ (s.slots i).device.isSome = true ∧ Served s i q
  | .unprepare => s.prepared = true
  | .suspend lost => s.usage ≤ 0 ∧ ∀ l ∈ lost, isOn l chconfForce = false
  | .resume clocks => clocks = true ∨ s.powered = true ∨ s.ctx = []

/-- `omap2_prepare_transfer` does not look at whether the clocks have come. -/
def mcspiNext (s : Controller) : McspiEvent → Controller
  | .setup i d r => (omap2McspiSetup s i d r).1
  | .cleanup i => omap2McspiCleanup s i (s.slots i).cs.isSome
  | .release i => omap2McspiCleanup s i false
  | .prepare clocks => { enableClocks s clocks with prepared := true }
  | .message i q => transferMessage s i q
  | .unprepare => { disableClocks s with prepared := false }
  | .suspend lost => suspend s lost
  | .resume clocks => omap2McspiResume s clocks

def mcspiMachine : EventMachine Controller McspiEvent := ⟨mcspiEnabled, mcspiNext⟩

/-- A chip select after power-on. -/
def Slot.new : Slot := ⟨⟨0, 0, none, [], []⟩, none, none, none, none⟩

/-- After a probe, whose set-up of the master has enabled the clocks; `usage` is what the power
management has counted before. -/
def probedWith (usage : Int) (numChipselect : Nat) : Controller :=
  (masterSetup ⟨numChipselect, fun _ => .new, [], 0, 0, 0, 0, usage, false, false, []⟩ true).1

def probed (numChipselect : Nat) : Controller := probedWith 0 numChipselect

end Gumstix.Mcspi
