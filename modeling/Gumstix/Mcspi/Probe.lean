import Gumstix.Library.BlockHeap
import Gumstix.Library.EventMachine
import Gumstix.Mcspi.ControllerRuns

/-!
# Probes and removals

A controller comes with a probe and goes with a removal. A probe allocates the master and the
table of the DMA channels, and each way out of it releases what the labels below it say.
-/
namespace Gumstix.Mcspi
open Gumstix.Synchronization (Word)

def enodev : Int := 19

/-- `master` is the block of the master with the data of the driver, `dmaChannels` that of its
table. -/
structure Master where
  master : Nat
  numChipselect : Nat
  busNum : Option Nat
  phys : Word
  dmaChannels : Option Nat
  deriving DecidableEq, Repr

/-- How a device is described: by its node, with the property `ti,spi-num-cs` or without, or by its
platform data. The numbers of chip selects are those that fit the 16 bits of `num_chipselect`. -/
inductive Description where
  | node (numCs : Option Nat) (regsOffset : Word)
  | platformData (numCs : Nat) (regsOffset : Word) (id : Option Nat)

def Description.numCs : Description → Nat
  | .node numCs _ => numCs.getD 1
  | .platformData numCs _ _ => numCs

def Description.regsOffset : Description → Word
  | .node _ regsOffset => regsOffset
  | .platformData _ regsOffset _ => regsOffset

/-- The platform device and what its driver keeps between calls. `start` is where its registers are
said to be, `busNum` the static counter of the probe, `usage` the count of the power management;
`bound` holds while the last probe has returned 0. Addresses have 32 bits. -/
structure PlatformDevice where
  heap : BlockHeap Unit
  start : Word
  busNum : Nat
  usage : Int
  pmEnabled : Bool
  drvdata : Option Master
  bound : Bool

/-- What a probe gets from its environment. -/
structure ProbeReplies where
  masterAllocated : Bool
  memory : Bool
  ioremap : Bool
  dmaAllocated : Bool
  dmaResource : Nat → DmaDirection → Bool
  clocks : Int
  registers : Int

section probe
variable (s : PlatformDevice) (m : Master)

/-- The label `free_master`. -/
def freeMaster : PlatformDevice := { s with heap := s.heap.free m.master, drvdata := none }

/-- The label `dma_chnl_free`. -/
def dmaChnlFree : PlatformDevice := freeMaster { s with heap := s.heap.freeAt m.dmaChannels } m

/-- The label `disable_pm`. -/
def disablePm : PlatformDevice := dmaChnlFree { s with pmEnabled := false } m

/-- The label `err_spi_register`; `spi_master_put` drops the last reference to the master. -/
def errSpiRegister : PlatformDevice := disablePm { s with heap := s.heap.free m.master } m

/-- The master before its resources are known. -/
def allocMaster (d : Description) : PlatformDevice × Master :=
  match d with
  | .node .. =>
      ({ s with heap := s.heap.alloc (), busNum := s.busNum + 1 },
        ⟨s.heap.fresh, d.numCs, some s.busNum, 0, none⟩)
  | .platformData _ _ id =>
      ({ s with heap := s.heap.alloc () }, ⟨s.heap.fresh, d.numCs, id, 0, none⟩)

/-- Each chip select has resources for both directions. -/
def ProbeReplies.dmaResources (r : ProbeReplies) (numCs : Nat) : Bool :=
  (List.range numCs).all fun i => r.dmaResource i .fromDevice && r.dmaResource i .toDevice

/-- `omap2_mcspi_probe` once it has the table of the DMA channels. -/
def probeDma (r : ProbeReplies) : PlatformDevice × Int :=
  if ¬ r.dmaResources m.numChipselect then (dmaChnlFree s m, -enodev)
  else
    let s := { s with pmEnabled := true, usage := s.usage + 1 }
    if r.clocks < 0 then (disablePm s m, 0)
    else
      let s := { s with usage := s.usage - 1 }
      if r.registers < 0 then (errSpiRegister s m, r.registers)
      else ({ s with drvdata := some m }, r.registers)

/-- `omap2_mcspi_probe` once it has the master. -/
def probeMaster (d : Description) (r : ProbeReplies) : PlatformDevice × Int :=
  if ¬ r.memory then (freeMaster s m, -enodev)
  else
    let s := { s with start := s.start + d.regsOffset }
    let m := { m with phys := s.start }
    if ¬ r.ioremap then (freeMaster s m, -enomem)
    else if ¬ r.dmaAllocated then (freeMaster s m, 0)
    else
      probeDma { s with heap := s.heap.alloc () } { m with dmaChannels := some s.heap.fresh } r

/-- `omap2_mcspi_probe` -/
def omap2McspiProbe (d : Description) (r : ProbeReplies) : PlatformDevice × Int :=
  if ¬ r.masterAllocated then (s, -enomem)
  else
    let allocated := allocMaster s d
    probeMaster allocated.1 allocated.2 d r

/-- `omap2_mcspi_remove` of a device that has a master; `spi_unregister_master` drops the last
reference to it. -/
def omap2McspiRemove : PlatformDevice :=
  { s with
    usage := s.usage - 1
    pmEnabled := false
    heap := (s.heap.free m.master).freeAt m.dmaChannels
    drvdata := none
    bound := false }

end probe

inductive DeviceEvent where
  | probe (r : ProbeReplies)
  | remove

section machine
variable (d : Description)

/-- Drivers are bound to devices without one, and a device is removed from the driver that it has
been bound to. `spi_register_master` returns 0 or an error. -/
def deviceEnabled (s : PlatformDevice) : DeviceEvent → Prop
  | .probe r => s.bound = false ∧ r.registers ≤ 0
  | .remove => s.bound = true

/-- A removal without a master reads through a null pointer, and nothing is said of what follows. -/
def deviceNext (s : PlatformDevice) : DeviceEvent → PlatformDevice
  | .probe r =>
      let left := omap2McspiProbe s d r
      { left.1 with bound := left.2 = 0 }
  | .remove =>
      match s.drvdata with
      | none => s
      | some m => omap2McspiRemove s m

def deviceMachine : EventMachine PlatformDevice DeviceEvent := ⟨deviceEnabled, deviceNext d⟩

/-- A device whose driver has just been loaded. -/
def unprobed (start : Word) : PlatformDevice := ⟨⟨[]⟩, start, 1, 0, false, none, false⟩

end machine

/-- The ways out of a probe. -/
inductive ProbeCase where
  | noMaster
  | failed
  | silent
  | noClocks
  | notRegistered
  | succeeded
  deriving DecidableEq

/-- The way that the answers lead to. -/
def ProbeReplies.case (r : ProbeReplies) (numCs : Nat) : ProbeCase :=
  if ¬ r.masterAllocated then .noMaster
  else if ¬ r.memory ∨ ¬ r.ioremap then .failed
  else if ¬ r.dmaAllocated then .silent
  else if ¬ r.dmaResources numCs then .failed
  else if r.clocks < 0 then .noClocks
  else if r.registers < 0 then .notRegistered
  else .succeeded

end Gumstix.Mcspi
