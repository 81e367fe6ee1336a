import Gumstix.Gpio.OperationSpecs

/-!
# Pin multiplexing of closed GPIOs

`Gpio_open` forces the mux registers of its GPIO and saves what they held, `Gpio_close`
writes it back. The abstract model keeps the open flag of one GPIO, its registers and
their bank; the driver refines it as long as every `ioremap` succeeds.
-/
namespace Gumstix.Gpio
open Gumstix.Synchronization (Word)
open EventMachine

structure Multiplexing where
  isOpened : Word
  nbMuxed : Nat
  registerAdress : Nat → Word
  bank : RegisterBank Nat Word (BitVec 16) Word

def multiplexingOf (a : GpioAttributes) (mux : Word → BitVec 16) : Multiplexing :=
  ⟨a.isOpened, a.nbMuxed, a.registerAdress, ⟨a.previousMode, mux⟩⟩

def GpioDriver.multiplexing (s : GpioDriver) (g : Minor) : Multiplexing :=
  multiplexingOf (s.attributes g) s.mux

namespace Multiplexing
variable (m : Multiplexing)

def forced : RegisterBank Nat Word (BitVec 16) Word :=
  m.bank.exchangeAll m.registerAdress (BitVec.setWidth 32) (fun i _ => forcedMode 0 i)
    (List.range m.nbMuxed)

def restored : RegisterBank Nat Word (BitVec 16) Word :=
  m.bank.exchangeAll m.registerAdress (BitVec.setWidth 32) (fun _ saved => saved.setWidth 16)
    (List.range m.nbMuxed)

/-- An open that fails leaves the registers forced. -/
def afterOpen (k : Replies) : Multiplexing :=
  if m.isOpened ≠ 0 then m
  else { m with isOpened := if k.request = 0 ∧ 0 ≤ k.direction then 1 else 0, bank := m.forced }

def afterClose : Multiplexing := { m with isOpened := 0, bank := m.restored }

def next : GpioEvent → Multiplexing
  | .openFile _ _ k => m.afterOpen k
  | .ioctl _ _ _ _ => m
  | .closeFile _ _ => m.afterClose

end Multiplexing

section refinement
variable (s : GpioDriver) (minor : Minor)

theorem multiplexing_attribute (F : Multiplexing → Multiplexing)
    {f : GpioAttributes → GpioAttributes}
    (effect : ∀ a mux, multiplexingOf (f a) mux = F (multiplexingOf a mux)) :
    (s.attribute minor f).multiplexing minor = F (s.multiplexing minor) := by
  simp only [GpioDriver.multiplexing, attribute_attributes, attribute_mux, Function.update_self,
    effect]

theorem multiplexing_kernel (f : Pin → Pin) :
    (s.kernel minor f).multiplexing minor = s.multiplexing minor := rfl

theorem multiplexing_withBank (b : RegisterBank Nat Word (BitVec 16) Word) :
    (s.withBank minor b).multiplexing minor = { s.multiplexing minor with bank := b } := by
  simp only [GpioDriver.multiplexing, withBank_attributes, withBank_mux, Function.update_self]
  rfl

theorem forcedBank_eq :
    forcedBank s minor 0 (List.range (s.attributes minor).nbMuxed) =
      (s.multiplexing minor).forced := rfl

theorem restoredBank_eq :
    restoredBank s minor (List.range (s.attributes minor).nbMuxed) =
      (s.multiplexing minor).restored := rfl

theorem openDirection_multiplexing (openMode : Word) (k : Replies) :
    (openDirection s minor openMode k).2.multiplexing minor = s.multiplexing minor := by
  unfold openDirection
  split_ifs <;> simp only [GpioDriver.multiplexing, multiplexingOf, attribute_attributes,
    attribute_mux, kernel_attributes, kernel_mux, Function.update_self]

theorem gpioOpen_multiplexing (openMode : Word) {k : Replies}
    (mapped : ∀ i, k.ioremap i = true) :
    (gpioOpen s minor openMode k).2.multiplexing minor = (s.multiplexing minor).afterOpen k := by
  have requested : (openRequested s minor k).multiplexing minor =
      { s.multiplexing minor with bank := (s.multiplexing minor).forced } := by
    rw [openRequested, multiplexing_kernel, forceGpioMode_mapped s minor mapped,
      multiplexing_withBank, forcedBank_eq]
  have directed := (openDirection_multiplexing _ minor openMode k).trans requested
  have outcome := gpioOpen_outcome s minor openMode k
  generalize (gpioOpen s minor openMode k).2 = s' at outcome ⊢
  unfold Multiplexing.afterOpen
  cases outcome with
  | busy opened => rw [if_pos (show (s.multiplexing minor).isOpened ≠ 0 from opened)]
  | refused free refused =>
      rw [if_neg (not_not.mpr free : ¬ (s.multiplexing minor).isOpened ≠ 0),
        if_neg (not_and_of_not_left _ refused),
        multiplexing_attribute _ minor (fun m => { m with isOpened := 0 }) fun _ _ => rfl,
        requested]
  | undirected free granted failed =>
      have closed : (s.multiplexing minor).isOpened = 0 := free
      rw [if_neg (not_not.mpr closed), if_neg (not_and_of_not_right _ (not_le.mpr failed)),
        directed, ← closed]
  | opened free granted succeeds =>
      rw [if_neg (not_not.mpr free : ¬ (s.multiplexing minor).isOpened ≠ 0),
        if_pos ⟨granted, succeeds⟩,
        multiplexing_attribute _ minor (fun m => { m with isOpened := 1 }) fun _ _ => rfl, directed]

theorem gpioClose_multiplexing {k : Replies} (mapped : ∀ i, k.ioremap i = true) :
    (gpioClose s minor k).2.multiplexing minor = (s.multiplexing minor).afterClose := by
  have released : (closeRelease s minor k).multiplexing minor = s.multiplexing minor := by
    unfold closeRelease
    split_ifs <;> rfl
  have closed :
      ((closeRelease s minor k).attribute minor fun a =>
          { a with isOpened := 0 }).multiplexing minor =
        { s.multiplexing minor with isOpened := 0 } := by
    rw [multiplexing_attribute _ minor (fun m => { m with isOpened := 0 }) fun _ _ => rfl, released]
  unfold gpioClose
  dsimp only
  rw [restorePreviousGpioMode_mapped _ minor mapped, multiplexing_withBank, closed,
    restoredBank_eq, closed]
  rfl

theorem multiplexingOf_ioctl {a a' : GpioAttributes} (keeps : IoctlKeeps a a')
    (mux : Word → BitVec 16) : multiplexingOf a' mux = multiplexingOf a mux := by
  unfold multiplexingOf
  rw [keeps.isOpened, keeps.nbMuxed, keeps.registerAdress, keeps.previousMode]

theorem gpioIoctl_multiplexing (cmd arg : Word) (k : Replies) :
    (gpioIoctl s minor cmd arg k).driver.multiplexing minor = s.multiplexing minor :=
  gpioIoctl_kept (P := fun s' => s'.multiplexing minor = s.multiplexing minor)
    (fun keeps same =>
      (multiplexing_attribute _ minor id fun a =>
        multiplexingOf_ioctl (keeps a).toIoctlKeeps).trans same)
    (fun same => same) cmd arg k rfl

end refinement

/-- Every `ioremap` of the call succeeds. -/
def Mapped (_ : GpioDriver) (e : GpioEvent) : Prop := ∀ i, e.replies.ioremap i = true

theorem gpioNext_multiplexing (s : GpioDriver) {e : GpioEvent} (mapped : Mapped s e) :
    (gpioNext s e).multiplexing e.minor = (s.multiplexing e.minor).next e := by
  cases e with
  | openFile minor openMode k => exact gpioOpen_multiplexing s minor openMode mapped
  | ioctl minor cmd arg k => exact gpioIoctl_multiplexing s minor cmd arg k
  | closeFile minor k => exact gpioClose_multiplexing s minor mapped

theorem mem_muxRegisters {g : Minor} {i : Nat} : (g, i) ∈ muxRegisters ↔ i < nbMuxed g := by
  simp [muxRegisters]

/-- An address belongs to one register of one GPIO. -/
theorem registerAdress_injective {g h : Minor} {i j : Nat} (hi : i < nbMuxed g)
    (hj : j < nbMuxed h) (same : registerAdress g i = registerAdress h j) : g = h ∧ i = j :=
  Prod.mk.inj (List.inj_on_of_nodup_map registerAdress_nodup (mem_muxRegisters.mpr hi)
    (mem_muxRegisters.mpr hj) same)

theorem registerAdress_injOn (g : Minor) :
    Set.InjOn (registerAdress g) {i | i ∈ List.range (nbMuxed g)} := fun _ hi _ hj same =>
  (registerAdress_injective (List.mem_range.mp hi) (List.mem_range.mp hj) same).2

/-- The registers of a GPIO are those of the table; closed, they hold what they held at the
load, and opened, this is what is saved for them. -/
structure MuxKept (load : Word → BitVec 16) (g : Minor) (m : Multiplexing) : Prop where
  nbMuxed : m.nbMuxed = nbMuxed g
  registerAdress : m.registerAdress = registerAdress g
  closed : m.isOpened = 0 → ∀ i < Gpio.nbMuxed g,
    m.bank.cells (Gpio.registerAdress g i) = load (Gpio.registerAdress g i)
  opened : m.isOpened ≠ 0 → ∀ i < Gpio.nbMuxed g,
    m.bank.saved i = (load (Gpio.registerAdress g i)).setWidth 32

section steps
variable {load : Word → BitVec 16} {g : Minor} {m : Multiplexing}

theorem forced_visited (kept : MuxKept load g m) {i : Nat} (hi : i < nbMuxed g) :
    m.forced.saved i = (m.bank.cells (registerAdress g i)).setWidth 32 ∧
      m.forced.cells (registerAdress g i) = forcedMode 0 i := by
  unfold Multiplexing.forced
  rw [kept.nbMuxed, kept.registerAdress]
  exact RegisterBank.exchangeAll_visited m.bank List.nodup_range (registerAdress_injOn g)
    (List.mem_range.mpr hi)

theorem restored_visited (kept : MuxKept load g m) {i : Nat} (hi : i < nbMuxed g) :
    m.restored.cells (registerAdress g i) = (m.bank.saved i).setWidth 16 := by
  unfold Multiplexing.restored
  rw [kept.nbMuxed, kept.registerAdress]
  exact (RegisterBank.exchangeAll_visited m.bank List.nodup_range (registerAdress_injOn g)
    (List.mem_range.mpr hi)).2

/-- A call writes no register of another GPIO. -/
theorem next_cells_of_ne (number : m.nbMuxed = nbMuxed g)
    (addresses : m.registerAdress = registerAdress g) (e : GpioEvent) {x : Word}
    (other : ∀ i < nbMuxed g, x ≠ registerAdress g i) :
    (m.next e).bank.cells x = m.bank.cells x := by
  have notVisited : ∀ i ∈ List.range m.nbMuxed, x ≠ m.registerAdress i := by
    rw [number, addresses]
    exact fun i hi => other i (List.mem_range.mp hi)
  cases e with
  | openFile minor openMode k =>
      unfold Multiplexing.next Multiplexing.afterOpen
      dsimp only
      split
      · rfl
      · exact RegisterBank.exchangeAll_cells_of_ne m.bank notVisited
  | ioctl minor cmd arg k => rfl
  | closeFile minor k => exact RegisterBank.exchangeAll_cells_of_ne m.bank notVisited

/-- An open of a closed GPIO succeeds, or its registers held the forced modes before. -/
def OpenHarmlessAt (g : Minor) (m : Multiplexing) (k : Replies) : Prop :=
  m.isOpened ≠ 0 ∨ (k.request = 0 ∧ 0 ≤ k.direction) ∨
    ∀ i < nbMuxed g, m.bank.cells (registerAdress g i) = forcedMode 0 i

theorem afterOpen_kept (kept : MuxKept load g m) {k : Replies}
    (harmless : OpenHarmlessAt g m k) : MuxKept load g (m.afterOpen k) := by
  unfold Multiplexing.afterOpen
  split
  · exact kept
  · next free =>
      have loaded := kept.closed (not_not.mp free)
      refine ⟨kept.nbMuxed, kept.registerAdress, fun failed i hi => ?_, fun _ i hi => ?_⟩
      · have notGranted : ¬ (k.request = 0 ∧ 0 ≤ k.direction) := fun granted =>
          absurd ((if_pos granted).symm.trans failed) (by decide)
        rw [← loaded i hi, (harmless.resolve_left free).resolve_left notGranted i hi]
        exact (forced_visited kept hi).2
      · rw [← loaded i hi]
        exact (forced_visited kept hi).1

theorem afterOpen_harmless (kept : MuxKept load g m) {k : Replies}
    (closed : (m.afterOpen k).isOpened = 0 → ∀ i < nbMuxed g,
      (m.afterOpen k).bank.cells (registerAdress g i) = load (registerAdress g i)) :
    OpenHarmlessAt g m k := by
  by_cases free : m.isOpened = 0
  · refine .inr (or_iff_not_imp_left.mpr fun notGranted i hi => ?_)
    unfold Multiplexing.afterOpen at closed
    rw [if_neg (not_not.mpr free)] at closed
    rw [kept.closed free i hi, ← closed (if_neg notGranted) i hi]
    exact (forced_visited kept hi).2
  · exact .inl free

theorem afterClose_kept (kept : MuxKept load g m) (opened : m.isOpened = 1) :
    MuxKept load g m.afterClose := by
  have isOpen : m.isOpened ≠ 0 := by
    rw [opened]
    decide
  refine ⟨kept.nbMuxed, kept.registerAdress, fun _ i hi => ?_, fun reopened => absurd rfl reopened⟩
  refine (restored_visited kept hi).trans ?_
  rw [kept.opened isOpen i hi, BitVec.setWidth_setWidth_of_le _ (by decide), BitVec.setWidth_eq]

end steps

/-- The machine of the driver with every `ioremap` succeeding. -/
def mappedMachine : EventMachine GpioDriver GpioEvent := gpioMachine.assuming Mapped

/-- Every mux register of a closed GPIO holds what it held at the load. -/
def ClosedMuxKept (load : Word → BitVec 16) (s : GpioDriver) : Prop :=
  ∀ g, (s.attributes g).isOpened = 0 → ∀ i < nbMuxed g,
    s.mux (registerAdress g i) = load (registerAdress g i)

def AllMuxKept (load : Word → BitVec 16) (s : GpioDriver) : Prop :=
  ∀ g, MuxKept load g (s.multiplexing g)

/-- `Gpio_open` of a closed GPIO does not fail, unless the registers of the GPIO already
hold what `ForceGpioMode` writes to them. -/
def OpenHarmless (s : GpioDriver) : GpioEvent → Prop
  | .openFile minor _ k =>
      (s.attributes minor).isOpened ≠ 0 ∨ (k.request = 0 ∧ 0 ≤ k.direction) ∨
        ∀ i < nbMuxed minor, s.mux (registerAdress minor i) = forcedMode 0 i
  | .ioctl _ _ _ _ => True
  | .closeFile _ _ => True

instance (s : GpioDriver) : (e : GpioEvent) → Decidable (OpenHarmless s e)
  | .openFile _ _ _ => inferInstanceAs (Decidable (_ ∨ _ ∨ _))
  | .ioctl _ _ _ _ => .isTrue trivial
  | .closeFile _ _ => .isTrue trivial

section runs
variable {load : Word → BitVec 16} {s : GpioDriver} {e : GpioEvent}

theorem gpioInitialize_muxKept (load : Word → BitVec 16) : AllMuxKept load (gpioInitialize load) :=
  fun g =>
    { nbMuxed := rfl
      registerAdress := rfl
      closed := fun _ _ _ => rfl
      opened := fun opened => absurd (saveRegisterAddr_isOpened g initialAttributes) opened }

theorem gpioNext_others_muxKept (kept : AllMuxKept load s) (mapped : Mapped s e) {g : Minor}
    (other : g ≠ e.minor) : MuxKept load g ((gpioNext s e).multiplexing g) := by
  have sameEntry := (gpioNext_onlyAt s e g other).1
  have sameCells : ∀ i < nbMuxed g,
      (gpioNext s e).mux (registerAdress g i) = s.mux (registerAdress g i) := by
    intro i hi
    have unwritten := next_cells_of_ne (kept e.minor).nbMuxed (kept e.minor).registerAdress e
      fun j hj same => other (registerAdress_injective hi hj same).1
    rwa [← gpioNext_multiplexing s mapped] at unwritten
  obtain ⟨number, addresses, closed, opened⟩ := kept g
  unfold GpioDriver.multiplexing
  rw [sameEntry]
  exact ⟨number, addresses, fun free i hi => (sameCells i hi).trans (closed free i hi), opened⟩

theorem gpioNext_muxKept (kept : AllMuxKept load s) (enabled : mappedMachine.enabled s e)
    (harmless : OpenHarmless s e) : AllMuxKept load (gpioNext s e) := by
  intro g
  by_cases same : g = e.minor
  · subst same
    rw [gpioNext_multiplexing s enabled.2]
    cases e with
    | openFile minor openMode k => exact afterOpen_kept (kept minor) harmless
    | ioctl minor cmd arg k => exact kept minor
    | closeFile minor k => exact afterClose_kept (kept minor) enabled.1
  · exact gpioNext_others_muxKept kept enabled.2 same

theorem openHarmless_of_kept (kept : AllMuxKept load s) (enabled : mappedMachine.enabled s e)
    (after : ClosedMuxKept load (gpioNext s e)) : OpenHarmless s e := by
  cases e with
  | openFile minor openMode k =>
      have step := gpioOpen_multiplexing s minor openMode (k := k) enabled.2
      apply afterOpen_harmless (kept minor)
      rw [← step]
      exact after minor
  | ioctl minor cmd arg k => exact trivial
  | closeFile minor k => exact trivial

end runs

/-- Along every run after the load, closed GPIOs keep their multiplexing exactly if no open
of a closed GPIO fails, but for those that found the registers as they left them. -/
theorem closed_mux_kept_iff {load : Word → BitVec 16} {es : List GpioEvent}
    (admitted : mappedMachine.Admits (gpioInitialize load) es) :
    mappedMachine.Always (ClosedMuxKept load) (gpioInitialize load) es ↔
      mappedMachine.EveryStep OpenHarmless (gpioInitialize load) es :=
  always_iff_everyStep (fun _ kept g => (kept g).closed)
    (fun _ _ kept enabled harmless => gpioNext_muxKept kept enabled harmless)
    (fun _ _ kept enabled after => openHarmless_of_kept kept enabled after)
    (gpioInitialize_muxKept load) admitted

/-- A GPIO with two mux registers is opened for writing and closed. -/
def openCloseRun : List GpioEvent :=
  [.openFile 120 2 (.granted 0), .closeFile 120 (.granted 0)]

theorem closed_mux_kept_iff_openCloseRun :
    mappedMachine.Always (ClosedMuxKept fun _ => 0) (gpioInitialize fun _ => 0) openCloseRun := by
  have admitted : mappedMachine.Admits (gpioInitialize fun _ => 0) openCloseRun :=
    ⟨⟨trivial, fun _ => rfl⟩, ⟨by decide +kernel, fun _ => rfl⟩, trivial⟩
  exact (closed_mux_kept_iff admitted).mpr (by decide +kernel)

/-- `gpio_request` reports that the GPIO is busy. -/
def busyOpenRun : List GpioEvent := [.openFile 10 1 { Replies.granted 0 with request := -16 }]

theorem closed_mux_kept_refuted :
    ¬ ∀ (load : Word → BitVec 16) (es : List GpioEvent),
      mappedMachine.Admits (gpioInitialize load) es →
        mappedMachine.Always (ClosedMuxKept load) (gpioInitialize load) es := by
  intro every
  have kept := (every (fun _ => 0) busyOpenRun ⟨⟨trivial, fun _ => rfl⟩, trivial⟩).last 10
    (by decide +kernel) 0 (by decide +kernel)
  have forced : (mappedMachine.run (gpioInitialize fun _ => 0) busyOpenRun).mux
      (registerAdress 10 0) = gpioMuxMode := by decide +kernel
  exact absurd (forced.symm.trans kept) (by decide)

end Gumstix.Gpio
