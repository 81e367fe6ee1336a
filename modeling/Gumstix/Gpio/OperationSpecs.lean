import Gumstix.Gpio.Operations

/-!
# What the GPIO operations change

Every call works on the entry and the pin of its own GPIO and on the mux registers of
that GPIO. The registers and the modes saved for them form a bank; `ForceGpioMode` and
`RestorePreviousGpioMode` exchange it and leave everything else.
-/
namespace Gumstix.Gpio
open Gumstix.Synchronization (Word)

section updates
variable (s : GpioDriver) (minor g : Minor)

@[simp] theorem attribute_attributes (f : GpioAttributes → GpioAttributes) :
    (s.attribute minor f).attributes =
      Function.update s.attributes minor (f (s.attributes minor)) := rfl

@[simp] theorem attribute_pins (f : GpioAttributes → GpioAttributes) :
    (s.attribute minor f).pins = s.pins := rfl

@[simp] theorem attribute_mux (f : GpioAttributes → GpioAttributes) :
    (s.attribute minor f).mux = s.mux := rfl

@[simp] theorem kernel_attributes (f : Pin → Pin) :
    (s.kernel minor f).attributes = s.attributes := rfl

@[simp] theorem kernel_pins (f : Pin → Pin) :
    (s.kernel minor f).pins = Function.update s.pins minor (f (s.pins minor)) := rfl

@[simp] theorem kernel_mux (f : Pin → Pin) : (s.kernel minor f).mux = s.mux := rfl

/-- A field that an update of one entry keeps is kept in the whole table. -/
theorem attribute_field {β : Type*} (field : GpioAttributes → β)
    {f : GpioAttributes → GpioAttributes} (keeps : ∀ a, field (f a) = field a) :
    field ((s.attribute minor f).attributes g) = field (s.attributes g) := by
  by_cases same : g = minor
  · subst same
    rw [attribute_attributes, Function.update_self, keeps]
  · rw [attribute_attributes, Function.update_of_ne same]

/-- An interrupt takes no event back. -/
theorem gpioIrqHandler_keeps_done (gdData : Synchronization.GeoDatationData) (level : Word)
    (isSet : (s.attributes g).done = 1) :
    ((gpioIrqHandler s minor gdData level).attributes g).done = 1 := by
  by_cases same : g = minor
  · rw [gpioIrqHandler, attribute_attributes, same, Function.update_self]
  · rwa [gpioIrqHandler, attribute_attributes, Function.update_of_ne same]

end updates

/-- The test before a register is written back makes no difference to what it holds. -/
theorem update_unless_same (mux : Word → BitVec 16) (addr : Word) (mode : BitVec 16) :
    (if (mux addr).setWidth 32 ≠ mode.setWidth 32 then Function.update mux addr mode else mux) =
      Function.update mux addr mode := by
  split
  · rfl
  · next same =>
      have narrowed := congrArg (BitVec.setWidth 16) (not_not.mp same)
      rw [BitVec.setWidth_setWidth_of_le _ (by decide),
        BitVec.setWidth_setWidth_of_le _ (by decide), BitVec.setWidth_eq,
        BitVec.setWidth_eq] at narrowed
      rw [← narrowed, Function.update_eq_self]

def GpioDriver.bank (s : GpioDriver) (minor : Minor) : RegisterBank Nat Word (BitVec 16) Word :=
  ⟨(s.attributes minor).previousMode, s.mux⟩

def GpioDriver.withBank (s : GpioDriver) (minor : Minor)
    (b : RegisterBank Nat Word (BitVec 16) Word) : GpioDriver :=
  { s.attribute minor fun a => { a with previousMode := b.saved } with mux := b.cells }

section bank
variable (s : GpioDriver) (minor : Minor)

@[simp] theorem withBank_pins (b : RegisterBank Nat Word (BitVec 16) Word) :
    (s.withBank minor b).pins = s.pins := rfl

@[simp] theorem withBank_mux (b : RegisterBank Nat Word (BitVec 16) Word) :
    (s.withBank minor b).mux = b.cells := rfl

@[simp] theorem withBank_attributes (b : RegisterBank Nat Word (BitVec 16) Word) :
    (s.withBank minor b).attributes = Function.update s.attributes minor
      { s.attributes minor with previousMode := b.saved } := rfl

@[simp] theorem withBank_bank : s.withBank minor (s.bank minor) = s := by
  simp [GpioDriver.withBank, GpioDriver.bank, GpioDriver.attribute, GpioDriver.setAttributes,
    Function.update_eq_self]

@[simp] theorem bank_withBank (b : RegisterBank Nat Word (BitVec 16) Word) :
    (s.withBank minor b).bank minor = b := by
  simp [GpioDriver.bank]

@[simp] theorem withBank_withBank (b b' : RegisterBank Nat Word (BitVec 16) Word) :
    (s.withBank minor b).withBank minor b' = s.withBank minor b' := by
  simp [GpioDriver.withBank, GpioDriver.attribute, GpioDriver.setAttributes]

/-- What `ForceGpioMode` writes to the register of an index. -/
def forcedMode (registerToMux i : Nat) : BitVec 16 :=
  if i = registerToMux then gpioMuxMode else safeMuxMode

def forcedBank (registerToMux : Nat) (l : List Nat) : RegisterBank Nat Word (BitVec 16) Word :=
  (s.bank minor).exchangeAll (s.attributes minor).registerAdress (BitVec.setWidth 32)
    (fun i _ => forcedMode registerToMux i) l

def restoredBank (l : List Nat) : RegisterBank Nat Word (BitVec 16) Word :=
  (s.bank minor).exchangeAll (s.attributes minor).registerAdress (BitVec.setWidth 32)
    (fun _ saved => saved.setWidth 16) l

theorem forceRegister_eq (registerToMux iCpt : Nat) :
    forceRegister s minor registerToMux iCpt =
      s.withBank minor (forcedBank s minor registerToMux [iCpt]) := rfl

theorem restoreRegister_eq (iCpt : Nat) :
    restoreRegister s minor iCpt = s.withBank minor (restoredBank s minor [iCpt]) := by
  unfold restoreRegister
  simp only [update_unless_same]
  rfl

theorem forcedBank_cons (registerToMux i : Nat) (l : List Nat) :
    forcedBank s minor registerToMux (i :: l) =
      forcedBank (s.withBank minor (forcedBank s minor registerToMux [i])) minor registerToMux
        l := by
  simp only [forcedBank, bank_withBank, withBank_attributes, Function.update_self,
    RegisterBank.exchangeAll, List.foldl_cons, List.foldl_nil]

theorem restoredBank_cons (i : Nat) (l : List Nat) :
    restoredBank s minor (i :: l) =
      restoredBank (s.withBank minor (restoredBank s minor [i])) minor l := by
  simp only [restoredBank, bank_withBank, withBank_attributes, Function.update_self,
    RegisterBank.exchangeAll, List.foldl_cons, List.foldl_nil]

end bank

section loops
variable (minor : Minor) (registerToMux : Nat) (ioremap : Nat → Bool)

theorem forceRegisters_withBank (s : GpioDriver) (l : List Nat) :
    ∃ b, (forceRegisters minor registerToMux ioremap s l).2 = s.withBank minor b := by
  induction l generalizing s with
  | nil => exact ⟨s.bank minor, (withBank_bank s minor).symm⟩
  | cons i l ih =>
      unfold forceRegisters
      split
      · obtain ⟨b, hb⟩ := ih (forceRegister s minor registerToMux i)
        exact ⟨b, by rw [hb, forceRegister_eq, withBank_withBank]⟩
      · exact ⟨s.bank minor, (withBank_bank s minor).symm⟩

theorem restoreRegisters_withBank (s : GpioDriver) (l : List Nat) :
    ∃ b, (restoreRegisters minor ioremap s l).2 = s.withBank minor b := by
  induction l generalizing s with
  | nil => exact ⟨s.bank minor, (withBank_bank s minor).symm⟩
  | cons i l ih =>
      unfold restoreRegisters
      split
      · obtain ⟨b, hb⟩ := ih (restoreRegister s minor i)
        exact ⟨b, by rw [hb, restoreRegister_eq, withBank_withBank]⟩
      · exact ⟨s.bank minor, (withBank_bank s minor).symm⟩

variable {ioremap}

theorem forceRegisters_mapped (mapped : ∀ i, ioremap i = true) (s : GpioDriver) (l : List Nat) :
    (forceRegisters minor registerToMux ioremap s l).2 =
      s.withBank minor (forcedBank s minor registerToMux l) := by
  induction l generalizing s with
  | nil => exact (withBank_bank s minor).symm
  | cons i l ih =>
      rw [forceRegisters, if_pos (mapped i), ih, forceRegister_eq, withBank_withBank,
        ← forcedBank_cons]

theorem restoreRegisters_mapped (mapped : ∀ i, ioremap i = true) (s : GpioDriver)
    (l : List Nat) :
    (restoreRegisters minor ioremap s l).2 = s.withBank minor (restoredBank s minor l) := by
  induction l generalizing s with
  | nil => exact (withBank_bank s minor).symm
  | cons i l ih =>
      rw [restoreRegisters, if_pos (mapped i), ih, restoreRegister_eq, withBank_withBank,
        ← restoredBank_cons]

end loops

theorem forceGpioMode_withBank (s : GpioDriver) (minor : Minor) (registerToMux : Nat)
    (ioremap : Nat → Bool) :
    ∃ b, (forceGpioMode s minor registerToMux ioremap).2 = s.withBank minor b := by
  unfold forceGpioMode
  split
  · exact ⟨s.bank minor, (withBank_bank s minor).symm⟩
  · exact forceRegisters_withBank minor registerToMux ioremap s _

theorem restorePreviousGpioMode_withBank (s : GpioDriver) (minor : Minor)
    (ioremap : Nat → Bool) :
    ∃ b, (restorePreviousGpioMode s minor ioremap).2 = s.withBank minor b :=
  restoreRegisters_withBank minor ioremap s _

/-- A GPIO without mux registers is the one case `ForceGpioMode` refuses. -/
theorem forceGpioMode_mapped (s : GpioDriver) (minor : Minor) {ioremap : Nat → Bool}
    (mapped : ∀ i, ioremap i = true) :
    (forceGpioMode s minor 0 ioremap).2 =
      s.withBank minor (forcedBank s minor 0 (List.range (s.attributes minor).nbMuxed)) := by
  unfold forceGpioMode
  split
  · next none =>
      rw [Nat.le_zero.mp none]
      exact (withBank_bank s minor).symm
  · exact forceRegisters_mapped minor 0 mapped s _

theorem restorePreviousGpioMode_mapped (s : GpioDriver) (minor : Minor) {ioremap : Nat → Bool}
    (mapped : ∀ i, ioremap i = true) :
    (restorePreviousGpioMode s minor ioremap).2 =
      s.withBank minor (restoredBank s minor (List.range (s.attributes minor).nbMuxed)) :=
  restoreRegisters_mapped minor mapped s _

theorem openDirection_ret (s : GpioDriver) (minor : Minor) (openMode : Word) (k : Replies) :
    (openDirection s minor openMode k).1 < 0 ↔ k.direction < 0 := by
  unfold openDirection
  split_ifs with _ failed failed <;> simp only [failed, iff_true, iff_false] <;> decide

/-- The driver after `ForceGpioMode` and `gpio_request`. -/
def openRequested (s : GpioDriver) (minor : Minor) (k : Replies) : GpioDriver :=
  ((forceGpioMode s minor 0 k.ioremap).2).kernel minor fun p => p.gpioRequest k

/-- The ways in which `Gpio_open` ends. -/
inductive OpenOutcome (s : GpioDriver) (minor : Minor) (openMode : Word) (k : Replies) :
    GpioDriver → Prop
  | busy (opened : (s.attributes minor).isOpened ≠ 0) : OpenOutcome s minor openMode k s
  | refused (free : (s.attributes minor).isOpened = 0) (refused : k.request ≠ 0) :
      OpenOutcome s minor openMode k
        ((openRequested s minor k).attribute minor fun a => { a with isOpened := 0 })
  | undirected (free : (s.attributes minor).isOpened = 0) (granted : k.request = 0)
      (failed : k.direction < 0) :
      OpenOutcome s minor openMode k (openDirection (openRequested s minor k) minor openMode k).2
  | opened (free : (s.attributes minor).isOpened = 0) (granted : k.request = 0)
      (directed : 0 ≤ k.direction) :
      OpenOutcome s minor openMode k
        ((openDirection (openRequested s minor k) minor openMode k).2.attribute minor fun a =>
          { a with mode := ioMode, done := 0, isOpened := 1 })

theorem gpioOpen_outcome (s : GpioDriver) (minor : Minor) (openMode : Word) (k : Replies) :
    OpenOutcome s minor openMode k (gpioOpen s minor openMode k).2 := by
  have failed := openDirection_ret (openRequested s minor k) minor openMode k
  unfold gpioOpen
  split_ifs with busy refused
  · exact .busy busy
  · exact .refused (not_not.mp busy) refused
  · dsimp only
    split_ifs with lost
    · exact .undirected (not_not.mp busy) (not_not.mp refused) (failed.mp lost)
    · exact .opened (not_not.mp busy) (not_not.mp refused) (not_lt.mp (mt failed.mpr lost))

theorem setInterruptRelease_mode (s : GpioDriver) (minor : Minor) (k : Replies) :
    ((setInterruptRelease s minor k).attributes minor).mode = itMode := by
  unfold setInterruptRelease
  split
  · next inMode => exact inMode
  · rw [attribute_attributes, Function.update_self]

/-- A request that is granted leaves the GPIO in interrupt mode with no event. -/
theorem setInterrupt_granted {s : GpioDriver} {minor : Minor} {arg : Word} {k : Replies}
    (granted : 0 ≤ (setInterrupt s minor arg k).ret) :
    ((setInterrupt s minor arg k).driver.attributes minor).mode = itMode ∧
      ((setInterrupt s minor arg k).driver.attributes minor).done = 0 := by
  revert granted
  unfold setInterrupt
  split_ifs with invalid refused
  · intro granted
    change 0 ≤ -errIoctlSpecifiedEvent at granted
    exact absurd granted (by decide)
  · intro granted
    change 0 ≤ -errIoctlInterruptionRequest at granted
    exact absurd granted (by decide)
  · intro _
    dsimp only
    rw [attribute_attributes, Function.update_self, kernel_attributes, attribute_attributes,
      Function.update_self]
    exact ⟨setInterruptRelease_mode s minor k, rfl⟩

/-- What no ioctl changes of an entry. -/
structure IoctlKeeps (a a' : GpioAttributes) : Prop where
  isOpened : a'.isOpened = a.isOpened
  previousMode : a'.previousMode = a.previousMode
  nbMuxed : a'.nbMuxed = a.nbMuxed
  registerAdress : a'.registerAdress = a.registerAdress

/-- The saved defaults and the last recorded interrupt are not touched either. -/
structure IoctlUpdate (a a' : GpioAttributes) : Prop extends IoctlKeeps a a' where
  defaultMode : a'.defaultMode = a.defaultMode
  lastItGDData : a'.lastItGDData = a.lastItGDData

section ioctl
variable {minor : Minor} {P : GpioDriver → Prop}
  (entry : ∀ {s f}, (∀ a, IoctlUpdate a (f a)) → P s → P (s.attribute minor f))
  (pin : ∀ {s f}, P s → P (s.kernel minor f))
include entry pin

theorem setDirection_kept {s : GpioDriver} (arg : Word) (k : Replies) (h : P s) :
    P (setDirection s minor arg k).driver := by
  unfold setDirection
  split_ifs <;> dsimp only
  · exact h
  · exact entry (fun _ => ⟨⟨rfl, rfl, rfl, rfl⟩, rfl, rfl⟩)
      (pin (entry (fun _ => ⟨⟨rfl, rfl, rfl, rfl⟩, rfl, rfl⟩) h))
  · exact pin (entry (fun _ => ⟨⟨rfl, rfl, rfl, rfl⟩, rfl, rfl⟩) h)
  · exact h

theorem setInterrupt_kept {s : GpioDriver} (arg : Word) (k : Replies) (h : P s) :
    P (setInterrupt s minor arg k).driver := by
  have released : P (setInterruptRelease s minor k) := by
    unfold setInterruptRelease
    split_ifs
    · exact pin h
    · exact entry (fun _ => ⟨⟨rfl, rfl, rfl, rfl⟩, rfl, rfl⟩) (pin h)
  unfold setInterrupt
  split_ifs <;> dsimp only
  · exact h
  · exact pin (entry (fun _ => ⟨⟨rfl, rfl, rfl, rfl⟩, rfl, rfl⟩) released)
  · exact entry (fun _ => ⟨⟨rfl, rfl, rfl, rfl⟩, rfl, rfl⟩)
      (pin (entry (fun _ => ⟨⟨rfl, rfl, rfl, rfl⟩, rfl, rfl⟩) released))

theorem freeInterrupt_kept {s : GpioDriver} (k : Replies) (h : P s) :
    P (freeInterrupt s minor k).driver := by
  unfold freeInterrupt
  split <;> dsimp only
  · exact h
  · exact entry (fun _ => ⟨⟨rfl, rfl, rfl, rfl⟩, rfl, rfl⟩)
      (entry (fun _ => ⟨⟨rfl, rfl, rfl, rfl⟩, rfl, rfl⟩) (pin (pin h)))

/-- What such updates of the entry and all updates of the pin keep is kept by every ioctl. -/
theorem gpioIoctl_kept {s : GpioDriver} (cmd arg : Word) (k : Replies) (h : P s) :
    P (gpioIoctl s minor cmd arg k).driver := by
  unfold gpioIoctl
  split_ifs
  · exact setDirection_kept entry pin arg k h
  · unfold setOutputValue
    split_ifs <;> dsimp only
    · exact h
    · exact h
    · exact h
    · exact pin (entry (fun _ => ⟨⟨rfl, rfl, rfl, rfl⟩, rfl, rfl⟩) h)
  · unfold getInputValue
    split_ifs <;> dsimp only
    · exact h
    · exact h
    · exact entry (fun _ => ⟨⟨rfl, rfl, rfl, rfl⟩, rfl, rfl⟩) h
  · exact setInterrupt_kept entry pin arg k h
  · unfold setDebounceDelay
    split_ifs <;> dsimp only
    · exact h
    · exact entry (fun _ => ⟨⟨rfl, rfl, rfl, rfl⟩, rfl, rfl⟩) h
  · exact freeInterrupt_kept entry pin k h
  · unfold getLastItGdData
    split_ifs
    · exact h
    · exact h
  · exact h

end ioctl

/-- What no call changes of an entry. -/
structure CallUpdate (a a' : GpioAttributes) : Prop where
  nbMuxed : a'.nbMuxed = a.nbMuxed
  registerAdress : a'.registerAdress = a.registerAdress
  defaultMode : a'.defaultMode = a.defaultMode
  lastItGDData : a'.lastItGDData = a.lastItGDData

theorem IoctlUpdate.call {a a' : GpioAttributes} (h : IoctlUpdate a a') : CallUpdate a a' :=
  ⟨h.nbMuxed, h.registerAdress, h.defaultMode, h.lastItGDData⟩

section call
variable {minor : Minor} {P : GpioDriver → Prop}
  (entry : ∀ {s f}, (∀ a, CallUpdate a (f a)) → P s → P (s.attribute minor f))
  (pin : ∀ {s f}, P s → P (s.kernel minor f))
  (bank : ∀ {s} b, P s → P (s.withBank minor b))
include entry pin

theorem openDirection_kept {s : GpioDriver} (openMode : Word) (k : Replies) (h : P s) :
    P (openDirection s minor openMode k).2 := by
  unfold openDirection
  split_ifs <;> dsimp only
  · exact entry (fun _ => ⟨rfl, rfl, rfl, rfl⟩) (pin (entry (fun _ => ⟨rfl, rfl, rfl, rfl⟩) h))
  · exact entry (fun _ => ⟨rfl, rfl, rfl, rfl⟩) (pin (entry (fun _ => ⟨rfl, rfl, rfl, rfl⟩) h))
  · exact pin (entry (fun _ => ⟨rfl, rfl, rfl, rfl⟩) h)
  · exact pin (entry (fun _ => ⟨rfl, rfl, rfl, rfl⟩) h)

include bank

theorem gpioOpen_kept {s : GpioDriver} (openMode : Word) (k : Replies) (h : P s) :
    P (gpioOpen s minor openMode k).2 := by
  have requested : P (openRequested s minor k) := by
    obtain ⟨b, forced⟩ := forceGpioMode_withBank s minor 0 k.ioremap
    rw [openRequested, forced]
    exact pin (bank b h)
  have directed := openDirection_kept entry pin openMode k requested
  have outcome := gpioOpen_outcome s minor openMode k
  generalize (gpioOpen s minor openMode k).2 = s' at outcome ⊢
  cases outcome with
  | busy opened => exact h
  | refused free refused => exact entry (fun _ => ⟨rfl, rfl, rfl, rfl⟩) requested
  | undirected free granted failed => exact directed
  | opened free granted succeeds => exact entry (fun _ => ⟨rfl, rfl, rfl, rfl⟩) directed

theorem gpioClose_kept {s : GpioDriver} (k : Replies) (h : P s) : P (gpioClose s minor k).2 := by
  have released : P (closeRelease s minor k) := by
    unfold closeRelease
    split_ifs
    · exact pin h
    · exact pin h
    · exact h
  obtain ⟨b, restored⟩ := restorePreviousGpioMode_withBank
    ((closeRelease s minor k).attribute minor fun a => { a with isOpened := 0 }) minor k.ioremap
  unfold gpioClose
  dsimp only
  rw [restored]
  exact bank b (entry (fun _ => ⟨rfl, rfl, rfl, rfl⟩) released)

end call

/-- What such updates, all updates of the pin and exchanges of the bank keep is kept by every
call. -/
theorem gpioNext_kept {e : GpioEvent} {P : GpioDriver → Prop}
    (entry : ∀ {s f}, (∀ a, CallUpdate a (f a)) → P s → P (s.attribute e.minor f))
    (pin : ∀ {s f}, P s → P (s.kernel e.minor f))
    (bank : ∀ {s} b, P s → P (s.withBank e.minor b)) {s : GpioDriver} (h : P s) :
    P (gpioNext s e) := by
  cases e with
  | openFile minor openMode k => exact gpioOpen_kept entry pin bank openMode k h
  | ioctl minor cmd arg k =>
      exact gpioIoctl_kept (fun update => entry fun a => (update a).call) pin cmd arg k h
  | closeFile minor k => exact gpioClose_kept entry pin bank k h

/-- The entries and the pins of all other GPIOs are as they were. -/
def OnlyAt (minor : Minor) (s s' : GpioDriver) : Prop :=
  ∀ g, g ≠ minor → s'.attributes g = s.attributes g ∧ s'.pins g = s.pins g

section onlyAt
variable {s s' : GpioDriver} {minor : Minor}

theorem OnlyAt.refl (s : GpioDriver) (minor : Minor) : OnlyAt minor s s :=
  fun _ _ => ⟨rfl, rfl⟩

theorem OnlyAt.attribute (h : OnlyAt minor s s') (f : GpioAttributes → GpioAttributes) :
    OnlyAt minor s (s'.attribute minor f) := fun g other =>
  ⟨(Function.update_of_ne other _ _).trans (h g other).1, (h g other).2⟩

theorem OnlyAt.kernel (h : OnlyAt minor s s') (f : Pin → Pin) :
    OnlyAt minor s (s'.kernel minor f) := fun g other =>
  ⟨(h g other).1, (Function.update_of_ne other _ _).trans (h g other).2⟩

theorem OnlyAt.withBank (h : OnlyAt minor s s') (b : RegisterBank Nat Word (BitVec 16) Word) :
    OnlyAt minor s (s'.withBank minor b) := fun g other =>
  ⟨(Function.update_of_ne other _ _).trans (h g other).1, (h g other).2⟩

theorem gpioNext_onlyAt (s : GpioDriver) (e : GpioEvent) : OnlyAt e.minor s (gpioNext s e) := by
  apply gpioNext_kept
  · exact fun _ h => h.attribute _
  · exact fun h => h.kernel _
  · exact fun b h => h.withBank b
  · exact .refl s e.minor

end onlyAt

end Gumstix.Gpio
