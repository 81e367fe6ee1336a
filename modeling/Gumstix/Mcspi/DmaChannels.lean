import Gumstix.Library.ResourcePool
import Gumstix.Mcspi.ControllerRuns

/-!
# The DMA channels of the devices

Each chip select holds two channels of the DMA or none. A set-up takes both, a set-up that gets
one of them only gives it back, and a device that goes gives back both: the channels of its chip
select, which are those of another device if it has never been set up itself.
-/
namespace Gumstix.Mcspi
open Gumstix.Synchronization (Word)

def Slot.dmaChannel (p : Slot) : DmaDirection → Option Nat
  | .fromDevice => p.dmaRxChannel
  | .toDevice => p.dmaTxChannel

/-- The holders are the directions of the chip selects. -/
def Controller.dmaPool (s : Controller) : ResourcePool (Nat × DmaDirection) Nat :=
  ⟨fun k => (s.slots k.1).dmaChannel k.2, s.dmaInUse⟩

/-- The devices that are set up can use the DMA. -/
def DevicesEquipped (s : Controller) : Prop :=
  ∀ i, (s.slots i).device.isSome = true → (s.slots i).hasChannels = true

/-- A release frees the channels of the chip select, whoever uses them. -/
def TakesChannels (s : Controller) : McspiEvent → Prop
  | .release i => (s.slots i).device.isSome = true
  | _ => False

instance (s : Controller) : (e : McspiEvent) → Decidable (TakesChannels s e)
  | .release i => inferInstanceAs (Decidable ((s.slots i).device.isSome = true))
  | .setup .. | .cleanup _ | .prepare _ | .message .. | .unprepare | .suspend _ | .resume _ =>
      inferInstanceAs (Decidable False)

/-- Only a linked chip select has channels. Where the devices are `equipped`, one that is set up
has both. -/
structure DmaOwned (equipped : Prop) (s : Controller) : Prop where
  sound : s.dmaPool.Sound
  both : ∀ i, (s.slots i).dmaTxChannel.isSome = (s.slots i).dmaRxChannel.isSome
  device : equipped → ∀ i, (s.slots i).device.isSome = true →
    (s.slots i).dmaRxChannel.isSome = true
  cs : ∀ i, (s.slots i).dmaRxChannel.isSome = true → (s.slots i).cs.isSome = true

/-- The DMA channels stay where they are. -/
structure KeepsDma (s s' : Controller) : Prop where
  inUse : s'.dmaInUse = s.dmaInUse
  channel : ∀ i, (s'.slots i).dmaChannel = (s.slots i).dmaChannel
  device : ∀ i, (s'.slots i).device.isSome = true → (s.slots i).device.isSome = true
  cs : ∀ i, (s.slots i).cs.isSome = true → (s'.slots i).cs.isSome = true

section keeps
variable {equipped : Prop} {s s' s'' : Controller} {i : Nat}

theorem KeepsDma.refl (s : Controller) : KeepsDma s s :=
  ⟨rfl, fun _ => rfl, fun _ => id, fun _ => id⟩

theorem KeepsDma.trans (h : KeepsDma s s') (h' : KeepsDma s' s'') : KeepsDma s s'' where
  inUse := h'.inUse.trans h.inUse
  channel i := (h'.channel i).trans (h.channel i)
  device i := h.device i ∘ h'.device i
  cs i := h'.cs i ∘ h.cs i

theorem KeepsDma.owned (same : KeepsDma s s') (h : DmaOwned equipped s) :
    DmaOwned equipped s' := by
  have rx : ∀ i, (s'.slots i).dmaRxChannel = (s.slots i).dmaRxChannel := fun i =>
    congrFun (same.channel i) .fromDevice
  have tx : ∀ i, (s'.slots i).dmaTxChannel = (s.slots i).dmaTxChannel := fun i =>
    congrFun (same.channel i) .toDevice
  have pool : s'.dmaPool = s.dmaPool :=
    congrArg₂ ResourcePool.mk (funext fun k => congrFun (same.channel k.1) k.2) same.inUse
  refine ⟨pool ▸ h.sound, fun i => ?_, fun kept i device => ?_, fun i some => ?_⟩
  · rw [rx, tx]
    exact h.both i
  · rw [rx]
    exact h.device kept i (same.device i device)
  · rw [rx] at some
    exact same.cs i (h.cs i some)

theorem keepsDma_onSlot {F : Slot → Slot} (channel : ∀ p, (F p).dmaChannel = p.dmaChannel)
    (device : ∀ p, (F p).device.isSome = true → p.device.isSome = true)
    (cs : ∀ p, p.cs.isSome = true → (F p).cs.isSome = true) : KeepsDma s (s.onSlot i F) where
  inUse := rfl
  channel := onSlot_field Slot.dmaChannel channel
  device := forall_onSlot (P := fun j p => p.device.isSome = true →
    (s.slots j).device.isSome = true) (device _) fun _ _ => id
  cs := forall_onSlot (P := fun j p => (s.slots j).cs.isSome = true → p.cs.isSome = true)
    (cs _) fun _ _ => id

theorem keepsDma_onChannel (f : Channel → Channel) :
    KeepsDma s (s.onSlot i fun p => p.onChannel f) := by
  refine keepsDma_onSlot (fun p => ?_) (fun p => ?_) fun p => ?_
  · unfold Slot.onChannel
    cases p.cs <;> rfl
  · unfold Slot.onChannel
    cases p.cs <;> exact id
  · rw [onChannel_cs]
    exact id

theorem keepsDma_eachCs (s : Controller) (f : Channel → Channel) : KeepsDma s (s.eachCs f) := by
  unfold Controller.eachCs
  have all : ∀ (l : List Nat) (s : Controller),
      KeepsDma s (l.foldl (fun s i => s.onSlot i fun p => p.onChannel f) s) := by
    intro l
    induction l with
    | nil => exact KeepsDma.refl
    | cons j l ih => exact fun s => (keepsDma_onChannel f).trans (ih _)
  exact all s.ctx s

theorem keepsDma_enableClocks (s : Controller) (succeeds : Bool) :
    KeepsDma s (enableClocks s succeeds) := by
  unfold enableClocks
  dsimp only
  split
  · have restored := keepsDma_eachCs { s with
        usage := s.usage + 1
        modulctrl := s.ctxModulctrl
        wakeupenable := s.ctxWakeupenable } fun c => writeChconf0 c c.chconf0
    exact ⟨restored.inUse, restored.channel, restored.device, restored.cs⟩
  · exact ⟨rfl, fun _ => rfl, fun _ => id, fun _ => id⟩

theorem keepsDma_resume (s : Controller) (clocks : Bool) :
    KeepsDma s (omap2McspiResume s clocks) := by
  have all := (keepsDma_enableClocks s clocks).trans (keepsDma_eachCs _ fun c =>
    if c.chconf0 &&& chconfForce = 0 then forceCs (forceCs c true) false else c)
  exact ⟨all.inUse, all.channel, all.device, all.cs⟩

theorem keepsDma_suspend (s : Controller) (lost : Option Word) : KeepsDma s (suspend s lost) := by
  cases lost <;> exact ⟨rfl, fun _ => rfl, fun _ => id, fun _ => id⟩

theorem keepsDma_message (s : Controller) (i : Nat) (q : Request) :
    KeepsDma s (transferMessage s i q) := by
  unfold transferMessage
  split
  · exact KeepsDma.refl s
  · exact keepsDma_onChannel _

theorem keepsDma_linkCs (s : Controller) (i : Nat) : KeepsDma s (linkCs s i) := by
  have linked := keepsDma_onSlot (s := s) (i := i) (F := fun p => { p with cs := some ⟨0, 0⟩ })
    (fun _ => rfl) (fun _ => id) fun _ _ => rfl
  exact ⟨linked.inUse, linked.channel, linked.device, linked.cs⟩

end keeps

section owned
variable {equipped : Prop} {s : Controller} {i : Nat} {r : SetupReplies}

theorem DmaOwned.tx_none (h : DmaOwned equipped s) (rx : (s.slots i).dmaRxChannel = none) :
    (s.slots i).dmaTxChannel = none := by
  have both := h.both i
  rw [rx] at both
  exact Option.not_isSome_iff_eq_none.mp (by rw [both]; exact Bool.false_ne_true)

/-- A chip select without channels gets two that are not in use, or stays as it is. -/
theorem requestDma_cases (rxNone : (s.slots i).dmaRxChannel = none) :
    requestDma s i r = (s, false) ∨ ∃ rx tx, rx ∉ s.dmaInUse ∧ tx ∉ rx :: s.dmaInUse ∧
      requestDma s i r = (({ s with dmaInUse := tx :: rx :: s.dmaInUse } : Controller).onSlot i
        fun p => { p with dmaRxChannel := some rx, dmaTxChannel := some tx }, true) := by
  unfold requestDma requestChannel
  cases isRx : r.rxChannel.filter (· ∉ s.dmaInUse) with
  | none => exact .inl rfl
  | some rx =>
      have rxFree := (Option.filter_eq_some_iff.mp isRx).2
      dsimp only [Controller.onSlot]
      cases isTx : r.txChannel.filter (· ∉ rx :: s.dmaInUse) with
      | none =>
          dsimp only
          rw [Function.update_self, Function.update_idem, List.erase_cons_head]
          have same : ({ s.slots i with dmaRxChannel := none } : Slot) = s.slots i := by
            rw [← rxNone]
          rw [same, Function.update_eq_self]
          exact .inl rfl
      | some tx =>
          have txFree := (Option.filter_eq_some_iff.mp isTx).2
          refine .inr ⟨rx, tx, of_decide_eq_true rxFree, of_decide_eq_true txFree, ?_⟩
          dsimp only
          rw [Function.update_self, Function.update_idem]

/-- The channels of a chip select are those of its two holders. -/
theorem dmaPool_onSlot (s : Controller) (i : Nat) (inUse : List Nat) (rx tx : Option Nat) :
    (({ s with dmaInUse := inUse } : Controller).onSlot i
      fun p => { p with dmaRxChannel := rx, dmaTxChannel := tx }).dmaPool =
        ⟨Function.update (Function.update s.dmaPool.held (i, .fromDevice) rx) (i, .toDevice) tx,
          inUse⟩ := by
  refine congrArg₂ ResourcePool.mk (funext fun ⟨j, direction⟩ => ?_) rfl
  dsimp only
  by_cases same : j = i
  · subst same
    rw [onSlot_self]
    cases direction with
    | fromDevice =>
        rw [Function.update_of_ne (by simp), Function.update_self]
        rfl
    | toDevice =>
        rw [Function.update_self]
        rfl
  · rw [onSlot_of_ne _ same, Function.update_of_ne (by simp [same]),
      Function.update_of_ne (by simp [same])]
    rfl

/-- Two channels for a chip select that has a context. -/
theorem owned_take (h : DmaOwned equipped s) (rxNone : (s.slots i).dmaRxChannel = none)
    (linked : (s.slots i).cs.isSome = true) {rx tx : Nat} (rxFree : rx ∉ s.dmaInUse)
    (txFree : tx ∉ rx :: s.dmaInUse) :
    DmaOwned equipped (({ s with dmaInUse := tx :: rx :: s.dmaInUse } : Controller).onSlot i
      fun p => { p with dmaRxChannel := some rx, dmaTxChannel := some tx }) where
  sound := by
    have noRx : s.dmaPool.held (i, .fromDevice) = none := rxNone
    have noTx : s.dmaPool.held (i, .toDevice) = none := h.tx_none rxNone
    rw [dmaPool_onSlot]
    exact (h.sound.take noRx rxFree).take (k := (i, .toDevice))
      ((ResourcePool.held_take_of_ne (by simp)).trans noTx) txFree
  both := forall_onSlot (P := fun _ p => p.dmaTxChannel.isSome = p.dmaRxChannel.isSome) rfl
    fun j _ => h.both j
  device kept := forall_onSlot
    (P := fun _ p => p.device.isSome = true → p.dmaRxChannel.isSome = true) (fun _ => rfl)
    fun j _ => h.device kept j
  cs := forall_onSlot (P := fun _ p => p.dmaRxChannel.isSome = true → p.cs.isSome = true)
    (fun _ => linked) fun j _ => h.cs j

theorem owned_device (h : DmaOwned equipped s)
    (holds : (s.slots i).dmaRxChannel.isSome = true) (d : SpiDevice) :
    DmaOwned equipped (s.onSlot i fun p => { p with device := some d }) := by
  have same : ∀ {α : Type} (f : Slot → α), (∀ p, f { p with device := some d } = f p) → ∀ j,
      f ((s.onSlot i fun p => { p with device := some d }).slots j) = f (s.slots j) :=
    fun f keeps => onSlot_field f keeps
  have rx := same Slot.dmaRxChannel fun _ => rfl
  have tx := same Slot.dmaTxChannel fun _ => rfl
  have cs := same Slot.cs fun _ => rfl
  have channel := same Slot.dmaChannel fun _ => rfl
  refine ⟨?_, fun j => ?_, fun kept j device => ?_, fun j some => ?_⟩
  · refine (congrArg ResourcePool.Sound ?_).mp h.sound
    exact congrArg₂ ResourcePool.mk (funext fun k => (congrFun (channel k.1) k.2).symm) rfl
  · rw [rx, tx]
    exact h.both j
  · rw [rx]
    by_cases other : j = i
    · rw [other]
      exact holds
    · rw [onSlot_of_ne s other] at device
      exact h.device kept j device
  · rw [rx] at some
    rw [cs]
    exact h.cs j some

/-- A set-up that returns 0 leaves the chip select with both channels. -/
theorem owned_setupCalls (h : DmaOwned equipped s) (d : SpiDevice) :
    DmaOwned equipped (setupCalls s i d r).1 ∧ ((setupCalls s i d r).2 = 0 →
      ((setupCalls s i d r).1.slots i).dmaRxChannel.isSome = true) := by
  unfold setupCalls
  split
  · exact ⟨h, fun ok => absurd ok (by decide : -einval ≠ 0)⟩
  split
  · exact ⟨h, fun ok => absurd ok (by decide : -enomem ≠ 0)⟩
  dsimp only
  obtain ⟨s₁, isLinked, owned, linked⟩ : ∃ s₁, (if (s.slots i).cs.isNone = true then linkCs s i
      else s) = s₁ ∧ DmaOwned equipped s₁ ∧ (s₁.slots i).cs.isSome = true := by
    split
    · refine ⟨_, rfl, (keepsDma_linkCs s i).owned h, ?_⟩
      exact congrArg (fun p => (Slot.cs p).isSome)
        (onSlot_self s i fun p => { p with cs := some ⟨0, 0⟩ })
    · rename_i isCs
      exact ⟨s, rfl, h, Option.isSome_iff_ne_none.mpr (by simpa using isCs)⟩
  rw [isLinked]
  obtain ⟨requested, isRequested, owned', holds⟩ : ∃ requested : Controller × Bool,
      (if (s₁.slots i).dmaRxChannel.isNone = true ∨ (s₁.slots i).dmaTxChannel.isNone = true then
        requestDma s₁ i r else (s₁, true)) = requested ∧ DmaOwned equipped requested.1 ∧
          (requested.2 = true → (requested.1.slots i).dmaRxChannel.isSome = true) := by
    split
    · rename_i missing
      have rxNone : (s₁.slots i).dmaRxChannel = none := by
        have both := owned.both i
        rcases missing with missing | missing
        · exact Option.isNone_iff_eq_none.mp missing
        · rw [Option.isNone_iff_eq_none.mp missing] at both
          exact Option.not_isSome_iff_eq_none.mp (by rw [← both]; exact Bool.false_ne_true)
      rcases requestDma_cases (r := r) rxNone with refused | ⟨rx, tx, rxFree, txFree, given⟩
      · exact ⟨_, rfl, by rw [refused]; exact owned, by rw [refused]; exact nofun⟩
      · refine ⟨_, rfl, by rw [given]; exact owned_take owned rxNone linked rxFree txFree, ?_⟩
        rw [given]
        dsimp only
        rw [onSlot_self]
        exact fun _ => rfl
    · rename_i missing
      exact ⟨_, rfl, owned, fun _ =>
        Option.isSome_iff_ne_none.mpr (by simpa using (not_or.mp missing).1)⟩
  rw [isRequested]
  split
  · rename_i granted
    have enabled := keepsDma_enableClocks requested.1 (0 ≤ r.clocks)
    split
    · rename_i fails
      exact ⟨enabled.owned owned', fun ok => absurd ok (Int.ne_of_lt fails)⟩
    · have set := enabled.trans (keepsDma_onChannel (i := i) fun c => setupTransfer c d none)
      have all : KeepsDma requested.1 (disableClocks ((enableClocks requested.1
          (0 ≤ r.clocks)).onSlot i fun p => p.onChannel fun c => setupTransfer c d none)) :=
        ⟨set.inUse, set.channel, set.device, set.cs⟩
      refine ⟨all.owned owned', fun _ => ?_⟩
      have rx : _ = (requested.1.slots i).dmaRxChannel := congrFun (all.channel i) .fromDevice
      exact (congrArg Option.isSome rx).trans (holds granted)
  · exact ⟨owned', fun ok => absurd ok (by decide : -eagain ≠ 0)⟩

theorem owned_setup (h : DmaOwned equipped s) (i : Nat) (d : SpiDevice) (r : SetupReplies) :
    DmaOwned equipped (omap2McspiSetup s i d r).1 := by
  obtain ⟨owned, holds⟩ := owned_setupCalls (i := i) (r := r) h d
  unfold omap2McspiSetup
  dsimp only
  split
  · rename_i ok
    exact owned_device owned (holds ok) d
  · exact (keepsDma_onSlot (F := fun p => { p with device := none }) (fun _ => rfl) (fun _ => nofun)
      fun _ => id).owned owned

theorem freeChannel_eq (s : Controller) (channel : Option Nat) :
    freeChannel s channel = { s with dmaInUse := ResourcePool.freed s.dmaInUse channel } := by
  cases channel <;> rfl

/-- What is in use once the chip select has given back its channels. -/
def Controller.dmaInUseWithout (s : Controller) (i : Nat) : List Nat :=
  let withoutRx := ResourcePool.freed s.dmaInUse (s.slots i).dmaRxChannel
  ResourcePool.freed withoutRx (s.slots i).dmaTxChannel

theorem freeChannels_eq (within : i < s.numChipselect) : freeChannels s i =
    ({ s with dmaInUse := s.dmaInUseWithout i } : Controller).onSlot i
      fun p => { p with dmaRxChannel := none, dmaTxChannel := none } := by
  rw [freeChannels, if_pos within]
  dsimp only
  rw [freeChannel_eq, freeChannel_eq]
  rfl

/-- The chip select holds nothing any more. -/
theorem owned_freeChannels (sound : s.dmaPool.Sound)
    (both : ∀ j, (s.slots j).dmaTxChannel.isSome = (s.slots j).dmaRxChannel.isSome)
    (device : equipped → ∀ j, (s.slots j).device.isSome = true →
      j ≠ i ∧ (s.slots j).dmaRxChannel.isSome = true)
    (cs : ∀ j, j ≠ i → (s.slots j).dmaRxChannel.isSome = true → (s.slots j).cs.isSome = true)
    (within : i < s.numChipselect) : DmaOwned equipped (freeChannels s i) := by
  rw [freeChannels_eq within]
  exact {
    sound := by
      have given := (sound.give (i, .fromDevice)).give (i, .toDevice)
      have inUse : ((s.dmaPool.give (i, .fromDevice)).give (i, .toDevice)).inUse =
          s.dmaInUseWithout i := by
        rw [ResourcePool.give, ResourcePool.held_give_of_ne (by simp)]
        rfl
      rw [dmaPool_onSlot, ← inUse]
      exact given
    both := forall_onSlot (P := fun _ p => p.dmaTxChannel.isSome = p.dmaRxChannel.isSome) rfl
      fun j _ => both j
    device := fun kept => forall_onSlot
      (P := fun _ p => p.device.isSome = true → p.dmaRxChannel.isSome = true)
      (fun isDevice => absurd rfl (device kept i isDevice).1)
      fun j _ isDevice => (device kept j isDevice).2
    cs := forall_onSlot (P := fun _ p => p.dmaRxChannel.isSome = true → p.cs.isSome = true) nofun
      cs }

/-- A device that has never been set up goes. -/
theorem owned_release (h : DmaOwned equipped s) (within : i < s.numChipselect)
    (kept : equipped → (s.slots i).device.isSome = false) :
    DmaOwned equipped (omap2McspiCleanup s i false) :=
  owned_freeChannels h.sound h.both
    (fun isEquipped j isDevice => ⟨fun same => Bool.false_ne_true
      ((kept isEquipped).symm.trans (same ▸ isDevice)), h.device isEquipped j isDevice⟩)
    (fun j _ => h.cs j) within

theorem unlinkCs_self (s : Controller) (i : Nat) :
    (unlinkCs s i).slots i = { s.slots i with cs := none, device := none } :=
  onSlot_self { s with ctx := s.ctx.erase i } i fun p => { p with cs := none, device := none }

/-- The context of a device goes with it. -/
theorem owned_cleanup (h : DmaOwned equipped s) (within : i < s.numChipselect) :
    DmaOwned equipped (omap2McspiCleanup s i true) := by
  have channel : ∀ j, ((unlinkCs s i).slots j).dmaChannel = (s.slots j).dmaChannel :=
    onSlot_field (s := { s with ctx := s.ctx.erase i })
      (F := fun p => { p with cs := none, device := none }) Slot.dmaChannel fun _ => rfl
  have rx : ∀ j, ((unlinkCs s i).slots j).dmaRxChannel = (s.slots j).dmaRxChannel := fun j =>
    congrFun (channel j) .fromDevice
  have tx : ∀ j, ((unlinkCs s i).slots j).dmaTxChannel = (s.slots j).dmaTxChannel := fun j =>
    congrFun (channel j) .toDevice
  have other : ∀ j, j ≠ i → (unlinkCs s i).slots j = s.slots j := fun j different =>
    Function.update_of_ne different ..
  change DmaOwned equipped (freeChannels (unlinkCs s i) i)
  refine owned_freeChannels ?_ (fun j => ?_) (fun isEquipped j isDevice => ?_)
    (fun j different => ?_) within
  · have pool : (unlinkCs s i).dmaPool = s.dmaPool :=
      congrArg₂ ResourcePool.mk (funext fun k => congrFun (channel k.1) k.2) rfl
    exact pool ▸ h.sound
  · rw [rx, tx]
    exact h.both j
  · have different : j ≠ i := by
      rintro rfl
      rw [unlinkCs_self] at isDevice
      cases isDevice
    rw [other j different] at isDevice ⊢
    exact ⟨different, h.device isEquipped j isDevice⟩
  · rw [other j different]
    exact h.cs j

/-- A cleanup of a device without a context, which has no channels either. -/
theorem DmaOwned.device_none (h : DmaOwned equipped s) (isCs : (s.slots i).cs.isSome = false) :
    equipped → (s.slots i).device.isSome = false := by
  intro isEquipped
  refine Bool.eq_false_iff.mpr fun isDevice => ?_
  exact Bool.false_ne_true (isCs.symm.trans (h.cs i (h.device isEquipped i isDevice)))

/-- What a step needs for the devices to stay equipped. -/
theorem owned_next (h : DmaOwned equipped s) {e : McspiEvent} (enabled : mcspiEnabled s e)
    (kept : equipped → ¬ TakesChannels s e) : DmaOwned equipped (mcspiNext s e) := by
  cases e with
  | setup i d r => exact owned_setup h i d r
  | cleanup i =>
      change DmaOwned equipped (omap2McspiCleanup s i (s.slots i).cs.isSome)
      cases isCs : (s.slots i).cs.isSome with
      | true => exact owned_cleanup h enabled
      | false => exact owned_release h enabled (h.device_none isCs)
  | release i =>
      exact owned_release h enabled fun isEquipped => Bool.eq_false_iff.mpr (kept isEquipped)
  | prepare clocks =>
      have on := keepsDma_enableClocks s clocks
      have same : KeepsDma s (mcspiNext s (.prepare clocks)) :=
        ⟨on.inUse, on.channel, on.device, on.cs⟩
      exact same.owned h
  | message i q => exact (keepsDma_message s i q).owned h
  | unprepare =>
      have same : KeepsDma s (mcspiNext s .unprepare) :=
        ⟨rfl, fun _ => rfl, fun _ => id, fun _ => id⟩
      exact same.owned h
  | suspend lost => exact (keepsDma_suspend s lost).owned h
  | resume clocks => exact (keepsDma_resume s clocks).owned h

theorem owned_probed (equipped : Prop) (n : Nat) : DmaOwned equipped (probed n) := by
  refine ⟨?_, fun _ => rfl, fun _ _ => nofun, fun _ => nofun⟩
  refine (congrArg ResourcePool.Sound ?_).mp ResourcePool.sound_empty
  exact congrArg₂ ResourcePool.mk (funext fun ⟨i, direction⟩ => by cases direction <;> rfl) rfl

theorem DmaOwned.devices (h : DmaOwned True s) : DevicesEquipped s := by
  intro i isDevice
  have rx := h.device trivial i isDevice
  rw [Slot.hasChannels, h.both i, rx]
  rfl

/-- No channel is left in use when the last context is unlinked. -/
theorem DmaOwned.inUse_nil (h : DmaOwned equipped s)
    (unlinked : ∀ i, (s.slots i).cs.isSome = false) : s.dmaInUse = [] := by
  refine h.sound.inUse_eq_nil fun ⟨i, direction⟩ => ?_
  have rx : (s.slots i).dmaRxChannel = none := Option.not_isSome_iff_eq_none.mp fun some =>
    Bool.false_ne_true ((unlinked i).symm.trans (h.cs i some))
  cases direction with
  | fromDevice => exact rx
  | toDevice => exact h.tx_none rx

/-- A device whose chip select has been released has no channels. -/
theorem TakesChannels.not_equipped {e : McspiEvent} (takes : TakesChannels s e)
    (enabled : mcspiEnabled s e) : ¬ DevicesEquipped (mcspiNext s e) := by
  cases e with
  | release i =>
      intro equipped
      have freed : (mcspiNext s (.release i)).slots i =
          { s.slots i with dmaRxChannel := none, dmaTxChannel := none } := by
        change (freeChannels s i).slots i = _
        rw [freeChannels_eq enabled, onSlot_self]
      have has := equipped i (by rw [freed]; exact takes)
      rw [freed] at has
      cases has
  | setup i d r => exact takes.elim
  | cleanup i => exact takes.elim
  | prepare clocks => exact takes.elim
  | message i q => exact takes.elim
  | unprepare => exact takes.elim
  | suspend lost => exact takes.elim
  | resume clocks => exact takes.elim

end owned

end Gumstix.Mcspi
