import Gumstix.Mcspi.ControllerSteps

/-!
# Runs of the controller

Whatever the devices of a controller do between messages, and whether or not the controller is
suspended in between and loses its registers, the channel of a device that is set up stays idle.
What passes on its line are its own messages, and a pulse without words at each resume. A set-up
that cannot enable the clocks is what keeps a controller from being suspended again.
-/
namespace Gumstix.Mcspi
open Gumstix.Synchronization (Word)

/-- What a step shows on the line of a chip select. -/
def shownBy (i : Nat) (s : Controller) : McspiEvent → List PulseView
  | .message j q =>
      match (s.slots j).device with
      | some d => if i = j then q.pulses d else []
      | none => []
  | .resume _ => if i ∈ s.ctx then [([], [])] else []
  | _ => []

/-- What a run shows on the line of a chip select. -/
def shown (i : Nat) : Controller → List McspiEvent → List PulseView
  | _, [] => []
  | s, e :: es => shownBy i s e ++ shown i (mcspiNext s e) es

/-- Two free channels are offered. -/
def dmaGranted (inUse : List Nat) (r : SetupReplies) : Bool :=
  match r.rxChannel.filter (· ∉ inUse) with
  | none => false
  | some rx => (r.txChannel.filter (· ∉ rx :: inUse)).isSome

/-- A set-up that comes as far as the clocks and cannot enable them. -/
def StallsAtClocks (s : Controller) (i : Nat) (d : SpiDevice) (r : SetupReplies) : Prop :=
  ¬ (d.bitsPerWord < 4 ∨ 32 < d.bitsPerWord) ∧
    ¬ ((s.slots i).cs.isNone = true ∧ ¬ r.allocated = true) ∧
      ((s.slots i).dmaRxChannel.isNone = true ∨ (s.slots i).dmaTxChannel.isNone = true →
        dmaGranted s.dmaInUse r = true) ∧ r.clocks < 0

instance (s : Controller) (i : Nat) (d : SpiDevice) (r : SetupReplies) :
    Decidable (StallsAtClocks s i d r) := inferInstanceAs (Decidable (_ ∧ _ ∧ _ ∧ _))

section usage
variable {s : Controller} {i : Nat} {d : SpiDevice} {r : SetupReplies}

theorem requestDma_granted (s : Controller) (i : Nat) (r : SetupReplies) :
    (requestDma s i r).2 = dmaGranted s.dmaInUse r := by
  unfold requestDma dmaGranted requestChannel
  cases r.rxChannel.filter (· ∉ s.dmaInUse) with
  | none => rfl
  | some rx =>
      dsimp only [Controller.onSlot]
      cases r.txChannel.filter (· ∉ rx :: s.dmaInUse) <;> rfl

theorem usage_enableClocks (s : Controller) (succeeds : Bool) :
    (enableClocks s succeeds).usage = s.usage + 1 := by
  obtain ⟨slots, l, l', isEnabled⟩ := enableClocks_eq s succeeds
  rw [isEnabled]

/-- Each set-up that stalls keeps a count of the power management. -/
theorem usage_setup : (omap2McspiSetup s i d r).1.usage =
    s.usage + if StallsAtClocks s i d r then 1 else 0 := by
  change (setupCalls s i d r).1.usage = _
  unfold setupCalls
  by_cases bits : d.bitsPerWord < 4 ∨ 32 < d.bitsPerWord
  · rw [if_pos bits, if_neg fun stalls : StallsAtClocks s i d r => stalls.1 bits]
    exact (Int.add_zero _).symm
  by_cases memory : (s.slots i).cs.isNone = true ∧ ¬ r.allocated = true
  · rw [if_neg bits, if_pos memory,
      if_neg fun stalls : StallsAtClocks s i d r => stalls.2.1 memory]
    exact (Int.add_zero _).symm
  rw [if_neg bits, if_neg memory]
  dsimp only
  obtain ⟨s₁, isLinked, usage, inUse, rx, tx⟩ : ∃ s₁, (if (s.slots i).cs.isNone = true then
      linkCs s i else s) = s₁ ∧ s₁.usage = s.usage ∧ s₁.dmaInUse = s.dmaInUse ∧
        (s₁.slots i).dmaRxChannel = (s.slots i).dmaRxChannel ∧
          (s₁.slots i).dmaTxChannel = (s.slots i).dmaTxChannel := by
    split
    · exact ⟨_, rfl, rfl, rfl,
        onSlot_field (F := fun p => { p with cs := some ⟨0, 0⟩ }) Slot.dmaRxChannel
          (fun _ => rfl) i,
        onSlot_field (F := fun p => { p with cs := some ⟨0, 0⟩ }) Slot.dmaTxChannel
          (fun _ => rfl) i⟩
    · exact ⟨s, rfl, rfl, rfl, rfl, rfl⟩
  rw [isLinked, rx, tx]
  obtain ⟨requested, isRequested, usage', granted⟩ : ∃ requested : Controller × Bool,
      (if (s.slots i).dmaRxChannel.isNone = true ∨ (s.slots i).dmaTxChannel.isNone = true then
        requestDma s₁ i r else (s₁, true)) = requested ∧ requested.1.usage = s.usage ∧
      (requested.2 = true ↔ ((s.slots i).dmaRxChannel.isNone = true ∨
        (s.slots i).dmaTxChannel.isNone = true → dmaGranted s.dmaInUse r = true)) := by
    split
    · rename_i channels
      refine ⟨_, rfl, (requestDma_onlyDma s₁ i r).usage.trans usage, ?_⟩
      rw [requestDma_granted, inUse]
      exact ⟨fun all _ => all, fun all => all channels⟩
    · rename_i channels
      exact ⟨_, rfl, usage, iff_of_true rfl fun missing => absurd missing channels⟩
  rw [isRequested]
  by_cases all : requested.2 = true
  · rw [if_pos all]
    by_cases fails : r.clocks < 0
    · rw [if_pos fails, if_pos ⟨bits, memory, granted.mp all, fails⟩]
      exact (usage_enableClocks _ _).trans (congrArg (· + 1) usage')
    · rw [if_neg fails, if_neg fun stalls : StallsAtClocks s i d r => fails stalls.2.2.2]
      change (enableClocks requested.1 (0 ≤ r.clocks)).usage - 1 = _
      rw [usage_enableClocks, usage', Int.add_sub_cancel, Int.add_zero]
  · rw [if_neg all,
      if_neg fun stalls : StallsAtClocks s i d r => all (granted.mpr stalls.2.2.1), Int.add_zero]
    exact usage'

/-- What an event adds to the count of the power management. -/
def usageOf (s : Controller) : McspiEvent → Int
  | .setup i d r => if StallsAtClocks s i d r then 1 else 0
  | .prepare _ => 1
  | .unprepare => -1
  | _ => 0

theorem usage_suspend (s : Controller) (lost : Option Word) :
    (suspend s lost).usage = s.usage := by
  cases lost <;> rfl

theorem usage_resume (s : Controller) (clocks : Bool) :
    (omap2McspiResume s clocks).usage = s.usage := by
  unfold omap2McspiResume
  dsimp only
  obtain ⟨slots, all⟩ := eachCs_slots (enableClocks s clocks)
    fun c => if c.chconf0 &&& chconfForce = 0 then forceCs (forceCs c true) false else c
  rw [all]
  change (enableClocks s clocks).usage - 1 = _
  rw [usage_enableClocks, Int.add_sub_cancel]

/-- A device that goes leaves the power management as it is. -/
theorem cleanup_power (s : Controller) (i : Nat) (controllerState : Bool) :
    (omap2McspiCleanup s i controllerState).usage = s.usage ∧
      (omap2McspiCleanup s i controllerState).prepared = s.prepared := by
  have freed := freeChannels_onlyDma (if controllerState then unlinkCs s i else s) i
  cases controllerState with
  | false => exact ⟨freed.usage, freed.prepared⟩
  | true => exact ⟨freed.usage, freed.prepared⟩

theorem usage_message (s : Controller) (i : Nat) (q : Request) :
    (transferMessage s i q).usage = s.usage := by
  unfold transferMessage
  split <;> rfl

theorem usage_next (s : Controller) (e : McspiEvent) :
    (mcspiNext s e).usage = s.usage + usageOf s e := by
  cases e with
  | setup i d r => exact usage_setup
  | cleanup i => exact (cleanup_power s i _).1.trans (Int.add_zero _).symm
  | release i => exact (cleanup_power s i _).1.trans (Int.add_zero _).symm
  | prepare clocks => exact usage_enableClocks s clocks
  | message i q => exact (usage_message s i q).trans (Int.add_zero _).symm
  | unprepare => rfl
  | suspend lost => exact (usage_suspend s lost).trans (Int.add_zero _).symm
  | resume clocks => exact (usage_resume s clocks).trans (Int.add_zero _).symm

theorem prepared_enableClocks (s : Controller) (succeeds : Bool) :
    (enableClocks s succeeds).prepared = s.prepared := by
  obtain ⟨slots, l, l', isEnabled⟩ := enableClocks_eq s succeeds
  rw [isEnabled]

theorem prepared_setup : (omap2McspiSetup s i d r).1.prepared = s.prepared := by
  change (setupCalls s i d r).1.prepared = _
  unfold setupCalls
  split
  · rfl
  split
  · rfl
  dsimp only
  have linked : (if (s.slots i).cs.isNone = true then linkCs s i else s).prepared =
      s.prepared := by split <;> rfl
  generalize (if (s.slots i).cs.isNone = true then linkCs s i else s) = s₁ at linked ⊢
  obtain ⟨requested, isRequested, kept⟩ : ∃ requested : Controller × Bool,
      (if (s₁.slots i).dmaRxChannel.isNone = true ∨ (s₁.slots i).dmaTxChannel.isNone = true then
        requestDma s₁ i r else (s₁, true)) = requested ∧ requested.1.prepared = s.prepared := by
    split
    · exact ⟨_, rfl, (requestDma_onlyDma s₁ i r).prepared.trans linked⟩
    · exact ⟨_, rfl, linked⟩
  rw [isRequested]
  split
  · have enabled := (prepared_enableClocks _ (0 ≤ r.clocks)).trans kept
    split <;> exact enabled
  · exact kept

theorem prepared_resume (s : Controller) (clocks : Bool) :
    (omap2McspiResume s clocks).prepared = s.prepared := by
  unfold omap2McspiResume
  dsimp only
  obtain ⟨slots, all⟩ := eachCs_slots (enableClocks s clocks)
    fun c => if c.chconf0 &&& chconfForce = 0 then forceCs (forceCs c true) false else c
  rw [all]
  exact prepared_enableClocks s clocks

/-- A set-up that stalls. -/
def Stalls (s : Controller) : McspiEvent → Prop
  | .setup i d r => StallsAtClocks s i d r
  | _ => False

instance (s : Controller) : DecidablePred (Stalls s)
  | .setup i d r => inferInstanceAs (Decidable (StallsAtClocks s i d r))
  | .cleanup _ | .release _ | .prepare _ | .message _ _ | .unprepare | .suspend _ | .resume _ =>
      inferInstanceAs (Decidable False)

/-- What the power management counts beside a prepared controller. -/
def excess (s : Controller) : Int := s.usage - if s.prepared then 1 else 0

/-- A step that is neither `prepare` nor `unprepare`. -/
theorem excess_of_prepared {m : Int} {s s' : Controller} (usage : s'.usage = s.usage + m)
    (prepared : s'.prepared = s.prepared) : excess s' = excess s + m := by
  unfold excess
  rw [usage, prepared]
  omega

theorem excess_next {e : McspiEvent} (enabled : mcspiEnabled s e) :
    excess (mcspiNext s e) = excess s + if Stalls s e then 1 else 0 := by
  have usage := usage_next s e
  cases e with
  | setup i d r => exact excess_of_prepared usage prepared_setup
  | cleanup i => exact excess_of_prepared usage (cleanup_power s i _).2
  | release i => exact excess_of_prepared usage (cleanup_power s i _).2
  | prepare clocks =>
      have off : s.prepared = false := enabled
      have on : (mcspiNext s (.prepare clocks)).prepared = true := rfl
      unfold excess
      rw [usage, on, off]
      change s.usage + 1 - 1 = s.usage - 0 + 0
      omega
  | message i q =>
      refine excess_of_prepared usage ?_
      change (transferMessage s i q).prepared = _
      unfold transferMessage
      split <;> rfl
  | unprepare =>
      have on : s.prepared = true := enabled
      have off : (mcspiNext s .unprepare).prepared = false := rfl
      unfold excess
      rw [usage, on, off]
      change s.usage + -1 - 0 = s.usage - 1 + 0
      omega
  | suspend lost =>
      refine excess_of_prepared usage ?_
      cases lost <;> rfl
  | resume clocks => exact excess_of_prepared usage (prepared_resume s clocks)

theorem excess_le_next {e : McspiEvent} (enabled : mcspiEnabled s e) :
    excess s ≤ excess (mcspiNext s e) := by
  rw [excess_next enabled]
  split <;> omega

theorem excess_le_run {es : List McspiEvent} (admits : mcspiMachine.Admits s es) :
    excess s ≤ excess (mcspiMachine.run s es) :=
  EventMachine.kept_by_run (I := fun t => excess s ≤ excess t)
    (fun _ _ h enabled => h.trans (excess_le_next enabled)) (Int.le_refl _) admits

/-- A set-up that stalls is counted for good. -/
theorem excess_run_iff {es : List McspiEvent} (admits : mcspiMachine.Admits s es) :
    excess (mcspiMachine.run s es) = excess s ↔
      mcspiMachine.EveryStep (fun s e => ¬ Stalls s e) s es := by
  induction es generalizing s with
  | nil => exact iff_of_true rfl trivial
  | cons e es ih =>
      have next : excess (mcspiMachine.next s e) = excess s + if Stalls s e then 1 else 0 :=
        excess_next admits.1
      have least := excess_le_run admits.2
      have rest := ih admits.2
      change excess (mcspiMachine.run (mcspiMachine.next s e) es) = _ ↔
        ¬ Stalls s e ∧ mcspiMachine.EveryStep _ (mcspiMachine.next s e) es
      by_cases stalls : Stalls s e
      · rw [if_pos stalls] at next
        exact iff_of_false (by omega) fun both => both.1 stalls
      · rw [if_neg stalls, Int.add_zero] at next
        rw [← next, rest]
        exact (and_iff_right stalls).symm

end usage

section runs
variable {s : Controller} {n : Nat}

/-- Each step of a run keeps the invariant, and shows what the run shows. -/
theorem next_step (h : ControllerInv s) {e : McspiEvent} (enabled : mcspiEnabled s e) :
    ControllerStep s (mcspiNext s e) fun i => shownBy i s e := by
  cases e with
  | setup i d r => exact setup_step h i d r
  | cleanup i => exact cleanup_step h i _
  | release i => exact cleanup_step h i _
  | prepare clocks =>
      have step := enableClocks_step h clocks
      exact ⟨⟨step.inv.slots, step.inv.linked, step.inv.nodup⟩, step.finished, step.strays⟩
  | message i q =>
      obtain ⟨-, set, served⟩ := enabled
      obtain ⟨d, device⟩ := Option.isSome_iff_exists.mp set
      have step := message_step h device fun accepted => (served accepted).1
      have same : (fun j => shownBy j s (.message i q)) =
          fun j => if j = i then q.pulses d else [] := by
        funext j
        dsimp only [shownBy]
        rw [device]
      rw [same]
      exact step
  | unprepare => exact ⟨⟨h.slots, h.linked, h.nodup⟩, h.stays.finished, h.stays.strays⟩
  | suspend lost => exact suspend_step h enabled.2
  | resume clocks => exact resume_step h enabled

theorem run_step {es : List McspiEvent} (h : ControllerInv s)
    (admits : mcspiMachine.Admits s es) :
    ControllerStep s (mcspiMachine.run s es) fun i => shown i s es := by
  induction es generalizing s with
  | nil => exact h.stays
  | cons e es ih =>
      have step := next_step h admits.1
      exact step.trans (ih step.inv admits.2)

theorem probed_inv (n : Nat) : ControllerInv (probed n) :=
  ⟨fun _ => ⟨rfl, rfl, nofun, nofun⟩, fun _ => iff_of_false List.not_mem_nil Bool.false_ne_true,
    List.nodup_nil⟩

/-- A message whose receptions by DMA have the words that the driver reads itself. -/
def MessageFits (s : Controller) : McspiEvent → Prop
  | .message i q => ∀ d ∈ (s.slots i).device, q.FitsDma d
  | _ => True

instance (s : Controller) : DecidablePred (MessageFits s)
  | .message i q => inferInstanceAs (Decidable (∀ d ∈ (s.slots i).device, q.FitsDma d))
  | .setup _ _ _ | .cleanup _ | .release _ | .prepare _ | .unprepare | .suspend _ | .resume _ =>
      inferInstanceAs (Decidable True)

/-- A message by which the DMA writes nothing behind a receive buffer. -/
def MessageStaysInside (s : Controller) : McspiEvent → Prop
  | .message i q => ∀ d ∈ (s.slots i).device, q.StaysInside d
  | _ => True

theorem messageStaysInside (h : ControllerInv s) {e : McspiEvent} (fits : MessageFits s e) :
    MessageStaysInside s e := by
  cases e with
  | message i q =>
      exact fun d device => staysInside ((h.slots i).device d device).1 (fits d device)
  | _ => trivial

/-- A message on a channel between two messages, or on any channel if it is refused. -/
theorem slot_outcome {powered : Bool} {p : Slot} {d : SpiDevice} {cs : Cs} {q : Request}
    (h : SlotInv powered p) (device : p.device = some d) (isCs : p.cs = some cs)
    (on : q.accepted = true → powered = true) :
    (transferRequest d q ⟨cs.wordLen, cs.chconf0, p.registers⟩).outcome = q.outcome d := by
  cases accepted : q.accepted with
  | false =>
      obtain ⟨a, refused⟩ := transferRequest_refused (d := d)
        (c := ⟨cs.wordLen, cs.chconf0, p.registers⟩) accepted
      rw [refused, Request.outcome, if_neg (by rw [accepted]; exact Bool.false_ne_true)]
      rfl
  | true =>
      obtain ⟨valid, cs', some, idle⟩ := (on accepted ▸ h).idle device
      obtain rfl := Option.some.inj (isCs.symm.trans some)
      exact (transferRequest_spec valid idle q).2.2.2

/-- Two channels of the DMA and working clocks. -/
def granted (rx tx : Nat) : SetupReplies := ⟨true, some rx, some tx, 0⟩

def threeWordsRequest : Request :=
  ⟨⟨[threeWords], true⟩, fun _ => true, fun _ => .prompt fun _ => 7⟩

/-- Two devices; the controller loses its registers between their messages. -/
def lostRegistersRun : List McspiEvent :=
  [.setup 0 sixteenBits (granted 1 2), .setup 1 sixteenBits (granted 3 4), .prepare true,
    .message 0 threeWordsRequest, .unprepare, .suspend (some 0), .prepare true,
    .message 1 threeWordsRequest]

end runs

end Gumstix.Mcspi
