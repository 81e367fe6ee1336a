import Gumstix.Mcspi.Controller

/-!
# Steps of the controller

Each call keeps the channels of the devices idle, whether or not the controller has power, and
shows on the lines the messages alone. The invariant and what a call shows are those of one chip
select at a time; a call that visits the linked contexts is one such step for each of them.
-/
namespace Gumstix.Mcspi
open Gumstix.Synchronization (Word)

/-- Between messages. While the controller has power, the register of a device is its context. -/
structure SlotInv (powered : Bool) (p : Slot) : Prop where
  pulse : p.registers.pulse = none
  disabled : p.registers.chctrl = 0
  force : ∀ cs ∈ p.cs, isOn cs.chconf0 chconfForce = false
  device : ∀ d ∈ p.device, ValidWordLen (wordLenOf d none) ∧ ∃ cs, p.cs = some cs ∧
    cs.wordLen = (wordLenOf d none).toNat ∧ cs.chconf0 &&& settingsMask = settingsOf d none ∧
      (powered = true → p.registers.chconf = cs.chconf0)

/-- The finished pulses of a chip select. -/
def Slot.finished (p : Slot) : List PulseView := p.registers.pulses.map Pulse.view

/-- A chip select after a step that keeps the invariant and finishes the pulses `m`. -/
structure SlotStep (powered : Bool) (p p' : Slot) (m : List PulseView) : Prop where
  inv : SlotInv powered p'
  finished : p'.finished = p.finished ++ m
  strays : p'.registers.strays = p.registers.strays

section slots
variable {powered : Bool} {p : Slot} {d : SpiDevice}

theorem SlotInv.stays (h : SlotInv powered p) : SlotStep powered p p [] :=
  ⟨h, (List.append_nil _).symm, rfl⟩

/-- The channel of a device is idle while the controller has power. -/
theorem SlotInv.idle (h : SlotInv true p) (device : p.device = some d) :
    ValidWordLen (wordLenOf d none) ∧ ∃ cs, p.cs = some cs ∧
      Idle d ⟨cs.wordLen, cs.chconf0, p.registers⟩ := by
  obtain ⟨valid, cs, isCs, wordLen, settings, shadow⟩ := h.device d device
  refine ⟨valid, cs, isCs, ⟨shadow rfl, ?_⟩, h.pulse, h.disabled, wordLen, settings⟩
  change isOn cs.chconf0 chconfForce = p.registers.pulse.isSome
  rw [h.force cs isCs, h.pulse]
  rfl

theorem SlotInv.weaken (h : SlotInv powered p) : SlotInv false p where
  pulse := h.pulse
  disabled := h.disabled
  force := h.force
  device d device := by
    obtain ⟨valid, cs, isCs, wordLen, settings, -⟩ := h.device d device
    exact ⟨valid, cs, isCs, wordLen, settings, nofun⟩

/-- Without `FORCE` a write to an unselected channel changes the register alone. -/
theorem writeChconf_unselected {r : Registers} {l : Word} (pulse : r.pulse = none)
    (off : isOn l chconfForce = false) : r.writeChconf l = { r with chconf := l } :=
  writeChconf_of_force (by rw [off, pulse]; rfl)

theorem SlotInv.device_of_cs (h : SlotInv powered p) (isCs : p.cs = none) : p.device = none := by
  cases device : p.device with
  | none => rfl
  | some d =>
      obtain ⟨-, cs, some, -⟩ := h.device d device
      rw [isCs] at some
      cases some

theorem restore_slot (h : SlotInv powered p) :
    SlotStep true p (p.onChannel fun c => writeChconf0 c c.chconf0) [] := by
  unfold Slot.onChannel
  cases isCs : p.cs with
  | none =>
      have noDevice := h.device_of_cs isCs
      exact ⟨⟨h.pulse, h.disabled, h.force, by rw [noDevice]; nofun⟩, (List.append_nil _).symm, rfl⟩
  | some cs =>
      have off := h.force cs isCs
      dsimp only [writeChconf0]
      rw [writeChconf_unselected h.pulse off]
      refine ⟨⟨h.pulse, h.disabled, ?_, ?_⟩, (List.append_nil _).symm, rfl⟩
      · intro cs' same
        obtain rfl := Option.some.inj same
        exact off
      · intro d device
        obtain ⟨valid, cs', some, wordLen, settings, -⟩ := h.device d device
        obtain rfl := Option.some.inj (isCs.symm.trans some)
        exact ⟨valid, cs, rfl, wordLen, settings, fun _ => rfl⟩

theorem suspend_slot (h : SlotInv powered p) {l : Word} (off : isOn l chconfForce = false) :
    SlotStep false p { p with registers := { p.registers.writeChconf l with chctrl := 0 } } [] := by
  rw [writeChconf_unselected h.pulse off]
  refine ⟨⟨h.pulse, rfl, h.force, fun d device => ?_⟩, (List.append_nil _).symm, rfl⟩
  obtain ⟨valid, cs, isCs, wordLen, settings, -⟩ := h.device d device
  exact ⟨valid, cs, isCs, wordLen, settings, nofun⟩

/-- The set-up of a device that has a context. -/
theorem setup_slot (h : SlotInv powered p) (valid : ValidWordLen (wordLenOf d none))
    (linked : p.cs.isSome = true) : SlotStep powered p
      { p.onChannel (fun c => setupTransfer c d none) with device := some d } [] := by
  obtain ⟨cs, isCs⟩ := Option.isSome_iff_exists.mp linked
  have force : isOn cs.chconf0 chconfForce = p.registers.pulse.isSome := by
    rw [h.force cs isCs, h.pulse]
    rfl
  obtain ⟨tracked, line, wordLen, settings⟩ := setupTransfer_spec (t := none)
    (c := ⟨cs.wordLen, cs.chconf0, p.registers⟩) valid force
  have disabled :
      (setupTransfer ⟨cs.wordLen, cs.chconf0, p.registers⟩ d none).registers.chctrl = 0 :=
    (chctrl_writeChconf _ _).trans h.disabled
  unfold Slot.onChannel
  rw [isCs]
  dsimp only
  refine ⟨⟨line.pulse.trans h.pulse, disabled, ?_, ?_⟩, ?_, line.strays⟩
  · intro cs' same
    obtain rfl := Option.some.inj same
    exact tracked.force.trans (by rw [line.pulse]; exact congrArg Option.isSome h.pulse)
  · intro d' same
    obtain rfl := Option.some.inj same
    exact ⟨valid, _, rfl, wordLen, settings, fun _ => tracked.shadow⟩
  · rw [List.append_nil]
    exact congrArg (List.map Pulse.view) line.pulses

/-- A message that is refused leaves the channel alone. -/
theorem refused_slot (h : SlotInv powered p) {q : Request} (refused : q.accepted = false) :
    SlotStep powered p (p.onChannel fun c => (transferRequest d q c).channel) (q.pulses d) := by
  have pulses : q.pulses d = [] := if_neg (by rw [refused]; exact Bool.false_ne_true)
  have same : p.onChannel (fun c => (transferRequest d q c).channel) = p := by
    unfold Slot.onChannel
    cases isCs : p.cs with
    | none => rfl
    | some cs =>
        obtain ⟨a, left⟩ := transferRequest_refused (d := d)
          (c := ⟨cs.wordLen, cs.chconf0, p.registers⟩) refused
        dsimp only
        rw [left, ← isCs]
  rw [same, pulses]
  exact h.stays

/-- A message of the device. -/
theorem message_slot (h : SlotInv true p) (device : p.device = some d) (q : Request) :
    SlotStep true p (p.onChannel fun c => (transferRequest d q c).channel) (q.pulses d) := by
  obtain ⟨valid, cs, isCs, idle⟩ := h.idle device
  obtain ⟨idle', finished, strays, -⟩ := transferRequest_spec valid idle q
  unfold Slot.onChannel
  rw [isCs]
  refine ⟨⟨idle'.pulse, idle'.disabled, ?_, ?_⟩, finished, strays⟩
  · intro cs' same
    obtain rfl := Option.some.inj same
    exact idle'.tracked.force.trans (by rw [idle'.pulse]; rfl)
  · intro d' device'
    obtain rfl := Option.some.inj (device.symm.trans device')
    exact ⟨valid, _, rfl, idle'.wordLen, idle'.settings, fun _ => idle'.tracked.shadow⟩

theorem forceCs_chctrl (c : Channel) (active : Bool) :
    (forceCs c active).registers.chctrl = c.registers.chctrl := chctrl_writeChconf _ _

/-- The chip select is toggled. -/
theorem resume_slot (h : SlotInv true p) :
    SlotStep true p (p.onChannel fun c =>
      if c.chconf0 &&& chconfForce = 0 then forceCs (forceCs c true) false else c)
      (if p.cs.isSome then [([], [])] else []) := by
  unfold Slot.onChannel
  cases isCs : p.cs with
  | none => exact h.stays
  | some cs =>
      have off : cs.chconf0 &&& chconfForce = 0 := by
        have off := h.force cs isCs
        rw [isOn, decide_eq_false_iff_not, not_not] at off
        exact off
      obtain ⟨-, pulse, pulses, strays⟩ := forceCs_true ⟨cs.wordLen, cs.chconf0, p.registers⟩
      obtain ⟨tracked, pulse', pulses', strays'⟩ := forceCs_false
        (forceCs ⟨cs.wordLen, cs.chconf0, p.registers⟩ true)
      have settings := (forceCs_settings (c := forceCs ⟨cs.wordLen, cs.chconf0, p.registers⟩ true)
        false).trans (forceCs_settings true)
      dsimp only
      rw [if_pos off]
      refine ⟨⟨pulse', ?_, ?_, ?_⟩, ?_, strays'.trans strays⟩
      · exact (forceCs_chctrl _ _).trans ((forceCs_chctrl _ _).trans h.disabled)
      · intro cs' same
        obtain rfl := Option.some.inj same
        exact modRegBit_force false
      · intro d device
        obtain ⟨valid, cs', some, wordLen, isSettings, -⟩ := h.device d device
        obtain rfl := Option.some.inj (isCs.symm.trans some)
        exact ⟨valid, _, rfl, wordLen, settings.trans isSettings, fun _ => tracked.shadow⟩
      · rw [Slot.finished, pulses', pulses, pulse, h.pulse, List.map_append]
        rfl

end slots

/-- The contexts of the devices are linked, each once. -/
structure ControllerInv (s : Controller) : Prop where
  slots : ∀ i, SlotInv s.powered (s.slots i)
  linked : ∀ i, i ∈ s.ctx ↔ (s.slots i).cs.isSome = true
  nodup : s.ctx.Nodup

/-- A step that keeps the invariant and finishes the pulses `m`. -/
structure ControllerStep (s s' : Controller) (m : Nat → List PulseView) : Prop where
  inv : ControllerInv s'
  finished : ∀ i, (s'.slots i).finished = (s.slots i).finished ++ m i
  strays : ∀ i, (s'.slots i).registers.strays = (s.slots i).registers.strays

section steps
variable {s s' s'' : Controller} {i : Nat} {m m' : Nat → List PulseView}

theorem ControllerInv.stays (h : ControllerInv s) : ControllerStep s s fun _ => [] :=
  ⟨h, fun _ => (List.append_nil _).symm, fun _ => rfl⟩

theorem ControllerStep.trans (h : ControllerStep s s' m) (h' : ControllerStep s' s'' m') :
    ControllerStep s s'' fun i => m i ++ m' i where
  inv := h'.inv
  finished i := by rw [h'.finished, h.finished, List.append_assoc]
  strays i := (h'.strays i).trans (h.strays i)

/-- What holds of the chip select that has changed and of all others. -/
theorem forall_onSlot {F : Slot → Slot} {P : Nat → Slot → Prop} (here : P i (F (s.slots i)))
    (others : ∀ j, j ≠ i → P j (s.slots j)) : ∀ j, P j ((s.onSlot i F).slots j) := by
  intro j
  by_cases same : j = i
  · subst same
    rw [onSlot_self]
    exact here
  · rw [onSlot_of_ne s same]
    exact others j same

/-- A step on one chip select, which links or unlinks its context. -/
theorem onSlot_ctx_step {F : Slot → Slot} {ctx : List Nat} {m : List PulseView}
    (h : ControllerInv s) (slot : SlotStep s.powered (s.slots i) (F (s.slots i)) m)
    (nodup : ctx.Nodup) (linked : i ∈ ctx ↔ (F (s.slots i)).cs.isSome = true)
    (others : ∀ j, j ≠ i → (j ∈ ctx ↔ j ∈ s.ctx)) :
    ControllerStep s { s.onSlot i F with ctx := ctx } fun j => if j = i then m else [] where
  inv := {
    slots := forall_onSlot (P := fun _ p => SlotInv s.powered p) slot.inv fun j _ => h.slots j
    linked := forall_onSlot (P := fun j p => j ∈ ctx ↔ p.cs.isSome = true) linked
      fun j other => (others j other).trans (h.linked j)
    nodup := nodup }
  finished := forall_onSlot
    (P := fun j p => p.finished = (s.slots j).finished ++ if j = i then m else [])
    (by rw [if_pos rfl]; exact slot.finished)
    fun j other => by rw [if_neg other, List.append_nil]
  strays := forall_onSlot (P := fun j p => p.registers.strays = (s.slots j).registers.strays)
    slot.strays fun _ _ => rfl

/-- A step on one chip select. -/
theorem onSlot_step {F : Slot → Slot} {m : List PulseView} (h : ControllerInv s)
    (slot : SlotStep s.powered (s.slots i) (F (s.slots i)) m)
    (linked : (F (s.slots i)).cs.isSome = (s.slots i).cs.isSome) :
    ControllerStep s (s.onSlot i F) fun j => if j = i then m else [] :=
  onSlot_ctx_step h slot h.nodup (linked.symm ▸ h.linked i) fun _ _ => Iff.rfl

theorem foldl_onSlot (F : Slot → Slot) {l : List Nat} (nodup : l.Nodup) (s : Controller) :
    l.foldl (fun s i => s.onSlot i F) s =
      { s with slots := fun i => if i ∈ l then F (s.slots i) else s.slots i } := by
  induction l generalizing s with
  | nil => simp
  | cons j l ih =>
      rw [List.nodup_cons] at nodup
      rw [List.foldl_cons, ih nodup.2]
      refine congrArg (fun slots => { s with slots := slots }) (funext fun i => ?_)
      dsimp only [Controller.onSlot]
      by_cases same : i = j
      · subst same
        rw [if_neg nodup.1, if_pos List.mem_cons_self, Function.update_self]
      · rw [Function.update_of_ne same]
        simp only [List.mem_cons, same, false_or]

theorem eachCs_slots (s : Controller) (f : Channel → Channel) :
    ∃ slots, s.eachCs f = { s with slots := slots } := by
  unfold Controller.eachCs
  have all : ∀ (l : List Nat) (s : Controller),
      ∃ slots, l.foldl (fun s i => s.onSlot i fun p => p.onChannel f) s =
        { s with slots := slots } := by
    intro l
    induction l with
    | nil => exact fun s => ⟨s.slots, rfl⟩
    | cons j l ih =>
        intro s
        obtain ⟨slots, rest⟩ := ih (s.onSlot j fun p => p.onChannel f)
        exact ⟨slots, rest⟩
  exact all s.ctx s

/-- Each linked context is visited once. -/
theorem eachCs_eq (nodup : s.ctx.Nodup) (f : Channel → Channel) : s.eachCs f = { s with
    slots := fun i => if i ∈ s.ctx then (s.slots i).onChannel f else s.slots i } :=
  foldl_onSlot (fun p => p.onChannel f) nodup s

theorem onChannel_cs (p : Slot) (f : Channel → Channel) :
    (p.onChannel f).cs.isSome = p.cs.isSome := by
  unfold Slot.onChannel
  cases isCs : p.cs with
  | none => rw [isCs]
  | some cs => rfl

/-- What holds of the visited chip selects and of the others. -/
theorem forall_visited {l : List Nat} {F : Slot → Slot} {P : Nat → Slot → Prop}
    (visited : ∀ i, i ∈ l → P i (F (s.slots i))) (others : ∀ i, i ∉ l → P i (s.slots i)) :
    ∀ i, P i (if i ∈ l then F (s.slots i) else s.slots i) := by
  intro i
  split
  · exact visited i ‹_›
  · exact others i ‹_›

/-- A step on every linked chip select. -/
theorem eachCs_step {f : Channel → Channel} (powered : Bool) (shown : Slot → List PulseView)
    (h : ControllerInv s) (slot : ∀ i, i ∈ s.ctx →
      SlotStep powered (s.slots i) ((s.slots i).onChannel f) (shown (s.slots i)))
    (others : ∀ i, i ∉ s.ctx → SlotInv powered (s.slots i)) :
    ControllerStep s { s.eachCs f with powered := powered }
      fun i => if i ∈ s.ctx then shown (s.slots i) else [] := by
  rw [eachCs_eq h.nodup]
  exact {
    inv := {
      slots := forall_visited (F := fun p => p.onChannel f) (P := fun _ p => SlotInv powered p)
        (fun i linked => (slot i linked).inv) others
      linked := forall_visited (F := fun p => p.onChannel f)
        (P := fun i p => i ∈ s.ctx ↔ p.cs.isSome = true)
        (fun i _ => (onChannel_cs (s.slots i) f).symm ▸ h.linked i) fun i _ => h.linked i
      nodup := h.nodup }
    finished := forall_visited (F := fun p => p.onChannel f)
      (P := fun i p => p.finished =
        (s.slots i).finished ++ if i ∈ s.ctx then shown (s.slots i) else [])
      (fun i linked => by rw [if_pos linked]; exact (slot i linked).finished)
      fun i unlinked => by rw [if_neg unlinked, List.append_nil]
    strays := forall_visited (F := fun p => p.onChannel f)
      (P := fun i p => p.registers.strays = (s.slots i).registers.strays)
      (fun i linked => (slot i linked).strays) fun _ _ => rfl }

theorem SlotInv.of_unlinked {powered powered' : Bool} {p : Slot} (h : SlotInv powered p)
    (isCs : p.cs = none) : SlotInv powered' p where
  pulse := h.pulse
  disabled := h.disabled
  force := h.force
  device := by
    rw [h.device_of_cs isCs]
    nofun

theorem ControllerInv.cs_of_notMem (h : ControllerInv s) (unlinked : i ∉ s.ctx) :
    (s.slots i).cs = none := by
  rw [h.linked i] at unlinked
  exact Option.not_isSome_iff_eq_none.mp unlinked

/-- Enabling the clocks resumes the controller, which shows nothing on the lines. -/
theorem enableClocks_step (h : ControllerInv s) (succeeds : Bool) :
    ControllerStep s (enableClocks s succeeds) fun _ => [] := by
  unfold enableClocks
  dsimp only
  split
  · have restored := eachCs_step (s := { s with
        usage := s.usage + 1
        modulctrl := s.ctxModulctrl
        wakeupenable := s.ctxWakeupenable })
      (f := fun c => writeChconf0 c c.chconf0) true (fun _ => [])
      ⟨h.slots, h.linked, h.nodup⟩ (fun i _ => restore_slot (h.slots i))
      fun i unlinked => (h.slots i).of_unlinked (h.cs_of_notMem unlinked)
    simp only [ite_self] at restored
    exact ⟨restored.inv, restored.finished, restored.strays⟩
  · exact ⟨⟨h.slots, h.linked, h.nodup⟩, h.stays.finished, h.stays.strays⟩

/-- Enabling the clocks of a suspended controller changes its power and its registers. -/
theorem enableClocks_eq (s : Controller) (succeeds : Bool) : ∃ slots l l',
    enableClocks s succeeds = { s with
      slots := slots
      modulctrl := l
      wakeupenable := l'
      usage := s.usage + 1
      powered := succeeds || s.powered } := by
  unfold enableClocks
  dsimp only
  split
  · rename_i suspended
    obtain ⟨slots, restored⟩ := eachCs_slots { s with
        usage := s.usage + 1
        modulctrl := s.ctxModulctrl
        wakeupenable := s.ctxWakeupenable } fun c => writeChconf0 c c.chconf0
    rw [restoreCtx, restored, suspended.1]
    exact ⟨slots, _, _, rfl⟩
  · rename_i stays
    have same : (succeeds || s.powered) = s.powered := by
      cases succeeds <;> simp_all
    rw [same]
    exact ⟨s.slots, _, _, rfl⟩

/-- A suspended controller, whatever it has lost. -/
theorem suspend_step (h : ControllerInv s) {lost : Option Word}
    (off : ∀ l ∈ lost, isOn l chconfForce = false) :
    ControllerStep s (suspend s lost) fun _ => [] := by
  unfold suspend
  cases lost with
  | none =>
      exact ⟨⟨fun i => (h.slots i).weaken, h.linked, h.nodup⟩, h.stays.finished, h.stays.strays⟩
  | some l =>
      have slots := fun i => suspend_slot (h.slots i) (off l rfl)
      exact ⟨⟨fun i => (slots i).inv, h.linked, h.nodup⟩, fun i => (slots i).finished,
        fun i => (slots i).strays⟩

/-- At a resume each linked chip select is active once. -/
theorem resume_step (h : ControllerInv s) {clocks : Bool}
    (accessible : clocks = true ∨ s.powered = true ∨ s.ctx = []) :
    ControllerStep s (omap2McspiResume s clocks)
      fun i => if i ∈ s.ctx then [([], [])] else [] := by
  have enabled := enableClocks_step h clocks
  obtain ⟨slots, l, l', isEnabled⟩ := enableClocks_eq s clocks
  unfold omap2McspiResume
  dsimp only
  generalize enableClocks s clocks = s' at enabled isEnabled ⊢
  have ctx : s'.ctx = s.ctx := by rw [isEnabled]
  by_cases none : s.ctx = []
  · -- No context is visited.
    have same : s'.eachCs (fun c =>
        if c.chconf0 &&& chconfForce = 0 then forceCs (forceCs c true) false else c) = s' := by
      rw [Controller.eachCs, ctx, none, List.foldl_nil]
    rw [same, none]
    exact ⟨⟨enabled.inv.slots, enabled.inv.linked, enabled.inv.nodup⟩, enabled.finished,
      enabled.strays⟩
  have powered : s'.powered = true := by
    rw [isEnabled]
    rcases accessible with on | on | empty
    · rw [on]
      rfl
    · exact (congrArg _ on).trans (Bool.or_true _)
    · exact absurd empty none
  have toggled := eachCs_step
    (f := fun c => if c.chconf0 &&& chconfForce = 0 then forceCs (forceCs c true) false else c)
    true (fun p => if p.cs.isSome then [([], [])] else []) enabled.inv
    (fun i _ => resume_slot (powered ▸ enabled.inv.slots i))
    fun i _ => powered ▸ enabled.inv.slots i
  obtain ⟨slots', all⟩ := eachCs_slots s'
    fun c => if c.chconf0 &&& chconfForce = 0 then forceCs (forceCs c true) false else c
  rw [all] at toggled ⊢
  have both := enabled.trans toggled
  refine ⟨⟨?_, both.inv.linked, both.inv.nodup⟩, fun i => ?_, both.strays⟩
  · intro i
    change SlotInv s'.powered _
    rw [powered]
    exact both.inv.slots i
  · refine (both.finished i).trans ?_
    rw [List.nil_append, ctx]
    split
    · rename_i linked
      rw [if_pos ((enabled.inv.linked i).mp (ctx ▸ linked))]
    · rfl

/-- Nothing but the DMA channels is different. -/
structure OnlyDma (s s' : Controller) : Prop where
  registers : ∀ i, (s'.slots i).registers = (s.slots i).registers
  cs : ∀ i, (s'.slots i).cs = (s.slots i).cs
  device : ∀ i, (s'.slots i).device = (s.slots i).device
  ctx : s'.ctx = s.ctx
  powered : s'.powered = s.powered
  prepared : s'.prepared = s.prepared
  usage : s'.usage = s.usage

theorem OnlyDma.step (same : OnlyDma s s') (h : ControllerInv s) :
    ControllerStep s s' fun _ => [] where
  inv := by
    refine ⟨fun i => ⟨?_, ?_, ?_, ?_⟩, fun i => ?_, ?_⟩
    · rw [same.registers]
      exact (h.slots i).pulse
    · rw [same.registers]
      exact (h.slots i).disabled
    · rw [same.cs]
      exact (h.slots i).force
    · rw [same.device, same.cs, same.registers, same.powered]
      exact (h.slots i).device
    · rw [same.ctx, same.cs]
      exact h.linked i
    · rw [same.ctx]
      exact h.nodup
  finished i := by rw [Slot.finished, same.registers, List.append_nil, Slot.finished]
  strays i := by rw [same.registers]

/-- What a function on a chip select keeps. -/
theorem onSlot_field {α : Type*} {F : Slot → Slot} (f : Slot → α) (keeps : ∀ p, f (F p) = f p)
    (j : Nat) : f ((s.onSlot i F).slots j) = f (s.slots j) := by
  by_cases same : j = i
  · subst same
    rw [onSlot_self]
    exact keeps _
  · rw [onSlot_of_ne s same]

/-- A change of the DMA channels of a chip select. -/
theorem onlyDma_onSlot {F : Slot → Slot} (registers : ∀ p, (F p).registers = p.registers)
    (cs : ∀ p, (F p).cs = p.cs) (device : ∀ p, (F p).device = p.device) :
    OnlyDma s (s.onSlot i F) :=
  ⟨onSlot_field _ registers, onSlot_field _ cs, onSlot_field _ device, rfl, rfl, rfl, rfl⟩

theorem onlyDma_inUse (s : Controller) (inUse : List Nat) :
    OnlyDma s { s with dmaInUse := inUse } :=
  ⟨fun _ => rfl, fun _ => rfl, fun _ => rfl, rfl, rfl, rfl, rfl⟩

theorem OnlyDma.trans (h : OnlyDma s s') (h' : OnlyDma s' s'') : OnlyDma s s'' where
  registers i := (h'.registers i).trans (h.registers i)
  cs i := (h'.cs i).trans (h.cs i)
  device i := (h'.device i).trans (h.device i)
  ctx := h'.ctx.trans h.ctx
  powered := h'.powered.trans h.powered
  prepared := h'.prepared.trans h.prepared
  usage := h'.usage.trans h.usage

theorem requestDma_onlyDma (s : Controller) (i : Nat) (r : SetupReplies) :
    OnlyDma s (requestDma s i r).1 := by
  unfold requestDma
  cases requestChannel s r.rxChannel with
  | none => exact onlyDma_inUse s s.dmaInUse
  | some rx =>
      have first := (onlyDma_inUse s (rx :: s.dmaInUse)).trans (onlyDma_onSlot (i := i)
        (F := fun p => { p with dmaRxChannel := some rx }) (fun _ => rfl) (fun _ => rfl)
        fun _ => rfl)
      dsimp only
      split
      · exact (first.trans (onlyDma_inUse _ _)).trans (onlyDma_onSlot
          (F := fun p => { p with dmaRxChannel := none }) (fun _ => rfl) (fun _ => rfl)
          fun _ => rfl)
      · rename_i tx _
        exact (first.trans (onlyDma_inUse _ _)).trans (onlyDma_onSlot
          (F := fun p => { p with dmaTxChannel := some tx }) (fun _ => rfl) (fun _ => rfl)
          fun _ => rfl)

/-- A new context is linked. -/
theorem linkCs_step (h : ControllerInv s) (isCs : (s.slots i).cs = none) :
    ControllerStep s (linkCs s i) (fun _ => []) ∧ ((linkCs s i).slots i).cs.isSome = true := by
  have slot := h.slots i
  have inv : SlotInv s.powered { s.slots i with cs := some ⟨0, 0⟩ } := by
    refine ⟨slot.pulse, slot.disabled, ?_, ?_⟩
    · intro cs same
      obtain rfl := Option.some.inj same
      rfl
    · change ∀ d ∈ (s.slots i).device, _
      rw [slot.device_of_cs isCs]
      nofun
  have notMem : i ∉ s.ctx := by
    rw [h.linked i, isCs]
    exact Bool.false_ne_true
  have nodup : (s.ctx ++ [i]).Nodup := List.nodup_append.mpr ⟨h.nodup, List.nodup_singleton i, by
    intro a member b single
    rw [List.mem_singleton.mp single]
    exact fun same => notMem (same ▸ member)⟩
  have others : ∀ j, j ≠ i → (j ∈ s.ctx ++ [i] ↔ j ∈ s.ctx) := by
    intro j other
    rw [List.mem_append, List.mem_singleton]
    exact or_iff_left other
  have step := onSlot_ctx_step (F := fun p => { p with cs := some ⟨0, 0⟩ }) (m := []) h
    ⟨inv, (List.append_nil _).symm, rfl⟩ nodup (iff_of_true (by simp) rfl) others
  simp only [ite_self] at step
  have here : (linkCs s i).slots i = { s.slots i with cs := some ⟨0, 0⟩ } :=
    onSlot_self s i fun p => { p with cs := some ⟨0, 0⟩ }
  exact ⟨step, congrArg (fun p => (Slot.cs p).isSome) here⟩

theorem onSlot_onSlot (s : Controller) (i : Nat) (F G : Slot → Slot) :
    (s.onSlot i F).onSlot i G = s.onSlot i fun p => G (F p) := by
  unfold Controller.onSlot
  dsimp only
  rw [Function.update_self, Function.update_idem]

theorem disableClocks_step (h : ControllerInv s) :
    ControllerStep s (disableClocks s) fun _ => [] :=
  ⟨⟨h.slots, h.linked, h.nodup⟩, h.stays.finished, h.stays.strays⟩

/-- A set-up that has failed. -/
theorem forget_step (h : ControllerInv s) (i : Nat) :
    ControllerStep s (s.onSlot i fun p => { p with device := none }) fun _ => [] := by
  have step := onSlot_step (i := i) (F := fun p => { p with device := none }) (m := []) h
    ⟨⟨(h.slots i).pulse, (h.slots i).disabled, (h.slots i).force, nofun⟩,
      (List.append_nil _).symm, rfl⟩ rfl
  simpa only [ite_self] using step

/-- The context and the DMA channels of a device that is being set up. -/
theorem setupCalls_cases (s : Controller) (i : Nat) (d : SpiDevice) (r : SetupReplies)
    (h : ControllerInv s) :
    ((setupCalls s i d r).2 ≠ 0 ∧ ControllerStep s (setupCalls s i d r).1 fun _ => []) ∨
    (ValidWordLen (wordLenOf d none) ∧ ∃ s', ControllerStep s s' (fun _ => []) ∧
      (s'.slots i).cs.isSome = true ∧ setupCalls s i d r =
        (disableClocks (s'.onSlot i fun p => p.onChannel fun c => setupTransfer c d none), 0)) := by
  unfold setupCalls
  split
  · exact .inl ⟨(by decide : -einval ≠ 0), h.stays⟩
  rename_i bits
  split
  · exact .inl ⟨(by decide : -enomem ≠ 0), h.stays⟩
  have valid : ValidWordLen (wordLenOf d none) := by
    rw [not_or, BitVec.not_lt, BitVec.not_lt, BitVec.le_def, BitVec.le_def] at bits
    exact ⟨Nat.le_trans (by decide) bits.1, bits.2⟩
  dsimp only
  -- the context
  obtain ⟨s₁, isLinked, linked, linkedCs⟩ : ∃ s₁, (if (s.slots i).cs.isNone = true then linkCs s i
      else s) = s₁ ∧ ControllerStep s s₁ (fun _ => []) ∧ (s₁.slots i).cs.isSome = true := by
    split
    · rename_i isCs
      obtain ⟨step, some⟩ := linkCs_step h (Option.isNone_iff_eq_none.mp isCs)
      exact ⟨_, rfl, step, some⟩
    · rename_i isCs
      exact ⟨s, rfl, h.stays, Option.isSome_iff_ne_none.mpr (by simpa using isCs)⟩
  rw [isLinked]
  -- the DMA channels
  obtain ⟨requested, isRequested, same⟩ : ∃ requested : Controller × Bool,
      (if (s₁.slots i).dmaRxChannel.isNone = true ∨ (s₁.slots i).dmaTxChannel.isNone = true then
        requestDma s₁ i r else (s₁, true)) = requested ∧ OnlyDma s₁ requested.1 := by
    split
    · exact ⟨_, rfl, requestDma_onlyDma s₁ i r⟩
    · exact ⟨_, rfl, onlyDma_inUse s₁ s₁.dmaInUse⟩
  rw [isRequested]
  have dma := linked.trans (same.step linked.inv)
  split
  · have enabled := dma.trans (enableClocks_step dma.inv (0 ≤ r.clocks))
    split
    · rename_i fails
      exact .inl ⟨Int.ne_of_lt fails, enabled⟩
    · refine .inr ⟨valid, _, enabled, (enabled.inv.linked i).mp ?_, rfl⟩
      obtain ⟨slots, l, l', isEnabled⟩ := enableClocks_eq requested.1 (0 ≤ r.clocks)
      rw [isEnabled, same.ctx]
      exact (linked.inv.linked i).mpr linkedCs
  · exact .inl ⟨(by decide : -eagain ≠ 0), dma⟩

/-- A set-up shows nothing on the lines. -/
theorem setup_step (h : ControllerInv s) (i : Nat) (d : SpiDevice) (r : SetupReplies) :
    ControllerStep s (omap2McspiSetup s i d r).1 fun _ => [] := by
  unfold omap2McspiSetup
  dsimp only
  rcases setupCalls_cases s i d r h with ⟨fails, step⟩ | ⟨valid, s', step, linked, succeeds⟩
  · rw [if_neg fails]
    exact step.trans (forget_step step.inv i)
  · rw [succeeds, if_pos rfl]
    have set := onSlot_step (i := i)
      (F := fun p => { p.onChannel (fun c => setupTransfer c d none) with device := some d })
      step.inv (setup_slot (step.inv.slots i) valid linked) (onChannel_cs _ _)
    simp only [ite_self] at set
    have all := step.trans (set.trans (disableClocks_step set.inv))
    have same := onSlot_onSlot s' i (fun p => p.onChannel fun c => setupTransfer c d none)
      fun p => { p with device := some d }
    rw [← same] at all
    exact all

theorem freeChannel_onlyDma (s : Controller) (channel : Option Nat) :
    OnlyDma s (freeChannel s channel) := by
  unfold freeChannel
  cases channel with
  | none => exact onlyDma_inUse s s.dmaInUse
  | some n => exact onlyDma_inUse s _

theorem freeChannels_onlyDma (s : Controller) (i : Nat) : OnlyDma s (freeChannels s i) := by
  unfold freeChannels
  split
  · have both := (freeChannel_onlyDma s (s.slots i).dmaRxChannel).trans
      (freeChannel_onlyDma _ (s.slots i).dmaTxChannel)
    exact both.trans (onlyDma_onSlot (i := i)
      (F := fun p => { p with dmaRxChannel := none, dmaTxChannel := none }) (fun _ => rfl)
      (fun _ => rfl) fun _ => rfl)
  · exact onlyDma_inUse s s.dmaInUse

/-- A context that is unlinked with its device. -/
theorem unlink_step (h : ControllerInv s) (i : Nat) :
    ControllerStep s (unlinkCs s i) fun _ => [] := by
  have slot := h.slots i
  have inv : SlotInv s.powered { s.slots i with cs := none, device := none } :=
    ⟨slot.pulse, slot.disabled, fun _ isCs => absurd isCs (Option.not_mem_none _),
      fun _ device => absurd device (Option.not_mem_none _)⟩
  have gone : i ∉ s.ctx.erase i := fun member => (h.nodup.mem_erase_iff.mp member).1 rfl
  have others : ∀ j, j ≠ i → (j ∈ s.ctx.erase i ↔ j ∈ s.ctx) := fun j other =>
    h.nodup.mem_erase_iff.trans (and_iff_right other)
  have step := onSlot_ctx_step (F := fun p => { p with cs := none, device := none }) (m := []) h
    ⟨inv, (List.append_nil _).symm, rfl⟩ (h.nodup.erase i)
    (iff_of_false gone Bool.false_ne_true) others
  simp only [ite_self] at step
  exact step

/-- A device that goes. -/
theorem cleanup_step (h : ControllerInv s) (i : Nat) (controllerState : Bool) :
    ControllerStep s (omap2McspiCleanup s i controllerState) fun _ => [] := by
  unfold omap2McspiCleanup
  cases controllerState with
  | false => exact (freeChannels_onlyDma s i).step h
  | true =>
      have unlinked := unlink_step h i
      exact unlinked.trans ((freeChannels_onlyDma _ i).step unlinked.inv)

/-- A message shows what it means on its own. -/
theorem message_step (h : ControllerInv s) {d : SpiDevice} (device : (s.slots i).device = some d)
    {q : Request} (powered : q.accepted = true → s.powered = true) :
    ControllerStep s (transferMessage s i q) fun j => if j = i then q.pulses d else [] := by
  unfold transferMessage
  rw [device]
  refine onSlot_step h ?_ (onChannel_cs _ _)
  cases accepted : q.accepted with
  | false => exact refused_slot (h.slots i) accepted
  | true =>
      have on := powered accepted
      rw [on]
      exact message_slot (on ▸ h.slots i) device q

end steps

end Gumstix.Mcspi
