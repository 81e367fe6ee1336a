import Gumstix.Mcspi.Transfers

/-!
# What passes on the line

The accesses of a transfer lie in one pulse of the chip select. What they leave of the channel is
said once here, for a single access, for a DMA request and for their sequences.
-/
namespace Gumstix.Mcspi
open Gumstix.Synchronization (Word)
open WordMemory (Memory load store storeAll)

/-- The bits that a set-up writes. -/
def settingsMask : Word :=
  chconfIs ||| chconfDpe1 ||| chconfDpe0 ||| chconfWlMask ||| chconfEpol ||| chconfClkdMask |||
    chconfPol ||| chconfPha

def dmaMask : Word := chconfDmaw ||| chconfDmar

/-- The settings under which a word has passed, and the word. -/
def Exchange.view (e : Exchange) : Word × Word := (e.chconf &&& settingsMask, e.word)

def Pulse.view (p : Pulse) : List (Word × Word) × List (Word × Word) :=
  (p.sent.map Exchange.view, p.received.map Exchange.view)

/-- The chip select is active, and the shadow is the register. -/
structure Selected (c : Channel) : Prop where
  shadow : c.registers.chconf = c.chconf0
  force : isOn c.chconf0 chconfForce = true
  pulse : c.registers.pulse.isSome

/-- A channel at the beginning of a pulse. -/
def Channel.begun (wordLen : Nat) (l : Word) : Channel :=
  ⟨wordLen, l, ⟨l, chctrlEn, some .empty, [], []⟩⟩

/-- From `c` to `c'` the words `sent` and `received` have passed in the current pulse, and nothing
else has changed than the control register and the DMA requests. -/
structure Carries (c c' : Channel) (sent received : List Word) : Prop where
  selected : Selected c'
  bits : c'.chconf0 &&& ~~~dmaMask = c.chconf0 &&& ~~~dmaMask
  wordLen : c'.wordLen = c.wordLen
  pulses : c'.registers.pulses = c.registers.pulses
  strays : c'.registers.strays = c.registers.strays
  pulse : c'.registers.pulse.map Pulse.view = c.registers.pulse.map fun p =>
    (p.view.1 ++ sent.map (c.chconf0 &&& settingsMask, ·),
      p.view.2 ++ received.map (c.chconf0 &&& settingsMask, ·))

/-- What two words have in common in a mask, they have in common in a part of it. -/
theorem and_of_and {l l' mask part : Word} (same : l' &&& mask = l &&& mask)
    (within : mask &&& part = part) : l' &&& part = l &&& part := by
  rw [← within, ← BitVec.and_assoc, ← BitVec.and_assoc, same]

theorem isOn_of_and {l l' mask part : Word} (same : l' &&& mask = l &&& mask)
    (within : mask &&& part = part) : isOn l' part = isOn l part := by
  rw [isOn, isOn, and_of_and same within]

theorem modRegBit_eq (val mask : Word) (on : Bool) :
    modRegBit val mask on = (MaskedWrite.assign mask on).apply val :=
  (MaskedWrite.apply_assign mask val on).symm

theorem modRegBit_and {mask bits : Word} (apart : mask &&& bits = 0) (val : Word) (on : Bool) :
    modRegBit val mask on &&& bits = val &&& bits := by
  rw [modRegBit_eq]
  exact MaskedWrite.assign_and_of_disjoint apart on val

section accesses
variable {c c' c'' : Channel} {sent received sent' received' : List Word}

theorem Carries.refl (selected : Selected c) : Carries c c [] [] where
  selected := selected
  bits := rfl
  wordLen := rfl
  pulses := rfl
  strays := rfl
  pulse := by
    simp only [List.map_nil, List.append_nil]

theorem Carries.settings (h : Carries c c' sent received) :
    c'.chconf0 &&& settingsMask = c.chconf0 &&& settingsMask := and_of_and h.bits (by decide)

theorem Carries.trans (h : Carries c c' sent received) (h' : Carries c' c'' sent' received') :
    Carries c c'' (sent ++ sent') (received ++ received') where
  selected := h'.selected
  bits := h'.bits.trans h.bits
  wordLen := h'.wordLen.trans h.wordLen
  pulses := h'.pulses.trans h.pulses
  strays := h'.strays.trans h.strays
  pulse := by
    have both := h.pulse
    rw [h'.pulse, h.settings]
    cases after : c'.registers.pulse with
    | none =>
        rw [after] at both
        cases before : c.registers.pulse with
        | none => rfl
        | some p => rw [before] at both; cases both
    | some p' =>
        rw [after] at both
        cases before : c.registers.pulse with
        | none => rw [before] at both; cases both
        | some p =>
            rw [before] at both
            have view := Option.some.inj both
            simp only [Option.map_some, Option.some.injEq]
            rw [view]
            simp only [List.map_append, List.append_assoc]

theorem carries_setEnable (selected : Selected c) (enable : Bool) :
    Carries c (setEnable c enable) [] [] :=
  { Carries.refl selected with
    selected := ⟨selected.shadow, selected.force, selected.pulse⟩ }

theorem exchange_view (selected : Selected c) (w : Word) :
    (c.registers.exchange w).view = (c.chconf0 &&& settingsMask, w) := by
  rw [← selected.shadow]
  rfl

/-- A word is sent unless the channel only receives. -/
theorem carries_writeTx (selected : Selected c)
    (sends : c.chconf0 &&& chconfTrmMask ≠ chconfTrmRxOnly) (w : Word) :
    Carries c (writeTx c w) [w] [] := by
  obtain ⟨p, current⟩ := Option.isSome_iff_exists.mp selected.pulse
  have mode : ¬ c.registers.chconf &&& chconfTrmMask = chconfTrmRxOnly := by
    rwa [selected.shadow]
  have written : writeTx c w = { c with registers := { c.registers with
      pulse := some { p with sent := p.sent ++ [c.registers.exchange w] } } } := by
    rw [writeTx, Registers.writeTx, if_neg mode, current]
  rw [written]
  refine ⟨⟨selected.shadow, selected.force, rfl⟩, rfl, rfl, rfl, rfl, ?_⟩
  rw [current]
  simp only [Option.map_some, Pulse.view, List.map_append, List.map_cons, List.map_nil,
    List.append_nil, exchange_view selected w]

theorem carries_readRx (selected : Selected c) (w : Word) : Carries c (readRx c w) [] [w] := by
  obtain ⟨p, current⟩ := Option.isSome_iff_exists.mp selected.pulse
  have read : readRx c w = { c with registers := { c.registers with
      pulse := some { p with received := p.received ++ [c.registers.exchange w] } } } := by
    rw [readRx, Registers.readRx, current]
  rw [read]
  refine ⟨⟨selected.shadow, selected.force, rfl⟩, rfl, rfl, rfl, rfl, ?_⟩
  rw [current]
  simp only [Option.map_some, Pulse.view, List.map_append, List.map_cons, List.map_nil,
    List.append_nil, exchange_view selected w]

/-- A write that keeps `FORCE` set stays in the pulse. -/
theorem writeChconf_selected {r : Registers} {l : Word} (force : isOn l chconfForce = true)
    (pulse : r.pulse.isSome) : r.writeChconf l = { r with chconf := l } := by
  obtain ⟨p, current⟩ := Option.isSome_iff_exists.mp pulse
  rw [Registers.writeChconf, force, current]

theorem carries_writeChconf0 (selected : Selected c) {l : Word}
    (bits : l &&& ~~~dmaMask = c.chconf0 &&& ~~~dmaMask) : Carries c (writeChconf0 c l) [] [] := by
  have force : isOn l chconfForce = true :=
    (isOn_of_and bits (by decide)).trans selected.force
  rw [writeChconf0, writeChconf_selected force selected.pulse]
  exact { Carries.refl selected with selected := ⟨rfl, force, selected.pulse⟩, bits }

theorem carries_setDmaReq (selected : Selected c) (isRead enable : Bool) :
    Carries c (setDmaReq c isRead enable) [] [] := by
  refine carries_writeChconf0 selected (modRegBit_and ?_ _ _)
  cases isRead <;> decide

end accesses

end Gumstix.Mcspi
