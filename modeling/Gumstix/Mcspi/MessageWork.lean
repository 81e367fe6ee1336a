import Gumstix.Mcspi.MessageMeaning

/-!
# The work on a message

Between two transfers the configuration says whether a pulse has begun and, without an override, has
the settings of the device. A turn of the loop prepares its transfer from there as a new channel
would, so that the loop does what the message means.
-/
namespace Gumstix.Mcspi
open Gumstix.Synchronization (Word)
open WordMemory (Memory)

def modeMask : Word := chconfTrmMask ||| chconfTurbo

/-- The modes of a transfer. -/
def modeOf (d : SpiDevice) (x : Transfer) (wordLen : Nat) : Word :=
  (if x.txBuf.isNone then chconfTrmRxOnly
    else if x.rxBuf.isNone then chconfTrmTxOnly
    else 0) |||
    if d.turboMode ∧ x.txBuf.isNone ∧ (wordLen + 7) >>> 3 < x.len.toNat then chconfTurbo else 0

section modes
variable {d : SpiDevice} {x : Transfer} {wordLen : Nat} {l bits : Word}

theorem modeOf_inside (d : SpiDevice) (x : Transfer) (wordLen : Nat) :
    modeOf d x wordLen &&& modeMask = modeOf d x wordLen := by
  unfold modeOf
  split_ifs <;> decide

theorem transferChconf_eq (d : SpiDevice) (x : Transfer) (wordLen : Nat) (l : Word) :
    transferChconf d x wordLen l =
      (MaskedWrite.field modeMask (modeOf d x wordLen)).apply l := by
  have cleared : l &&& ~~~chconfTrmMask &&& ~~~chconfTurbo = l &&& ~~~modeMask := by
    rw [BitVec.and_assoc]
    rfl
  rw [MaskedWrite.apply_field (modeOf_inside d x wordLen)]
  unfold transferChconf modeOf
  dsimp only
  rw [cleared]
  split_ifs <;> simp [BitVec.or_assoc]

theorem transferChconf_others (apart : modeMask &&& bits = 0) :
    transferChconf d x wordLen l &&& bits = l &&& bits := by
  rw [transferChconf_eq]
  exact MaskedWrite.field_and_of_disjoint apart _ l

theorem transferChconf_mode : transferChconf d x wordLen l &&& modeMask = modeOf d x wordLen := by
  rw [transferChconf_eq]
  exact MaskedWrite.field_and (modeOf_inside d x wordLen) l

end modes

/-- The word lengths and rates that the controller has. -/
def ValidWordLen (wordLen : Byte) : Prop := 1 ≤ wordLen.toNat ∧ wordLen.toNat ≤ 32

instance (wordLen : Byte) : Decidable (ValidWordLen wordLen) := inferInstanceAs (Decidable (_ ∧ _))

/-- The register and the shadow agree, and `FORCE` says whether a pulse has begun. -/
structure Tracked (c : Channel) : Prop where
  shadow : c.registers.chconf = c.chconf0
  force : isOn c.chconf0 chconfForce = c.registers.pulse.isSome

/-- The same line: no word has passed, and no pulse has begun or ended. -/
structure SameLine (c c' : Channel) : Prop where
  pulse : c'.registers.pulse = c.registers.pulse
  pulses : c'.registers.pulses = c.registers.pulses
  strays : c'.registers.strays = c.registers.strays

section channels
variable {d : SpiDevice} {c c' : Channel} {l : Word}

theorem Tracked.selected (h : Tracked c) (pulse : c.registers.pulse.isSome = true) : Selected c :=
  ⟨h.shadow, h.force.trans pulse, pulse⟩

theorem Selected.tracked (h : Selected c) : Tracked c := ⟨h.shadow, h.force.trans h.pulse.symm⟩

/-- A write that keeps `FORCE` neither begins nor ends a pulse. -/
theorem writeChconf_of_force {r : Registers} (force : isOn l chconfForce = r.pulse.isSome) :
    r.writeChconf l = { r with chconf := l } := by
  unfold Registers.writeChconf
  rw [force]
  cases r.pulse <;> rfl

theorem tracked_writeChconf0 (force : isOn l chconfForce = c.registers.pulse.isSome) :
    Tracked (writeChconf0 c l) ∧ SameLine c (writeChconf0 c l) := by
  rw [writeChconf0, writeChconf_of_force force]
  exact ⟨⟨rfl, force⟩, rfl, rfl, rfl⟩

theorem setupTransfer_spec {t : Option Transfer} (valid : ValidWordLen (wordLenOf d t))
    (force : isOn c.chconf0 chconfForce = c.registers.pulse.isSome) :
    Tracked (setupTransfer c d t) ∧ SameLine c (setupTransfer c d t) ∧
      (setupTransfer c d t).wordLen = (wordLenOf d t).toNat ∧
        (setupTransfer c d t).chconf0 &&& settingsMask = settingsOf d t := by
  have others : setupChconf d.mode (wordLenOf d t) (speedOf d t) c.chconf0 &&& ~~~settingsMask =
      c.chconf0 &&& ~~~settingsMask := setupChconf_others valid.1 valid.2 c.chconf0
  obtain ⟨tracked, ⟨pulse, pulses, strays⟩⟩ := tracked_writeChconf0
    (c := { c with wordLen := (wordLenOf d t).toNat })
    ((isOn_of_and others (by decide)).trans force)
  exact ⟨tracked, ⟨pulse, pulses, strays⟩, rfl, setupChconf_settings valid.1 valid.2 _⟩

theorem modRegBit_force (active : Bool) :
    isOn (modRegBit l chconfForce active) chconfForce = active :=
  isOn_modRegBit (by decide) active l

theorem forceCs_true (c : Channel) :
    Tracked (forceCs c true) ∧
      (forceCs c true).registers.pulse = some (c.registers.pulse.getD .empty) ∧
      (forceCs c true).registers.pulses = c.registers.pulses ∧
      (forceCs c true).registers.strays = c.registers.strays := by
  have on := modRegBit_force (l := c.chconf0) true
  rw [forceCs, writeChconf0, Registers.writeChconf, on]
  cases pulse : c.registers.pulse with
  | none => exact ⟨⟨rfl, on⟩, rfl, rfl, rfl⟩
  | some p => exact ⟨⟨rfl, on⟩, rfl, rfl, rfl⟩

theorem forceCs_false (c : Channel) :
    Tracked (forceCs c false) ∧ (forceCs c false).registers.pulse = none ∧
      (forceCs c false).registers.pulses = c.registers.pulses ++ c.registers.pulse.toList ∧
      (forceCs c false).registers.strays = c.registers.strays := by
  have off := modRegBit_force (l := c.chconf0) false
  rw [forceCs, writeChconf0, Registers.writeChconf, off]
  cases pulse : c.registers.pulse with
  | none => exact ⟨⟨rfl, off⟩, rfl, (List.append_nil _).symm, rfl⟩
  | some p => exact ⟨⟨rfl, off⟩, rfl, rfl, rfl⟩

theorem forceCs_settings (active : Bool) :
    (forceCs c active).chconf0 &&& settingsMask = c.chconf0 &&& settingsMask :=
  modRegBit_and (by decide) _ _

end channels

/-- The channel is as a new one would be. -/
structure Prepared (d : SpiDevice) (x : Transfer) (c : Channel) : Prop where
  selected : Selected c
  wordLen : c.wordLen = (wordLenOf d (some x)).toNat
  settings : c.chconf0 &&& settingsMask = settingsOf d (some x)
  mode : c.chconf0 &&& modeMask = modeOf d x (wordLenOf d (some x)).toNat

/-- The finished pulses. -/
def Channel.finished (c : Channel) : List PulseView := c.registers.pulses.map Pulse.view

/-- The pulse that has begun. -/
def Channel.current (c : Channel) : Option PulseView := c.registers.pulse.map Pulse.view

/-- Between two transfers. -/
structure Between (d : SpiDevice) (w : Work) : Prop where
  tracked : Tracked w.channel
  active : w.channel.registers.pulse.isSome = w.csActive
  wordLen : w.parOverride = false → w.channel.wordLen = (wordLenOf d none).toNat
  settings : w.parOverride = false → w.channel.chconf0 &&& settingsMask = settingsOf d none

section preparing
variable {d : SpiDevice} {x : Transfer} {w : Work}

theorem plain_of_overrides (plain : x.overrides = false) :
    wordLenOf d (some x) = wordLenOf d none ∧ settingsOf d (some x) = settingsOf d none := by
  have none : x.speedHz = 0 ∧ x.bitsPerWord = 0 := by
    simpa [Transfer.overrides] using plain
  have wordLen : wordLenOf d (some x) = wordLenOf d .none := if_neg (not_not.mpr none.2)
  have speed : speedOf d (some x) = speedOf d .none := by
    unfold speedOf
    dsimp only
    rw [if_neg (not_not.mpr none.1)]
  exact ⟨wordLen, by rw [settingsOf, settingsOf, wordLen, speed]⟩

theorem workSetup_spec (valid : ValidWordLen (wordLenOf d (some x))) (h : Between d w)
    (ok : w.status = 0) :
    ∃ c, workSetup d x w = { w with channel := c, parOverride := x.overrides } ∧
      Tracked c ∧ SameLine w.channel c ∧ c.wordLen = (wordLenOf d (some x)).toNat ∧
        c.chconf0 &&& settingsMask = settingsOf d (some x) := by
  unfold workSetup
  split
  · obtain ⟨tracked, line, wordLen, settings⟩ := setupTransfer_spec valid h.tracked.force
    exact ⟨_, by rw [← ok], tracked, line, wordLen, settings⟩
  · rename_i neither
    rw [not_or, Bool.not_eq_true, Bool.not_eq_true] at neither
    obtain ⟨wordLen, settings⟩ := plain_of_overrides (d := d) neither.2
    refine ⟨w.channel, ?_, h.tracked, ⟨rfl, rfl, rfl⟩, ?_, ?_⟩
    · rw [neither.2, ← neither.1]
    · rw [wordLen]
      exact h.wordLen neither.1
    · rw [settings]
      exact h.settings neither.1

/-- The chip select is active from here on. -/
theorem workSelect_spec (active : w.channel.registers.pulse.isSome = w.csActive)
    (tracked : Tracked w.channel) :
    ∃ c, workSelect w = { w with channel := c, csActive := true } ∧ Tracked c ∧
      c.registers.pulse = some (w.channel.registers.pulse.getD .empty) ∧
      c.registers.pulses = w.channel.registers.pulses ∧
      c.registers.strays = w.channel.registers.strays ∧ c.wordLen = w.channel.wordLen ∧
      c.chconf0 &&& settingsMask = w.channel.chconf0 &&& settingsMask := by
  unfold workSelect
  split
  · rename_i on
    obtain ⟨p, pulse⟩ := Option.isSome_iff_exists.mp (active.trans on)
    exact ⟨w.channel, by rw [← on], tracked, by rw [pulse]; rfl, rfl, rfl, rfl, rfl⟩
  · obtain ⟨tracked, pulse, pulses, strays⟩ := forceCs_true w.channel
    exact ⟨_, rfl, tracked, pulse, pulses, strays, rfl, forceCs_settings true⟩

/-- A transfer is prepared in the pulse that has begun, or in a new one. -/
theorem workPrepare_spec (valid : ValidWordLen (wordLenOf d (some x))) (h : Between d w)
    (ok : w.status = 0) :
    ∃ c, workMode d x (workSelect (workSetup d x w)) =
        { w with channel := c, csActive := true, parOverride := x.overrides } ∧
      Prepared d x c ∧ c.current = some (w.channel.current.getD ([], [])) ∧
        c.finished = w.channel.finished ∧ c.registers.strays = w.channel.registers.strays := by
  obtain ⟨c, setup, tracked, line, wordLen, settings⟩ := workSetup_spec valid h ok
  have active : c.registers.pulse.isSome = w.csActive := by
    rw [line.pulse]
    exact h.active
  rw [setup]
  obtain ⟨c', select, tracked', pulse, pulses, strays, wordLen', settings'⟩ :=
    workSelect_spec (w := { w with channel := c, parOverride := x.overrides }) active tracked
  rw [select]
  have force : isOn (transferChconf d x c'.wordLen c'.chconf0) chconfForce =
      isOn c'.chconf0 chconfForce := by
    rw [isOn, isOn, transferChconf_others (by decide)]
  obtain ⟨tracked'', line''⟩ := tracked_writeChconf0
    (force.trans tracked'.force)
  have length : c'.wordLen = (wordLenOf d (some x)).toNat := wordLen'.trans wordLen
  refine ⟨writeChconf0 c' (transferChconf d x c'.wordLen c'.chconf0), rfl, ⟨?_, length, ?_, ?_⟩,
    ?_, ?_, ?_⟩
  · refine tracked''.selected ?_
    rw [line''.pulse, pulse]
    rfl
  · exact (transferChconf_others (by decide)).trans (settings'.trans settings)
  · rw [← length]
    exact transferChconf_mode
  · rw [Channel.current, line''.pulse, pulse, Channel.current, line.pulse]
    cases w.channel.registers.pulse <;> rfl
  · rw [Channel.finished, line''.pulses, pulses, line.pulses]
    rfl
  · rw [line''.strays, strays, line.strays]

/-- A new channel is prepared in the same way. -/
theorem prepared_spec (valid : ValidWordLen (wordLenOf d (some x))) :
    Prepared d x (prepared d x) where
  selected := by
    refine ⟨rfl, ?_, rfl⟩
    change isOn (transferChconf d x _ _) chconfForce = true
    rw [isOn, transferChconf_others (by decide)]
    exact modRegBit_force true
  wordLen := rfl
  settings := (transferChconf_others (by decide)).trans
    ((modRegBit_and (by decide) _ _).trans (setupChconf_settings valid.1 valid.2 0))
  mode := transferChconf_mode

theorem prepared_turbo (valid : ValidWordLen (wordLenOf d (some x))) :
    isOn (prepared d x).chconf0 chconfTurbo =
      isOn (modeOf d x (wordLenOf d (some x)).toNat) chconfTurbo := by
  rw [isOn, isOn, ← (prepared_spec valid).mode]
  have within : modeMask &&& chconfTurbo = chconfTurbo := by decide
  rw [BitVec.and_assoc, within]

end preparing

section exchange
variable {d : SpiDevice} {x : Transfer} {r : LineReplies} {c : Channel} {w : Work}

theorem Prepared.trm (h : Prepared d x c) :
    c.chconf0 &&& chconfTrmMask = if x.txBuf.isNone then chconfTrmRxOnly
      else if x.rxBuf.isNone then chconfTrmTxOnly else 0 := by
  have within : modeMask &&& chconfTrmMask = chconfTrmMask := by decide
  rw [← within, ← BitVec.and_assoc, h.mode, modeOf]
  split_ifs <;> decide

theorem Prepared.fits (h : Prepared d x c) : ModeFits x c := by
  intro sends
  rw [h.trm, if_neg (not_isNone sends)]
  split <;> decide

theorem Prepared.turbo {c' : Channel} (h : Prepared d x c) (h' : Prepared d x c') :
    isOn c'.chconf0 chconfTurbo = isOn c.chconf0 chconfTurbo :=
  isOn_of_and (h'.mode.trans h.mode.symm) (by decide)

/-- The dummy word is not sent. -/
theorem Prepared.dummy (h : Prepared d x c) :
    (if x.txBuf.isNone then writeTx c 0 else c) = c := by
  split
  · rename_i none
    have mode : c.registers.chconf &&& chconfTrmMask = chconfTrmRxOnly := by
      rw [h.selected.shadow, h.trm, if_pos none]
    rw [writeTx, Registers.writeTx, if_pos mode]
  · rfl

/-- The mappings that are undone for a transfer. -/
def unmappedBy (isDmaMapped : Bool) (x : Transfer) (i : Nat) : List Mapping :=
  if x.len ≠ 0 ∧ (isDmaMapped ∨ dmaMinBytes ≤ x.len) then mappingsOf x i else []

theorem carries_current {c' : Channel} {sent received : List Word}
    (h : Carries c c' sent received) : c'.current = c.current.map fun p => p.join
      (sent.map (c.chconf0 &&& settingsMask, ·), received.map (c.chconf0 &&& settingsMask, ·)) := by
  rw [Channel.current, h.pulse, Channel.current, Option.map_map]
  rfl

/-- The words of a transfer pass as they would on a new channel. -/
theorem workExchange_spec (valid : ValidWordLen (wordLenOf d (some x)))
    (h : Prepared d x w.channel) (isDmaMapped : Bool) (r : LineReplies) (i : Nat) :
    ∃ c, workExchange isDmaMapped x r i w =
        ({ w with
          channel := c
          status := if (passage d isDmaMapped x r).count = x.len then w.status else -eio
          actualLength := w.actualLength + (passage d isDmaMapped x r).count
          rxBufs := w.rxBufs ++ [rxBufOf d x r (passage d isDmaMapped x r)]
          unmapped := w.unmapped ++ unmappedBy isDmaMapped x i },
          decide ((passage d isDmaMapped x r).count = x.len)) ∧
      Selected c ∧ c.wordLen = w.channel.wordLen ∧
      c.chconf0 &&& settingsMask = w.channel.chconf0 &&& settingsMask ∧
      c.current =
        w.channel.current.map (·.join (pulseOf d x r (passage d isDmaMapped x r))) ∧
      c.finished = w.channel.finished ∧ c.registers.strays = w.channel.registers.strays := by
  by_cases empty : x.len = 0
  · have nothing : passage d isDmaMapped x r = ⟨0, 0, 0⟩ := if_pos empty
    have buffer : rxBufOf d x r ⟨0, 0, 0⟩ = x.rxBuf := congrFun Option.map_id x.rxBuf
    have pulse : pulseOf d x r ⟨0, 0, 0⟩ = ([], []) := by
      rw [pulseOf, wordsToSend_zero]
      rfl
    refine ⟨w.channel, ?_, h.selected, rfl, rfl, ?_, rfl, rfl⟩
    · have full : (passage d isDmaMapped x r).count = x.len := by
        rw [nothing]
        exact empty.symm
      have length : w.actualLength + 0 = w.actualLength := BitVec.add_zero _
      rw [workExchange, if_pos empty, if_pos full, decide_eq_true full, unmappedBy,
        if_neg fun some => some.1 empty, List.append_nil, nothing, buffer]
      dsimp only
      rw [length]
    · rw [nothing, pulse]
      cases w.channel.current with
      | none => rfl
      | some p => simp [PulseView.join]
  · have new := prepared_spec valid
    have same := passage_txrx (r := r) new.selected h.selected new.fits h.fits
      (h.wordLen.trans new.wordLen.symm) (new.turbo h) isDmaMapped
    have passed : (txrx x r w.channel isDmaMapped).passage = passage d isDmaMapped x r :=
      same.trans (if_neg empty).symm
    have count := congrArg Passage.count passed
    have sent := congrArg Passage.sent passed
    have received := congrArg Passage.received passed
    obtain ⟨rxBuf, carries⟩ := txrx_passes (r := r) h.selected h.fits isDmaMapped
    dsimp only [TransferResult.passage] at count sent received
    rw [received, h.wordLen] at rxBuf
    rw [sent, received, h.wordLen] at carries
    refine ⟨(txrx x r w.channel isDmaMapped).channel, ?_, carries.selected, carries.wordLen,
      carries.settings, ?_, congrArg (List.map Pulse.view) carries.pulses, carries.strays⟩
    · rw [workExchange, if_neg empty, h.dummy]
      dsimp only
      rw [count, rxBuf]
      have undone : unmappedBy isDmaMapped x i =
          if isDmaMapped ∨ dmaMinBytes ≤ x.len then mappingsOf x i else [] :=
        if_congr (and_iff_right empty) rfl rfl
      rw [undone]
      split
      · rename_i full
        rw [decide_eq_true full]
        rfl
      · rename_i short
        rw [decide_eq_false short]
        rfl
    · rw [carries_current carries, h.settings]
      rfl

end exchange

/-- A transfer that is not refused. -/
structure ValidTransfer (d : SpiDevice) (x : Transfer) : Prop where
  wordLen : ValidWordLen (wordLenOf d (some x))
  buffers : ¬ (x.txBuf.isNone = true ∧ x.rxBuf.isNone = true ∧ x.len ≠ 0)

/-- The mappings that are undone for the transfers from number `i` on. -/
def undone (isDmaMapped : Bool) (transfers : List Transfer) (i : Nat) : List Mapping :=
  (transfers.zipIdx i).flatMap fun p => unmappedBy isDmaMapped p.1 p.2

section turn
variable {d : SpiDevice} {x : Transfer} {w : Work}

theorem between_of_prepared {c : Channel} (selected : Selected c) (active : w.csActive = true)
    (channel : w.channel = c) (override : w.parOverride = x.overrides)
    (wordLen : c.wordLen = (wordLenOf d (some x)).toNat)
    (settings : c.chconf0 &&& settingsMask = settingsOf d (some x)) : Between d w where
  tracked := channel ▸ selected.tracked
  active := channel ▸ selected.pulse.trans active.symm
  wordLen plain := by
    rw [channel, wordLen, (plain_of_overrides (override.symm.trans plain)).1]
  settings plain := by
    rw [channel, settings, (plain_of_overrides (override.symm.trans plain)).2]

theorem workDeselect_spec (h : Between d w) :
    ∃ c, workDeselect x w = { w with channel := c, csActive := !x.csChange && w.csActive } ∧
      Between d (workDeselect x w) ∧
      c.current = (if x.csChange then none else w.channel.current) ∧
      c.finished = w.channel.finished ++ (if x.csChange then w.channel.current.toList else []) ∧
      c.registers.strays = w.channel.registers.strays := by
  unfold workDeselect
  cases x.csChange with
  | false =>
      exact ⟨w.channel, by simp, h, rfl, (List.append_nil _).symm, rfl⟩
  | true =>
      obtain ⟨tracked, pulse, pulses, strays⟩ := forceCs_false w.channel
      refine ⟨forceCs w.channel false, by simp, ⟨tracked, congrArg Option.isSome pulse, h.wordLen,
        fun plain => (forceCs_settings false).trans (h.settings plain)⟩, ?_, ?_, strays⟩
      · rw [Channel.current, pulse]
        rfl
      · rw [Channel.finished, pulses, List.map_append, Channel.current]
        cases w.channel.registers.pulse <;> rfl

/-- From `w` to `w'` the loop has done what is meant. -/
structure Follows (d : SpiDevice) (w w' : Work) (m : Meaning) (unmapped : List Mapping) :
    Prop where
  between : Between d w'
  pulses : w'.channel.finished ++ w'.channel.current.toList = w.channel.finished ++ m.pulses
  strays : w'.channel.registers.strays = w.channel.registers.strays
  status : w'.status = if m.failed.isSome then -eio else 0
  override : ∀ x ∈ m.failed, w'.parOverride = x.overrides
  actualLength : w'.actualLength = w.actualLength + m.actualLength
  rxBufs : w'.rxBufs = w.rxBufs ++ m.rxBufs
  unmapped : w'.unmapped = w.unmapped ++ unmapped

variable {isDmaMapped : Bool} {r : LineReplies} {i : Nat}

/-- The pulse of a transfer, in the one that has begun. -/
abbrev nextPulse (d : SpiDevice) (isDmaMapped : Bool) (x : Transfer) (r : LineReplies)
    (current : Option PulseView) : PulseView :=
  (current.getD ([], [])).join (pulseOf d x r (passage d isDmaMapped x r))

/-- A transfer that comes short. -/
theorem workTurn_short (valid : ValidTransfer d x) (h : Between d w) (ok : w.status = 0)
    (short : (passage d isDmaMapped x r).count ≠ x.len) :
    ∃ w', workTurn d isDmaMapped x r i w = (w', false) ∧
      Follows d w w' ⟨[nextPulse d isDmaMapped x r w.channel.current], some x,
        (passage d isDmaMapped x r).count, [rxBufOf d x r (passage d isDmaMapped x r)]⟩
        (unmappedBy isDmaMapped x i) := by
  obtain ⟨c, prepare, prepared, current, finished, strays⟩ := workPrepare_spec valid.wordLen h ok
  obtain ⟨c', exchange, selected, wordLen, settings, current', finished', strays'⟩ :=
    workExchange_spec (w := { w with channel := c, csActive := true, parOverride := x.overrides })
      valid.wordLen prepared isDmaMapped r i
  rw [workTurn, if_neg valid.buffers, prepare]
  dsimp only
  rw [exchange, decide_eq_false short, if_neg short]
  refine ⟨_, rfl, between_of_prepared selected rfl rfl rfl (wordLen.trans prepared.wordLen)
    (settings.trans prepared.settings), ?_, strays'.trans strays, rfl, ?_, rfl, rfl, rfl⟩
  · change c'.finished ++ c'.current.toList = _
    rw [finished', current', finished, current]
    rfl
  · intro y failed
    obtain rfl := Option.some.inj failed
    rfl

/-- A transfer that delivers its full length. -/
theorem workTurn_full (valid : ValidTransfer d x) (h : Between d w) (ok : w.status = 0)
    (full : (passage d isDmaMapped x r).count = x.len) :
    ∃ w', workTurn d isDmaMapped x r i w = (w', true) ∧ Between d w' ∧ w'.status = 0 ∧
      w'.channel.current =
        (if x.csChange then none else some (nextPulse d isDmaMapped x r w.channel.current)) ∧
      w'.channel.finished = w.channel.finished ++
        (if x.csChange then [nextPulse d isDmaMapped x r w.channel.current] else []) ∧
      w'.channel.registers.strays = w.channel.registers.strays ∧
      w'.actualLength = w.actualLength + (passage d isDmaMapped x r).count ∧
      w'.rxBufs = w.rxBufs ++ [rxBufOf d x r (passage d isDmaMapped x r)] ∧
      w'.unmapped = w.unmapped ++ unmappedBy isDmaMapped x i := by
  obtain ⟨c, prepare, prepared, current, finished, strays⟩ := workPrepare_spec valid.wordLen h ok
  obtain ⟨c', exchange, selected, wordLen, settings, current', finished', strays'⟩ :=
    workExchange_spec (w := { w with channel := c, csActive := true, parOverride := x.overrides })
      valid.wordLen prepared isDmaMapped r i
  rw [workTurn, if_neg valid.buffers, prepare]
  dsimp only
  rw [exchange, decide_eq_true full, if_pos full]
  have between := between_of_prepared (w := { w with
      channel := c'
      csActive := true
      parOverride := x.overrides
      actualLength := w.actualLength + (passage d isDmaMapped x r).count
      rxBufs := w.rxBufs ++ [rxBufOf d x r (passage d isDmaMapped x r)]
      unmapped := w.unmapped ++ unmappedBy isDmaMapped x i })
    selected rfl rfl rfl (wordLen.trans prepared.wordLen) (settings.trans prepared.settings)
  obtain ⟨c'', deselect, between', current'', finished'', strays''⟩ := workDeselect_spec between
    (x := x)
  have pulse : c'.current = some (nextPulse d isDmaMapped x r w.channel.current) := by
    rw [current', current]
    rfl
  rw [deselect] at between'
  refine ⟨_, congrArg (·, true) deselect, between', ok, ?_, ?_, ?_, rfl, rfl, rfl⟩
  · exact current''.trans (congrArg (ite _ _) pulse)
  · refine finished''.trans ?_
    change c'.finished ++ (if x.csChange then c'.current.toList else []) = _
    rw [pulse, finished', finished]
    rfl
  · exact strays''.trans (strays'.trans strays)

/-- The loop does what the transfers mean, whatever the line answers. -/
theorem workLoop_follows (isDmaMapped : Bool) (replies : Replies) {transfers : List Transfer}
    (valid : ∀ x ∈ transfers, ValidTransfer d x) (h : Between d w) (ok : w.status = 0) (i : Nat) :
    Follows d w (workLoop d isDmaMapped replies transfers i w).1
      (meaning d isDmaMapped replies transfers i w.channel.current)
      (undone isDmaMapped (transfers.take
        (meaning d isDmaMapped replies transfers i w.channel.current).rxBufs.length) i) := by
  induction transfers generalizing i w with
  | nil =>
      exact ⟨h, rfl, rfl, ok, nofun, (BitVec.add_zero _).symm, (List.append_nil _).symm,
        (List.append_nil _).symm⟩
  | cons x transfers ih =>
      have first := valid x List.mem_cons_self
      rw [workLoop, meaning]
      dsimp only
      by_cases full : (passage d isDmaMapped x (replies i)).count = x.len
      · obtain ⟨w', turn, between, ok', current, finished, strays, actualLength, rxBufs,
          unmapped⟩ := workTurn_full (i := i) first h ok full
        have follows := ih (fun y hy => valid y (List.mem_cons_of_mem x hy)) between ok' (i + 1)
        rw [current] at follows
        rw [turn, if_pos rfl, if_pos full]
        refine ⟨follows.between, ?_, follows.strays.trans strays, follows.status, follows.override,
          ?_, ?_, ?_⟩
        · rw [follows.pulses, finished, List.append_assoc]
        · rw [follows.actualLength, actualLength, BitVec.add_assoc]
        · rw [follows.rxBufs, rxBufs, List.append_assoc]
          rfl
        · rw [follows.unmapped, unmapped, List.append_assoc]
          rfl
      · obtain ⟨w', turn, follows⟩ := workTurn_short (i := i) first h ok full
        rw [turn, if_neg Bool.false_ne_true, if_neg full]
        simpa [undone] using follows

end turn

end Gumstix.Mcspi
