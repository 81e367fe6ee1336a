import Gumstix.Mcspi.LineSpecs

/-!
# Configuration of a channel

A set-up changes the configuration in seven steps, each of which keeps the other bits. Together they
are one write to the bits of the settings, which says what the words on the line look like.
-/
namespace Gumstix.Mcspi
open Gumstix.Synchronization (Word)

/-- How the words pass, as the controller reads it from the configuration. -/
structure LineFormat where
  wordLen : Nat
  rateHz : Word
  csHigh : Bool
  cpol : Bool
  cpha : Bool
  deriving DecidableEq, Repr

def lineFormat (chconf : Word) : LineFormat where
  wordLen := ((chconf &&& chconfWlMask) >>> 7).toNat + 1
  rateHz := omap2McspiMaxFreq >>> ((chconf &&& chconfClkdMask) >>> 2).toNat
  csHigh := !isOn chconf chconfEpol
  cpol := isOn chconf chconfPol
  cpha := isOn chconf chconfPha

def wordLenField (wordLen : Byte) : Word := (wordLen.setWidth 32 - 1) <<< 7

def divisorField (speedHz : Word) : Word := BitVec.ofNat 32 (calcDivisor speedHz) <<< 2

/-- The rate that is set up for a requested one. -/
def rateFor (speedHz : Word) : Word := omap2McspiMaxFreq >>> calcDivisor speedHz

section fields
variable {wordLen : Byte} {speedHz : Word}

theorem calcDivisor_le (speedHz : Word) : calcDivisor speedHz ≤ 15 := by
  unfold calcDivisor
  cases found : (List.range 15).find? fun div => omap2McspiMaxFreq >>> div ≤ speedHz with
  | none => exact Nat.le_refl 15
  | some div => exact (List.mem_range.mp (List.mem_of_find?_eq_some found)).le

theorem toNat_wordLen_pred (valid : 1 ≤ wordLen.toNat) :
    (wordLen.setWidth 32 - 1).toNat = wordLen.toNat - 1 := by
  have small := wordLen.isLt
  rw [BitVec.toNat_sub, BitVec.toNat_setWidth]
  change (2 ^ 32 - 1 + _) % 2 ^ 32 = _
  omega

/-- A number that is shifted into its field. -/
theorem shifted_and {a : Word} {n i : Nat} (field : n ≤ 32) (small : a.toNat < 2 ^ n) :
    a <<< i &&& BitVec.ofNat 32 (2 ^ n - 1) <<< i = a <<< i := by
  have within : 2 ^ n ≤ 2 ^ 32 := Nat.pow_le_pow_right (by decide) field
  rw [← BitVec.shiftLeft_and_distrib]
  congr 1
  apply BitVec.eq_of_toNat_eq
  rw [BitVec.toNat_and, BitVec.toNat_ofNat, Nat.mod_eq_of_lt (by omega : 2 ^ n - 1 < 2 ^ 32),
    Nat.and_two_pow_sub_one_eq_mod, Nat.mod_eq_of_lt small]

/-- And back. -/
theorem shifted_shifted {a : Word} {n i : Nat} (field : n + i ≤ 32) (small : a.toNat < 2 ^ n) :
    a <<< i >>> i = a := by
  have within : a.toNat * 2 ^ i < 2 ^ 32 :=
    calc a.toNat * 2 ^ i < 2 ^ n * 2 ^ i := Nat.mul_lt_mul_of_pos_right small (Nat.two_pow_pos i)
      _ = 2 ^ (n + i) := (Nat.pow_add 2 n i).symm
      _ ≤ 2 ^ 32 := Nat.pow_le_pow_right (by decide) field
  apply BitVec.eq_of_toNat_eq
  rw [BitVec.toNat_ushiftRight, BitVec.toNat_shiftLeft, Nat.shiftLeft_eq, Nat.mod_eq_of_lt within,
    Nat.shiftRight_eq_div_pow, Nat.mul_div_cancel _ (Nat.two_pow_pos i)]

theorem wordLenField_inside (valid : 1 ≤ wordLen.toNat) (bits : wordLen.toNat ≤ 32) :
    wordLenField wordLen &&& chconfWlMask = wordLenField wordLen := by
  refine shifted_and (n := 5) (i := 7) (by decide) ?_
  rw [toNat_wordLen_pred valid]
  omega

theorem divisorField_inside : divisorField speedHz &&& chconfClkdMask = divisorField speedHz := by
  refine shifted_and (n := 4) (i := 2) (by decide) ?_
  have small := calcDivisor_le speedHz
  rw [BitVec.toNat_ofNat]
  omega

end fields

/-- The settings of a set-up. -/
def settings (mode wordLen : Byte) (speedHz : Word) : MaskedWrite 32 :=
  let wires := (MaskedWrite.clear (chconfIs ||| chconfDpe1)).andThen (.set chconfDpe0)
  let words := wires.andThen (.field chconfWlMask (wordLenField wordLen))
  let select := words.andThen (.assign chconfEpol (mode &&& spiCsHigh = 0))
  let clock := select.andThen (.field chconfClkdMask (divisorField speedHz))
  (clock.andThen (.assign chconfPol (mode &&& spiCpol ≠ 0))).andThen
    (.assign chconfPha (mode &&& spiCpha ≠ 0))

section settings
variable {mode wordLen : Byte} {speedHz l : Word}

theorem mask_settings (mode wordLen : Byte) (speedHz : Word) :
    (settings mode wordLen speedHz).mask = settingsMask := by
  simp only [settings, MaskedWrite.andThen, MaskedWrite.mask_assign]
  rfl

theorem setupChconf_eq (valid : 1 ≤ wordLen.toNat) (bits : wordLen.toNat ≤ 32) (l : Word) :
    setupChconf mode wordLen speedHz l = (settings mode wordLen speedHz).apply l := by
  simp only [settings, MaskedWrite.apply_andThen, MaskedWrite.apply_assign,
    MaskedWrite.apply_field (wordLenField_inside valid bits),
    MaskedWrite.apply_field divisorField_inside, MaskedWrite.apply_clear, MaskedWrite.apply_set,
    decide_eq_true_eq]
  rfl

/-- The other bits of the configuration stay as they are. -/
theorem setupChconf_others (valid : 1 ≤ wordLen.toNat) (bits : wordLen.toNat ≤ 32) (l : Word) :
    setupChconf mode wordLen speedHz l &&& ~~~settingsMask = l &&& ~~~settingsMask := by
  rw [setupChconf_eq valid bits]
  refine MaskedWrite.apply_and_of_disjoint ?_ l
  rw [mask_settings]
  decide

/-- The settings do not depend on what has been there before. -/
theorem setupChconf_settings (valid : 1 ≤ wordLen.toNat) (bits : wordLen.toNat ≤ 32) (l : Word) :
    setupChconf mode wordLen speedHz l &&& settingsMask =
      (settings mode wordLen speedHz).value := by
  rw [setupChconf_eq valid bits, ← mask_settings mode wordLen speedHz]
  exact MaskedWrite.written_apply _ l

theorem isOn_assign {mask : Word} (some : mask ≠ 0) (on : Bool) (l : Word) :
    isOn ((MaskedWrite.assign mask on).apply l) mask = on := by
  rw [isOn, MaskedWrite.assign_and]
  cases on with
  | false => rfl
  | true => exact decide_eq_true some

theorem isOn_assign_of_disjoint {mask bits : Word} (apart : mask &&& bits = 0) (on : Bool)
    (l : Word) : isOn ((MaskedWrite.assign mask on).apply l) bits = isOn l bits := by
  rw [isOn, isOn, MaskedWrite.assign_and_of_disjoint apart]

theorem isOn_modRegBit {mask : Word} (some : mask ≠ 0) (on : Bool) (l : Word) :
    isOn (modRegBit l mask on) mask = on := by
  rw [modRegBit_eq]
  exact isOn_assign some on l

theorem isOn_modRegBit_of_disjoint {mask bits : Word} (apart : mask &&& bits = 0) (on : Bool)
    (l : Word) : isOn (modRegBit l mask on) bits = isOn l bits := by
  rw [modRegBit_eq]
  exact isOn_assign_of_disjoint apart on l

theorem isOn_field_of_disjoint {mask bits : Word} (apart : mask &&& bits = 0) (value l : Word) :
    isOn ((MaskedWrite.field mask value).apply l) bits = isOn l bits := by
  rw [isOn, isOn, MaskedWrite.field_and_of_disjoint apart]

/-- What is set up is what the controller reads back, whatever has been in the register. -/
theorem lineFormat_setupChconf (valid : 1 ≤ wordLen.toNat) (bits : wordLen.toNat ≤ 32) (l : Word) :
    lineFormat (setupChconf mode wordLen speedHz l) =
      ⟨wordLen.toNat, rateFor speedHz, mode &&& spiCsHigh ≠ 0,
        mode &&& spiCpol ≠ 0, mode &&& spiCpha ≠ 0⟩ := by
  have words : setupChconf mode wordLen speedHz l &&& chconfWlMask = wordLenField wordLen := by
    rw [setupChconf_eq valid bits]
    simp only [settings, MaskedWrite.apply_andThen]
    rw [MaskedWrite.assign_and_of_disjoint (by decide),
      MaskedWrite.assign_and_of_disjoint (by decide), MaskedWrite.field_and_of_disjoint (by decide),
      MaskedWrite.assign_and_of_disjoint (by decide)]
    exact MaskedWrite.field_and (wordLenField_inside valid bits) _
  have clock : setupChconf mode wordLen speedHz l &&& chconfClkdMask = divisorField speedHz := by
    rw [setupChconf_eq valid bits]
    simp only [settings, MaskedWrite.apply_andThen]
    rw [MaskedWrite.assign_and_of_disjoint (by decide),
      MaskedWrite.assign_and_of_disjoint (by decide)]
    exact MaskedWrite.field_and divisorField_inside _
  have select : isOn (setupChconf mode wordLen speedHz l) chconfEpol =
      decide (mode &&& spiCsHigh = 0) := by
    rw [setupChconf_eq valid bits]
    simp only [settings, MaskedWrite.apply_andThen]
    rw [isOn_assign_of_disjoint (by decide), isOn_assign_of_disjoint (by decide),
      isOn_field_of_disjoint (by decide)]
    exact isOn_assign (by decide) _ _
  have polarity : isOn (setupChconf mode wordLen speedHz l) chconfPol =
      decide (mode &&& spiCpol ≠ 0) := by
    rw [setupChconf_eq valid bits]
    simp only [settings, MaskedWrite.apply_andThen]
    rw [isOn_assign_of_disjoint (by decide)]
    exact isOn_assign (by decide) _ _
  have phase : isOn (setupChconf mode wordLen speedHz l) chconfPha =
      decide (mode &&& spiCpha ≠ 0) := by
    rw [setupChconf_eq valid bits]
    simp only [settings, MaskedWrite.apply_andThen]
    exact isOn_assign (by decide) _ _
  have length := toNat_wordLen_pred valid
  have small := calcDivisor_le speedHz
  have divisor : (BitVec.ofNat 32 (calcDivisor speedHz)).toNat = calcDivisor speedHz := by
    rw [BitVec.toNat_ofNat]
    omega
  unfold lineFormat
  rw [words, clock, select, polarity, phase, wordLenField, divisorField,
    shifted_shifted (n := 5) (by decide) (by rw [length]; omega), length,
    shifted_shifted (n := 4) (by decide) (by rw [divisor]; omega), divisor,
    Nat.sub_add_cancel valid, ← decide_not, rateFor]

end settings

section clock
variable {speedHz : Word}

theorem lt_of_lt_calcDivisor {n : Nat} (less : n < calcDivisor speedHz) :
    speedHz < omap2McspiMaxFreq >>> n := by
  unfold calcDivisor at less
  cases found : (List.range 15).find? fun div => omap2McspiMaxFreq >>> div ≤ speedHz with
  | none =>
      rw [found] at less
      have above := List.find?_range_eq_none.mp found n less
      simpa using above
  | some div =>
      rw [found] at less
      have above := (List.find?_range_eq_some.mp found).2.2 n less
      simpa using above

theorem rateFor_le_of_lt (less : calcDivisor speedHz < 15) : rateFor speedHz ≤ speedHz := by
  unfold rateFor
  unfold calcDivisor at less ⊢
  cases found : (List.range 15).find? fun div => omap2McspiMaxFreq >>> div ≤ speedHz with
  | none =>
      rw [found] at less
      exact absurd less (Nat.lt_irrefl 15)
  | some div =>
      have fits := (List.find?_range_eq_some.mp found).1
      exact of_decide_eq_true fits

theorem shiftRight_le {n m : Nat} (le : n ≤ m) (l : Word) : l >>> m ≤ l >>> n := by
  rw [BitVec.le_def, BitVec.toNat_ushiftRight, BitVec.toNat_ushiftRight,
    Nat.shiftRight_eq_div_pow, Nat.shiftRight_eq_div_pow]
  exact Nat.div_le_div_left (Nat.pow_le_pow_right (by decide) le) (Nat.two_pow_pos n)

/-- The slowest clock is 1464 Hz. -/
theorem rateFor_le_iff : rateFor speedHz ≤ speedHz ↔ 1464 ≤ speedHz := by
  rcases Nat.lt_or_eq_of_le (calcDivisor_le speedHz) with less | slowest
  · have slower : (1464 : Word) ≤ rateFor speedHz := shiftRight_le less.le omap2McspiMaxFreq
    exact ⟨fun fits => BitVec.le_trans slower fits, fun _ => rateFor_le_of_lt less⟩
  · rw [rateFor, slowest]
    rfl

/-- No other clock that fits is faster. -/
theorem rateFor_largest {n : Nat} (fits : omap2McspiMaxFreq >>> n ≤ speedHz) :
    omap2McspiMaxFreq >>> n ≤ rateFor speedHz := by
  refine shiftRight_le (Nat.le_of_not_lt fun less => ?_) _
  exact BitVec.not_lt.mpr fits (lt_of_lt_calcDivisor less)

end clock

theorem chconf_writeChconf (r : Registers) (l : Word) : (r.writeChconf l).chconf = l := by
  unfold Registers.writeChconf
  split <;> rfl

theorem chctrl_writeChconf (r : Registers) (l : Word) : (r.writeChconf l).chctrl = r.chctrl := by
  unfold Registers.writeChconf
  split <;> rfl

/-- Whatever the configuration has been, after a set-up the controller reads the word length, the
polarities and the phase of the device or the transfer from it, and the largest rate it has up to
the requested one; that is one as long as 1464 Hz are requested. -/
theorem setup_reads_back (d : SpiDevice) (t : Option Transfer) (c : Channel)
    (valid : 1 ≤ (wordLenOf d t).toNat) (bits : (wordLenOf d t).toNat ≤ 32) :
    lineFormat (setupTransfer c d t).registers.chconf =
      ⟨(wordLenOf d t).toNat, rateFor (speedOf d t), d.mode &&& spiCsHigh ≠ 0,
        d.mode &&& spiCpol ≠ 0, d.mode &&& spiCpha ≠ 0⟩ ∧
    (setupTransfer c d t).registers.chconf &&& ~~~settingsMask = c.chconf0 &&& ~~~settingsMask ∧
    (∀ n : Nat, omap2McspiMaxFreq >>> n ≤ speedOf d t →
      omap2McspiMaxFreq >>> n ≤ rateFor (speedOf d t)) ∧
    (rateFor (speedOf d t) ≤ speedOf d t ↔ 1464 ≤ speedOf d t) := by
  have written : (setupTransfer c d t).registers.chconf =
      setupChconf d.mode (wordLenOf d t) (speedOf d t) c.chconf0 := chconf_writeChconf _ _
  rw [written]
  exact ⟨lineFormat_setupChconf valid bits _, setupChconf_others valid bits _,
    fun _ => rateFor_largest, rateFor_le_iff⟩

/-- A device for 1000 Hz runs at 1464 Hz. -/
theorem setup_reads_back_slowDevice :
    (lineFormat (setupTransfer (.begun 8 0) ⟨0, 16, 1000, false⟩ none).registers.chconf).rateHz =
      1464 :=
  congrArg LineFormat.rateHz (setup_reads_back ⟨0, 16, 1000, false⟩ none (.begun 8 0) (by decide)
    (by decide)).1

end Gumstix.Mcspi
