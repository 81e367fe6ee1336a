import Gumstix.Spike.MessageBuffer
import Mathlib.Data.Rat.Cast.Order
import Mathlib.Tactic.FieldSimp

/-!
# Temperatures of the LM74

`LM74::Read` reads two bytes through the spike driver, which takes them for a string, and
assembles them in an array of plain `char`.
-/
namespace Gumstix.Classes.LM74
open Gumstix.Synchronization (Word)
open Gumstix.Spike
open EventMachine

def errSpikeDriverOpen : Int := 6000

/-- `LM74::Open`: its return value, the file in `fd_` and the driver after it. -/
def lm74Open (d : SpikeDriver) (k : SpikeReplies) : Int × Option Nat × SpikeDriver :=
  if (spikeOpen d k).ret < 0 then (-errSpikeDriverOpen, none, (spikeOpen d k).driver)
  else (0, some d.openFiles, (spikeOpen d k).driver)

/-- A plain `char` in an arithmetic expression. -/
def charToInt (charSigned : Bool) (b : Byte) : Int := if charSigned then b.toInt else b.toNat

/-- `temp += mesure[0] << 8; temp += mesure[1]; temp = temp >> 3;` -/
def assemble (charSigned : Bool) (mesure₀ mesure₁ : Byte) : BitVec 16 :=
  (BitVec.ofInt 16 (charToInt charSigned mesure₀ * 256) +
    BitVec.ofInt 16 (charToInt charSigned mesure₁)) >>> 3

/-- `RATIO` is 0.0625; the product is exact in a `double`. -/
def ratio : ℚ := 1 / 16

/-- `LM74::Read`: the temperature and the driver after it. -/
def lm74Read (charSigned : Bool) (file : Nat) (d : SpikeDriver) (k : SpikeReplies) :
    ℚ × SpikeDriver :=
  let out := spikeRead d k file false 2
  let mesure := overlay out.copied [0, 0]
  (((assemble charSigned (mesure.getD 0 0) (mesure.getD 1 0)).toNat : ℚ) * ratio, out.driver)

/-- Successive readings, in each of which a transfer brings the next word; a reading without a
transfer is followed by no transfer. -/
def lm74Reads (charSigned : Bool) (file : Nat) : SpikeDriver → List (Byte × Byte) → List ℚ
  | _, [] => []
  | d, w :: ws =>
      let reading := lm74Read charSigned file d (.granted [w.1, w.2])
      reading.1 :: lm74Reads charSigned file reading.2 ws

/-- The number formed by the top 13 bits of a word. -/
def sample (w : Byte × Byte) : Int := (BitVec.extractLsb' 3 13 (w.1 ++ w.2)).toInt

/-- What a word of the sensor means. -/
def temperature (w : Byte × Byte) : ℚ := (sample w : ℚ) / 16

/-- A word whose 13 bits are 0. -/
def ZeroWord (w : Byte × Byte) : Prop := w.1 = 0 ∧ w.2 < 8

/-- A word whose bytes arrive and are assembled as they should be. -/
def PlainWord (charSigned : Bool) (w : Byte × Byte) : Prop :=
  w.1 ≠ 0 ∧ w.1 < 128 ∧ (charSigned = true → w.2 < 128)

instance (w : Byte × Byte) : Decidable (ZeroWord w) := inferInstanceAs (Decidable (_ ∧ _))

instance (charSigned : Bool) (w : Byte × Byte) : Decidable (PlainWord charSigned w) :=
  inferInstanceAs (Decidable (_ ∧ _ ∧ _))

/-- At most one word is not 0, and that one is plain. -/
def WordsReadable (charSigned : Bool) (words : List (Byte × Byte)) : Prop :=
  (∀ w ∈ words, ZeroWord w ∨ PlainWord charSigned w) ∧
    words.countP (fun w => ¬ ZeroWord w) ≤ 1

instance (charSigned : Bool) (words : List (Byte × Byte)) :
    Decidable (WordsReadable charSigned words) :=
  -- The list is walked, not the type of the words.
  @instDecidableAnd _ _ (List.decidableBAll _ words) (Nat.decLe _ _)

theorem toNat_word (w : Byte × Byte) : (w.1 ++ w.2).toNat = 256 * w.1.toNat + w.2.toNat := by
  rw [BitVec.toNat_append, ← Nat.shiftLeft_add_eq_or_of_lt w.2.isLt, Nat.shiftLeft_eq]
  omega

theorem sample_eq (w : Byte × Byte) : sample w =
    if w.1.toNat < 128 then (((256 * w.1.toNat + w.2.toNat) / 8 : Nat) : Int)
    else (((256 * w.1.toNat + w.2.toNat) / 8 : Nat) : Int) - 8192 := by
  have first := w.1.isLt
  have second := w.2.isLt
  rw [sample, BitVec.toInt_eq_toNat_cond, BitVec.extractLsb'_toNat, toNat_word,
    Nat.shiftRight_eq_div_pow]
  split_ifs <;> omega

theorem byte_zero_iff (b : Byte) : b = 0 ↔ b.toNat = 0 := BitVec.toNat_inj.symm

theorem byte_lt_iff (b c : Byte) : b < c ↔ b.toNat < c.toNat := Iff.rfl

/-- A word whose first byte is not 0, with or without the sign of its second byte. -/
theorem toNat_assemble (charSigned : Bool) {w : Byte × Byte} (arrived : w.1 ≠ 0) :
    (assemble charSigned w.1 w.2).toNat =
      (256 * w.1.toNat + w.2.toNat -
        if charSigned = true ∧ 128 ≤ w.2.toNat then 256 else 0) / 8 := by
  have first := w.1.isLt
  have second := w.2.isLt
  have positive := Nat.pos_of_ne_zero (mt (byte_zero_iff w.1).mpr arrived)
  rw [assemble, BitVec.toNat_ushiftRight, BitVec.toNat_add, BitVec.toNat_ofInt, BitVec.toNat_ofInt,
    Nat.shiftRight_eq_div_pow]
  cases charSigned with
  | false =>
      simp only [charToInt, Bool.false_eq_true, false_and, if_false]
      omega
  | true =>
      simp only [charToInt, if_true, true_and, BitVec.toInt_eq_toNat_cond]
      split_ifs <;> omega

theorem zeroWord_iff (w : Byte × Byte) : ZeroWord w ↔ sample w = 0 := by
  have first := w.1.isLt
  have second := w.2.isLt
  have eight : (8 : Byte).toNat = 8 := rfl
  rw [ZeroWord, sample_eq, byte_zero_iff, byte_lt_iff, eight]
  split_ifs <;> omega

/-- A word whose first byte is not 0 is assembled rightly exactly if it is plain. -/
theorem assemble_eq_iff (charSigned : Bool) {w : Byte × Byte} (arrived : w.1 ≠ 0) :
    ((assemble charSigned w.1 w.2).toNat : Int) = sample w ↔ PlainWord charSigned w := by
  have first := w.1.isLt
  have second := w.2.isLt
  have positive := Nat.pos_of_ne_zero (mt (byte_zero_iff w.1).mpr arrived)
  have sign : (128 : Byte).toNat = 128 := rfl
  rw [toNat_assemble charSigned arrived, sample_eq, PlainWord, byte_lt_iff, byte_lt_iff, sign]
  simp only [arrived, ne_eq, not_false_eq_true, true_and]
  cases charSigned with
  | false =>
      simp only [Bool.false_eq_true, false_and, if_false, false_implies, and_true]
      split_ifs <;> omega
  | true =>
      simp only [true_and, true_implies]
      split_ifs <;> omega

theorem temperature_eq_iff (n : Nat) (w : Byte × Byte) :
    (n : ℚ) * ratio = temperature w ↔ (n : Int) = sample w := by
  rw [ratio, temperature, mul_one_div, div_left_inj' (by norm_num)]
  exact_mod_cast Iff.rfl

/-- The device is there, and the receive buffer has its size. -/
structure Ready (d : SpikeDriver) : Prop where
  device : d.spiDevice = true
  size : (d.bytes d.rxBuff).length = spiBuffSize

theorem bytes_write_self (d : SpikeDriver) (block : Nat) (bytes : List Byte) :
    (d.write block bytes).bytes block = overlay bytes (d.bytes block) := by
  change ((d.heap.update block (overlay bytes)).content block).getD [] = _
  rw [BlockHeap.content_update_self, SpikeDriver.bytes]
  cases d.heap.content block with
  | none => simp [overlay]
  | some content => rfl

/-- Two bytes over a cleared buffer. -/
theorem bytes_received {d : SpikeDriver} {block : Nat} (size : (d.bytes block).length = spiBuffSize)
    (w : Byte × Byte) :
    ((d.write block (List.replicate spiBuffSize 0)).write block [w.1, w.2]).bytes block =
      [w.1, w.2, 0, 0] := by
  have cleared : overlay (List.replicate spiBuffSize 0) (d.bytes block) = [0, 0, 0, 0] := by
    rw [overlay, size, List.drop_eq_nil_of_le (by rw [size, List.length_replicate])]
    rfl
  rw [bytes_write_self, bytes_write_self, cleared]
  rfl

/-- The bytes of a word that count as a string. -/
def arriving (w : Byte × Byte) : List Byte :=
  if w.1 = 0 then [] else if w.2 = 0 then [w.1] else [w.1, w.2]

theorem takeWhile_word (w : Byte × Byte) :
    [w.1, w.2, 0, 0].takeWhile (fun b => decide (b ≠ 0)) = arriving w := by
  have goesOn : ∀ (b : Byte) (bs : List Byte), b ≠ 0 →
      (b :: bs).takeWhile (fun b => decide (b ≠ 0)) =
        b :: bs.takeWhile (fun b => decide (b ≠ 0)) :=
    fun b bs nonzero => List.takeWhile_cons_of_pos (decide_eq_true nonzero)
  rw [arriving]
  by_cases first : w.1 = 0
  · rw [if_pos first, first]
    rfl
  · rw [if_neg first, goesOn _ _ first]
    by_cases second : w.2 = 0
    · rw [if_pos second, second]
      rfl
    · rw [if_neg second, goesOn _ _ second]
      rfl

theorem length_arriving_le (w : Byte × Byte) : (arriving w).length ≤ 2 := by
  rw [arriving]
  split_ifs <;> simp

/-- Writes into buffers keep the device and the positions of the files. -/
theorem writeUser_keeps (d : SpikeDriver) (bytes : List Byte) :
    (d.writeUser bytes).spiDevice = d.spiDevice ∧ (d.writeUser bytes).offset = d.offset := by
  rw [SpikeDriver.writeUser]
  split <;> exact ⟨rfl, rfl⟩

/-- The copy of a word to the user. -/
theorem readCopy_word {d : SpikeDriver} {k : SpikeReplies} (file : Nat) {w : Byte × Byte}
    (bytes : d.userBytes = [w.1, w.2, 0, 0]) (copied : k.notCopied = 0) :
    (readCopy d k file 2 none).copied = arriving w ∧
      (readCopy d k file 2 none).driver.spiDevice = d.spiDevice ∧
        (readCopy d k file 2 none).driver.offset file =
          d.offset file + (arriving w).length := by
  have prefixed : [w.1, w.2, 0, 0].take (arriving w).length = arriving w := by
    rw [arriving]
    split_ifs <;> rfl
  have length : (if strlen d.userBytes < (2 : Word).toNat then strlen d.userBytes
      else (2 : Word).toNat) = (arriving w).length := by
    have counted : strlen d.userBytes = (arriving w).length := by
      rw [strlen, bytes]
      exact congrArg List.length (takeWhile_word w)
    have two : (2 : Word).toNat = 2 := rfl
    have := length_arriving_le w
    rw [counted, two]
    split_ifs <;> omega
  simp only [readCopy, length, copied]
  refine ⟨?_, (writeUser_keeps _ _).1, ?_⟩
  · rw [bytes, prefixed]
    exact List.take_length
  · exact (congrFun (writeUser_keeps _ _).2 file).trans (Function.update_self _ _ _)

theorem read_word {d : SpikeDriver} (ready : Ready d) {file : Nat} (unread : d.offset file = 0)
    (w : Byte × Byte) :
    (spikeRead d (.granted [w.1, w.2]) file false 2).copied = arriving w ∧
      Ready (spikeRead d (.granted [w.1, w.2]) file false 2).driver ∧
        (spikeRead d (.granted [w.1, w.2]) file false 2).driver.offset file =
          (arriving w).length := by
  have sent : TransferSucceeds d (.granted [w.1, w.2]) := ⟨rfl, ready.device, rfl⟩
  have size : ((d.write d.txBuff [0, 0]).bytes d.rxBuff).length = spiBuffSize :=
    ((sameBuffers_write d d.txBuff [0, 0]).size d.rxBuff).trans ready.size
  rw [spikeRead_of_succeeds _ _ _ unread rfl sent, spikeDoOneMessage,
    transfer_of_succeeds _ _ _ sent]
  obtain ⟨copied, device, offset⟩ := readCopy_word (k := .granted [w.1, w.2]) file
    (d := { ((d.write d.txBuff [0, 0]).write d.rxBuff (List.replicate spiBuffSize 0)).write
      d.rxBuff [w.1, w.2] with userBuff := some d.rxBuff }) (bytes_received size w) rfl
  have same := sameBuffers_readCopy
    { ((d.write d.txBuff [0, 0]).write d.rxBuff (List.replicate spiBuffSize 0)).write
      d.rxBuff [w.1, w.2] with userBuff := some d.rxBuff } (.granted [w.1, w.2]) file 2 none
  refine ⟨copied, ⟨device.trans ready.device, ?_⟩, offset.trans ?_⟩
  · refine (congrArg List.length (congrArg _ same.rx)).trans ((same.size _).trans ?_)
    exact congrArg List.length (bytes_received size w)
  · exact (congrArg (· + (arriving w).length) unread).trans (Nat.zero_add _)

/-- What `mesure` holds after the read of a word. -/
theorem mesure_word (w : Byte × Byte) :
    overlay (arriving w) [0, 0] = if w.1 = 0 then [0, 0] else [w.1, w.2] := by
  rw [arriving]
  by_cases first : w.1 = 0
  · rw [if_pos first, if_pos first]
    rfl
  · rw [if_neg first, if_neg first]
    by_cases second : w.2 = 0
    · rw [if_pos second, second]
      rfl
    · rw [if_neg second]
      rfl

theorem assemble_zero (charSigned : Bool) : (assemble charSigned 0 0).toNat = 0 := by
  cases charSigned <;> rfl

theorem zero_eq_temperature_iff (w : Byte × Byte) : 0 = temperature w ↔ ZeroWord w := by
  have value := temperature_eq_iff 0 w
  rw [Nat.cast_zero, zero_mul] at value
  rw [value, zeroWord_iff]
  exact eq_comm

/-- A reading after a file's first byte. -/
theorem lm74Read_frozen (charSigned : Bool) {d : SpikeDriver} {file : Nat}
    (read : 0 < d.offset file) (k : SpikeReplies) : lm74Read charSigned file d k = (0, d) := by
  have nothing : spikeRead d k file false 2 = ⟨d, 0, none, []⟩ := by
    rw [spikeRead, if_neg Bool.false_ne_true, if_pos read]
  simp only [lm74Read, nothing]
  refine Prod.ext ?_ rfl
  change ((assemble charSigned 0 0).toNat : ℚ) * ratio = 0
  rw [assemble_zero, Nat.cast_zero, zero_mul]

/-- A reading that makes a transfer. -/
theorem lm74Read_word (charSigned : Bool) {d : SpikeDriver} (ready : Ready d) {file : Nat}
    (unread : d.offset file = 0) (w : Byte × Byte) :
    (lm74Read charSigned file d (.granted [w.1, w.2])).1 = temperature w ↔
      if w.1 = 0 then ZeroWord w else PlainWord charSigned w := by
  obtain ⟨copied, -, -⟩ := read_word ready unread w
  simp only [lm74Read, copied, mesure_word]
  by_cases first : w.1 = 0
  · rw [if_pos first, if_pos first]
    change ((assemble charSigned 0 0).toNat : ℚ) * ratio = temperature w ↔ _
    rw [assemble_zero, Nat.cast_zero, zero_mul, zero_eq_temperature_iff]
  · rw [if_neg first, if_neg first]
    exact (temperature_eq_iff _ w).trans (assemble_eq_iff charSigned first)

theorem lm74Reads_frozen (charSigned : Bool) {d : SpikeDriver} {file : Nat}
    (read : 0 < d.offset file) (words : List (Byte × Byte)) :
    lm74Reads charSigned file d words = words.map fun _ => 0 := by
  induction words with
  | nil => rfl
  | cons w ws ih =>
      simp only [lm74Reads, lm74Read_frozen charSigned read, List.map_cons]
      exact congrArg _ ih

theorem not_zeroWord {w : Byte × Byte} (first : w.1 ≠ 0) : ¬ ZeroWord w := fun zero => first zero.1

theorem wordsReadable_cons_zero {charSigned : Bool} {w : Byte × Byte} (first : w.1 = 0)
    (ws : List (Byte × Byte)) :
    WordsReadable charSigned (w :: ws) ↔ ZeroWord w ∧ WordsReadable charSigned ws := by
  simp only [WordsReadable, List.forall_mem_cons, List.countP_cons]
  constructor
  · rintro ⟨⟨zero | plain, rest⟩, few⟩
    · exact ⟨zero, rest, Nat.le_trans (Nat.le_add_right _ _) few⟩
    · exact absurd first plain.1
  · rintro ⟨zero, rest, few⟩
    refine ⟨⟨.inl zero, rest⟩, ?_⟩
    rw [if_neg (by simpa using zero)]
    exact few

theorem wordsReadable_cons_nonzero {charSigned : Bool} {w : Byte × Byte} (first : w.1 ≠ 0)
    (ws : List (Byte × Byte)) :
    WordsReadable charSigned (w :: ws) ↔ PlainWord charSigned w ∧ ∀ v ∈ ws, ZeroWord v := by
  have counted : (decide ¬ ZeroWord w) = true := decide_eq_true (not_zeroWord first)
  simp only [WordsReadable, List.forall_mem_cons, List.countP_cons, counted, if_true]
  constructor
  · rintro ⟨⟨zero | plain, -⟩, few⟩
    · exact absurd zero.1 first
    · have none := List.countP_eq_zero.mp (Nat.le_zero.mp (Nat.le_of_succ_le_succ few))
      refine ⟨plain, fun v inWords => ?_⟩
      have := none v inWords
      simpa using this
  · rintro ⟨plain, zeros⟩
    refine ⟨⟨.inr plain, fun v inWords => .inl (zeros v inWords)⟩, ?_⟩
    have none : ws.countP (fun w => decide ¬ ZeroWord w) = 0 :=
      List.countP_eq_zero.mpr fun v inWords => by simpa using zeros v inWords
    rw [none]

theorem lm74Reads_iff (charSigned : Bool) {d : SpikeDriver} (ready : Ready d) {file : Nat}
    (unread : d.offset file = 0) (words : List (Byte × Byte)) :
    lm74Reads charSigned file d words = words.map temperature ↔
      WordsReadable charSigned words := by
  induction words generalizing d with
  | nil => exact iff_of_true rfl ⟨nofun, Nat.zero_le 1⟩
  | cons w ws ih =>
      obtain ⟨-, next, offset⟩ := read_word ready unread w
      have head := lm74Read_word charSigned ready unread w
      simp only [lm74Reads, List.map_cons, List.cons.injEq, head]
      by_cases first : w.1 = 0
      · have still : (spikeRead d (.granted [w.1, w.2]) file false 2).driver.offset file = 0 := by
          rw [offset, arriving, if_pos first]
          rfl
        rw [if_pos first, wordsReadable_cons_zero first]
        exact and_congr_right fun _ => ih next still
      · have read : 0 < (spikeRead d (.granted [w.1, w.2]) file false 2).driver.offset file := by
          rw [offset, arriving, if_neg first]
          split_ifs <;> exact Nat.succ_pos _
        rw [if_neg first, wordsReadable_cons_nonzero first]
        refine and_congr_right fun _ => ?_
        change lm74Reads charSigned file
          (spikeRead d (.granted [w.1, w.2]) file false 2).driver ws = _ ↔ _
        rw [lm74Reads_frozen charSigned read ws, List.map_inj_left]
        exact forall₂_congr fun v _ => zero_eq_temperature_iff v

/-- The receive buffer is allocated with its size. -/
structure RxSized (d : SpikeDriver) : Prop where
  allocated : d.rxBuff < d.heap.fresh
  size : (d.bytes d.rxBuff).length = spiBuffSize

theorem RxSized.same {d d' : SpikeDriver} (h : RxSized d) (same : SameBuffers d d') :
    RxSized d' := by
  constructor
  · rw [same.rx, same.fresh]
    exact h.allocated
  · rw [same.rx, same.size]
    exact h.size

theorem spikeOpen_rxSized {d : SpikeDriver} (h : RxSized d) (k : SpikeReplies) :
    RxSized (spikeOpen d k).driver := by
  rw [spikeOpen]
  split
  · exact h
  · split
    · exact ⟨h.allocated, h.size⟩
    · split
      · constructor
        · change d.rxBuff < (d.heap.alloc _).fresh
          rw [BlockHeap.fresh_alloc]
          exact Nat.lt_succ_of_lt h.allocated
        · change (((d.heap.alloc _).content d.rxBuff).getD []).length = _
          rw [BlockHeap.content_alloc h.allocated]
          exact h.size
      · exact h

theorem spikeCall_rxSized (d : SpikeDriver) (e : SpikeEvent) (h : RxSized d)
    (_ : spikeEnabled d e) : RxSized (spikeCall d e).driver := by
  cases e with
  | openFile k => exact spikeOpen_rxSized h k
  | read file buffIsNull count k =>
      by_cases fails : NoReadSucceeds d (.read file buffIsNull count k)
      · exact h.same (sameBuffers_read d k count fails)
      · obtain ⟨rfl, unread, notInterrupted, sent⟩ := not_not.mp fails
        have after : RxSized (spikeDoOneMessage d k).1 := h.same (sameBuffers_transfer d k _)
        change RxSized (spikeRead d k file false count).driver
        rw [spikeRead_of_succeeds d k count unread notInterrupted sent]
        refine RxSized.same ?_ (sameBuffers_readCopy _ _ _ _ _)
        exact ⟨after.allocated, after.size⟩
  | ioctl file cmd arg k => exact h.same (sameBuffers_ioctl d k cmd arg)
  | probe | remove => exact ⟨h.allocated, h.size⟩

theorem spikeOpen_newFile {d : SpikeDriver} {k : SpikeReplies}
    (succeeded : ¬ (spikeOpen d k).ret < 0) :
    (spikeOpen d k).driver.offset d.openFiles = 0 ∧
      (spikeOpen d k).driver.spiDevice = d.spiDevice := by
  rw [spikeOpen] at succeeded ⊢
  split at succeeded
  · exact absurd (show -erestartsys < 0 by decide) succeeded
  · next notInterrupted =>
      rw [if_neg notInterrupted]
      split at succeeded
      · exact ⟨Function.update_self _ _ _, rfl⟩
      · split at succeeded
        · next found =>
            rw [if_pos found]
            exact ⟨Function.update_self _ _ _, rfl⟩
        · exact absurd (show -enomem < 0 by decide) succeeded

theorem writeUser_spiDevice (d : SpikeDriver) (bytes : List Byte) :
    (d.writeUser bytes).spiDevice = d.spiDevice := by
  unfold SpikeDriver.writeUser
  split <;> rfl

theorem readCopy_spiDevice (d : SpikeDriver) (k : SpikeReplies) (file : Nat) (count : Word)
    (text : Option String) : (readCopy d k file count text).driver.spiDevice = d.spiDevice := by
  refine (writeUser_spiDevice _ [0, 0]).trans ?_
  split_ifs <;> rfl

/-- A reading leaves the device as it is. -/
theorem lm74Read_spiDevice (charSigned : Bool) (file : Nat) (d : SpikeDriver)
    (k : SpikeReplies) : (lm74Read charSigned file d k).2.spiDevice = d.spiDevice := by
  have sent : (spikeDoOneMessage d k).1.spiDevice = d.spiDevice := by
    unfold spikeDoOneMessage transfer
    split_ifs <;> rfl
  change (spikeRead d k file false 2).driver.spiDevice = _
  rw [spikeRead, if_neg Bool.false_ne_true]
  by_cases unread : 0 < d.offset file
  · rw [if_pos unread]
  by_cases interrupted : k.fopInterrupted = true
  · rw [if_neg unread, if_pos interrupted]
  · rw [if_neg unread, if_neg interrupted]
    dsimp only
    split_ifs
    · rw [readCopy_spiDevice]
      exact (writeUser_spiDevice _ _).trans sent
    · rw [readCopy_spiDevice]
      exact sent

/-- An object that has been opened has a new file, at its start. -/
theorem lm74Open_file {d d' : SpikeDriver} {k : SpikeReplies} {file : Nat}
    (opened : lm74Open d k = (0, some file, d')) :
    d' = (spikeOpen d k).driver ∧ d'.offset file = 0 ∧ d'.spiDevice = d.spiDevice := by
  rw [lm74Open] at opened
  split at opened
  · cases opened
  · next succeeded =>
      cases opened
      exact ⟨rfl, spikeOpen_newFile succeeded⟩

/-- After any run of calls with the device there, the readings of an object that is opened then
are the temperatures of the words, exactly if the words are readable. -/
theorem readings_right_iff (charSigned : Bool) {d d' : SpikeDriver} {k : SpikeReplies}
    {file : Nat} (reachable : spikeMachine.Reachable spikeInit d) (device : d.spiDevice = true)
    (opened : lm74Open d k = (0, some file, d')) (words : List (Byte × Byte)) :
    lm74Reads charSigned file d' words = words.map temperature ↔
      WordsReadable charSigned words := by
  obtain ⟨rfl, unread, sameDevice⟩ := lm74Open_file opened
  have start : RxSized spikeInit := ⟨by decide, by decide⟩
  have sized := spikeOpen_rxSized (reachable.invariant start spikeCall_rxSized) k
  exact lm74Reads_iff charSigned ⟨sameDevice.trans device, sized.size⟩ unread words

/-- The driver is loaded and its device there. -/
def sensorThere : SpikeDriver := spikeMachine.run spikeInit [.probe]

theorem sensorThere_reachable : spikeMachine.Reachable spikeInit sensorThere :=
  ⟨[.probe], by decide +kernel, rfl⟩

/-- A word of 22.25 degrees among words of 0 degrees. -/
def warmWords : List (Byte × Byte) := [(0x00, 0x07), (0x0B, 0x27), (0x00, 0x00)]

theorem readings_right_iff_warmWords :
    lm74Reads true 0 (lm74Open sensorThere (.granted [])).2.2 warmWords =
      warmWords.map temperature := by
  have opened : lm74Open sensorThere (.granted []) =
      (0, some 0, (lm74Open sensorThere (.granted [])).2.2) := rfl
  exact (readings_right_iff true sensorThere_reachable rfl opened warmWords).mpr (by decide +kernel)

theorem readings_right_refuted :
    ¬ ∀ (charSigned : Bool) (d d' : SpikeDriver) (k : SpikeReplies) (file : Nat)
      (words : List (Byte × Byte)), spikeMachine.Reachable spikeInit d → d.spiDevice = true →
        lm74Open d k = (0, some file, d') →
          lm74Reads charSigned file d' words = words.map temperature := by
  intro every
  have law := every true sensorThere _ (.granted []) 0 [(0xFF, 0x80)] sensorThere_reachable rfl rfl
  exact absurd law (by decide +kernel)

end Gumstix.Classes.LM74
