import Gumstix.Mcspi.MessageDelivery

/-!
# Loopback

With its output connected to its input the line answers each word with the word itself, as far as it
has been carried. What is sent then comes back into the receive buffers.
-/
namespace Gumstix.Mcspi
open Gumstix.Synchronization (Word)
open ByteImage (wordByte)
open WordMemory (Memory load storeAll)

/-- The line carries as many bits of a word as the word length says. -/
def carried (wordLen : Nat) (x : Word) : Word := (x.setWidth wordLen).setWidth 32

def LoopsBack (d : SpiDevice) (x : Transfer) (r : LineReplies) : Prop :=
  ∀ tx ∈ x.txBuf, ∀ i < x.words (elementOf d x),
    r.rx i = carried (wordLenOf d (some x)).toNat (load 32 (elementOf d x).bytes tx i)

section carried
variable {wordLen : Nat} {x : Word}

theorem toNat_carried : (carried wordLen x).toNat = x.toNat % 2 ^ wordLen := by
  rw [carried, BitVec.toNat_setWidth, BitVec.toNat_setWidth]
  exact Nat.mod_eq_of_lt ((Nat.mod_le _ _).trans_lt x.isLt)

theorem carried_eq_iff : carried wordLen x = x ↔ x.toNat < 2 ^ wordLen := by
  rw [← BitVec.toNat_inj, toNat_carried]
  exact Nat.mod_eq_iff_lt (Nat.two_pow_pos wordLen).ne'

theorem wordByte_carried {b : Nat} (zero : wordByte x b = 0) :
    wordByte (carried wordLen x) b = 0 := by
  apply BitVec.eq_of_getLsbD_eq
  intro i hi
  have bit := congrArg (fun byte => byte.getLsbD i) zero
  simp only [ByteImage.getLsbD_wordByte, hi, decide_true, Bool.true_and] at bit ⊢
  rw [carried, BitVec.getLsbD_setWidth, BitVec.getLsbD_setWidth, bit]
  simp

end carried

section transfers
variable {d : SpiDevice} {x : Transfer} {r : LineReplies} {tx rx : Memory}

/-- The bytes of a word that has been received are those sent exactly if the line has carried all of
the word. -/
theorem word_returns {wordLen : Nat} (k : DataType) (i : Nat) :
    (∀ b < k.bytes, wordByte (carried wordLen (load 32 k.bytes tx i)) b = tx (k.bytes * i + b)) ↔
      (load 32 k.bytes tx i).toNat < 2 ^ wordLen := by
  have wide : 8 * k.bytes ≤ 32 := Nat.mul_le_mul_left 8 k.bytes_le
  rw [← WordMemory.eq_load_iff (n := 4) rfl k.bytes_le fun b above =>
    wordByte_carried (WordMemory.wordByte_load_of_le wide tx i above), carried_eq_iff]

theorem rxBufOf_full (isRx : x.rxBuf = some rx) : rxBufOf d x r (fullPassage d x) =
    some (storeAll (elementOf d x).bytes rx 0 (wordsReceived r 0 (x.words (elementOf d x)))) := by
  rw [rxBufOf, isRx, fullPassage, isRx]
  rfl

/-- What is left of the words sent after the transfer: nothing is written behind them, and all bytes
are those sent exactly if no word has bits that the line does not carry. -/
theorem memory_returns (loops : LoopsBack d x r) (whole : (elementOf d x).bytes ∣ x.len.toNat)
    (isTx : x.txBuf = some tx) (rx : Memory) :
    let received :=
      storeAll (elementOf d x).bytes rx 0 (wordsReceived r 0 (x.words (elementOf d x)))
    (∀ j, x.len.toNat ≤ j → received j = rx j) ∧
    ((∀ j < x.len.toNat, received j = tx j) ↔ ∀ i < x.words (elementOf d x),
      (load 32 (elementOf d x).bytes tx i).toNat < 2 ^ (wordLenOf d (some x)).toNat) := by
  intro received
  have all : (elementOf d x).bytes * x.words (elementOf d x) = x.len.toNat :=
    Nat.mul_div_cancel' whole
  have length := length_wordsReceived r 0 (x.words (elementOf d x))
  have byte : ∀ i < x.words (elementOf d x), ∀ b < (elementOf d x).bytes,
      received ((elementOf d x).bytes * i + b) = wordByte
        (carried (wordLenOf d (some x)).toNat (load 32 (elementOf d x).bytes tx i)) b := by
    intro i hi b hb
    have inside : i < (wordsReceived r 0 (x.words (elementOf d x))).length := length.symm ▸ hi
    have word : (wordsReceived r 0 (x.words (elementOf d x)))[i] = r.rx i := by
      simp [wordsReceived]
    have stored := WordMemory.storeAll_get rx (i := 0) _ inside hb
    rw [Nat.zero_add, word, loops tx isTx i hi] at stored
    exact stored
  refine ⟨fun j behind => WordMemory.storeAll_behind rx _ ?_, fun returns i hi => ?_,
    fun fits j within => ?_⟩
  · rw [Nat.zero_add, length, all]
    exact behind
  · refine (word_returns (elementOf d x) i).mp fun b hb => ?_
    have before : (elementOf d x).bytes * i + b < x.len.toNat := by
      have next := Nat.mul_le_mul_left (elementOf d x).bytes hi
      rw [all, Nat.mul_succ] at next
      omega
    rw [← byte i hi b hb]
    exact returns _ before
  · have hi : j / (elementOf d x).bytes < x.words (elementOf d x) := by
      rw [Nat.div_lt_iff_lt_mul (elementOf d x).bytes_pos, Nat.mul_comm, all]
      exact within
    have hb : j % (elementOf d x).bytes < (elementOf d x).bytes :=
      Nat.mod_lt j (elementOf d x).bytes_pos
    have returned := (word_returns (elementOf d x) _).mpr (fits _ hi) _ hb
    rw [← byte _ hi _ hb, Nat.div_add_mod] at returned
    exact returned

end transfers

section messages
variable {d : SpiDevice} {c : Channel} {replies : Replies} {tx rx : Memory}

theorem fullRxBufs_getElem? {transfers : List Transfer} {n : Nat} (within : n < transfers.length)
    (i : Nat) : (fullRxBufs d replies transfers i)[n]? =
      some (rxBufOf d transfers[n] (replies (i + n)) (fullPassage d transfers[n])) := by
  induction transfers generalizing i n with
  | nil => exact absurd within (Nat.not_lt_zero n)
  | cons x transfers ih =>
      cases n with
      | zero => rfl
      | succ n =>
          have rest := ih (Nat.lt_of_succ_lt_succ within) (i + 1)
          rw [Nat.add_right_comm] at rest
          exact rest

/-- Each transfer of a message that is looped back has received what it has sent, and nothing behind
it, exactly if its words are as short as it says. -/
theorem message_loops_back (device : ValidWordLen (wordLenOf d none)) (h : Idle d c) {q : Request}
    (accepted : q.accepted = true)
    (regular : AllRegular d q.message.isDmaMapped q.replies 0 q.message.transfers) {n : Nat}
    (within : n < q.message.transfers.length) {x : Transfer} (isX : q.message.transfers[n] = x)
    (loops : LoopsBack d x (q.replies n)) (isTx : x.txBuf = some tx) (isRx : x.rxBuf = some rx) :
    ∃ received, (transferRequest d q c).outcome.rxBufs[n]? = some (some received) ∧
      (∀ j, x.len.toNat ≤ j → received j = rx j) ∧
      ((∀ j < x.len.toNat, received j = tx j) ↔ ∀ i < x.words (elementOf d x),
        (load 32 (elementOf d x).bytes tx i).toNat < 2 ^ (wordLenOf d (some x)).toNat) := by
  subst isX
  refine ⟨_, ?_, memory_returns loops (regular n within).whole isTx rx⟩
  rw [outcome_regular device h accepted regular, fullRxBufs_getElem? within, Nat.zero_add,
    rxBufOf_full isRx]

/-- The line of a connection from output to input, with three words of 16 bits. -/
def loopedBack : LineReplies :=
  .prompt fun i => carried 16 (load 32 2 (fun j => BitVec.ofNat 8 j) i)

/-- The last byte of six. -/
theorem message_loops_back_lastByte : ∃ received,
    (transferRequest sixteenBits ⟨⟨[threeWords], false⟩, fun _ => true, fun _ => loopedBack⟩
      (newChannel sixteenBits)).outcome.rxBufs[0]? = some (some received) ∧ received 5 = 5 := by
  have regular : AllRegular sixteenBits false (fun _ => loopedBack) 0 [threeWords] := by
    intro j within
    obtain rfl : j = 0 := Nat.lt_one_iff.mp within
    exact ⟨(by decide : 2 ∣ 6), nofun, fun i _ => wordPasses_prompt _ _ i⟩
  have loops : LoopsBack sixteenBits threeWords loopedBack := by
    intro tx isTx i hi
    obtain rfl := Option.some.inj isTx
    rfl
  obtain ⟨received, isReceived, -, returns⟩ := message_loops_back (d := sixteenBits)
    (q := ⟨⟨[threeWords], false⟩, fun _ => true, fun _ => loopedBack⟩) (n := 0) (by decide)
    (idle_newChannel (by decide)) rfl regular Nat.zero_lt_one rfl loops rfl rfl
  exact ⟨received, isReceived, returns.mpr (by decide) 5 (by decide)⟩

end messages

end Gumstix.Mcspi
