import Gumstix.Mcspi.ShortTransfers

/-!
# Long transfers

Two DMA channels move the words, and the driver reads the last one of a reception itself, or the
last two in turbo mode. What arrives is the same as in a short transfer.
-/
namespace Gumstix.Mcspi
open Gumstix.Synchronization (Word)
open WordMemory (Memory load store storeAll)

section moves
variable {x : Transfer} {r : LineReplies} {c : Channel} {k : DataType} {tx rx : Memory}
  {out : List Word} {n : Nat}

theorem dmaSend_succ :
    dmaSend c k tx (n + 1) = writeTx (dmaSend c k tx n) (load 32 k.bytes tx n) := by
  rw [dmaSend, dmaSend, List.range_succ, List.foldl_append]
  rfl

theorem dmaReceive_succ :
    dmaReceive r c k rx (n + 1) = receiveWord r k (dmaReceive r c k rx n) n := by
  rw [dmaReceive, dmaReceive, List.range_succ, List.foldl_append]
  rfl

theorem dmaSend_carries (selected : Selected c) (sends : x.txBuf = some tx) (fits : ModeFits x c) :
    Carries c (dmaSend c k tx n) (wordsToSend x k 0 n) [] := by
  induction n with
  | zero =>
      rw [wordsToSend_zero]
      exact .refl selected
  | succ n ih =>
      have mode := fits.of_carries ih (by rw [sends]; rfl)
      have last : wordsToSend x k (0 + n) 1 = [load 32 k.bytes tx n] := by
        rw [wordsToSend, sends, Nat.zero_add]
        rfl
      rw [dmaSend_succ, ← wordsToSend_add, last]
      exact ih.trans (carries_writeTx ih.selected mode _)

theorem wordsReceived_succ : wordsReceived r 0 (n + 1) = wordsReceived r 0 n ++ [r.rx n] := by
  rw [← wordsReceived_add, Nat.zero_add]
  rfl

/-- A channel and a memory that have received the first `n` words while `out` has been sent. -/
structure HasReceived (r : LineReplies) (c : Channel) (k : DataType) (rx : Memory)
    (out : List Word) (n : Nat) (state : Channel × Memory) : Prop where
  carries : Carries c state.1 out (wordsReceived r 0 n)
  memory : state.2 = storeAll k.bytes rx 0 (wordsReceived r 0 n)

theorem HasReceived.next {state : Channel × Memory} (h : HasReceived r c k rx out n state) :
    HasReceived r c k rx out (n + 1) (receiveWord r k state n) where
  carries := by
    rw [wordsReceived_succ, ← List.append_nil out]
    exact h.carries.trans (carries_readRx h.carries.selected _)
  memory := by
    rw [wordsReceived_succ, WordMemory.storeAll_append, length_wordsReceived, Nat.zero_add,
      ← h.memory]
    rfl

theorem HasReceived.on {state : Channel × Memory} {c' : Channel}
    (h : HasReceived r c k rx out n state) (carries : Carries state.1 c' [] []) :
    HasReceived r c k rx out n (c', state.2) where
  carries := by
    have both := h.carries.trans carries
    rwa [List.append_nil, List.append_nil] at both
  memory := h.memory

theorem dmaReceive_hasReceived (selected : Selected c) :
    HasReceived r c k rx [] n (dmaReceive r c k rx n) := by
  induction n with
  | zero => exact ⟨.refl selected, rfl⟩
  | succ n ih =>
      rw [dmaReceive_succ]
      exact ih.next

/-- How many words the driver reads itself. -/
def lastWords (turbo : Bool) : Nat := if turbo then 2 else 1

/-- The last words that come in time, after the DMA channel has moved `elements`. -/
def lastInTime (r : LineReplies) (turbo : Bool) (elements : Nat) : Nat :=
  if r.rxs elements then if turbo ∧ r.rxs (elements + 1) then 2 else 1 else 0

theorem lastInTime_le (r : LineReplies) (turbo : Bool) (elements : Nat) :
    lastInTime r turbo elements ≤ lastWords turbo := by
  unfold lastInTime lastWords
  split_ifs <;> simp_all

/-- The last words go on where the DMA channel has stopped, and each missing one is taken off the
count. -/
theorem dmaLastWords_spec {c' : Channel} {m : Memory} {elements : Nat} (turbo : Bool) (sent : Nat)
    (h : HasReceived r c k rx out elements (c', m)) :
    ∃ m', (dmaLastWords x r c' k turbo elements m sent).rxBuf = some m' ∧
      HasReceived r c k rx out (elements + lastInTime r turbo elements)
        ((dmaLastWords x r c' k turbo elements m sent).channel, m') ∧
      (dmaLastWords x r c' k turbo elements m sent).count = x.len -
        BitVec.ofNat 32 (k.bytes * (lastWords turbo - lastInTime r turbo elements)) ∧
      (dmaLastWords x r c' k turbo elements m sent).sent = sent ∧
      (dmaLastWords x r c' k turbo elements m sent).received =
        elements + lastInTime r turbo elements := by
  have off := h.on (carries_setEnable h.carries.selected false)
  have enabled : ∀ {j : Nat} {state : Channel × Memory}, HasReceived r c k rx out j state →
      HasReceived r c k rx out j (setEnable state.1 true, state.2) :=
    fun state => state.on (carries_setEnable state.carries.selected true)
  have none : x.len - BitVec.ofNat 32 (k.bytes * 0) = x.len := by
    rw [Nat.mul_zero]
    exact BitVec.sub_zero _
  unfold dmaLastWords lastInTime lastWords
  cases turbo with
  | false =>
      cases first : r.rxs elements with
      | false =>
          exact ⟨m, rfl, enabled off, congrArg (x.len - BitVec.ofNat 32 ·) (Nat.mul_one _).symm,
            rfl, rfl⟩
      | true => exact ⟨_, rfl, enabled off.next, none.symm, rfl, rfl⟩
  | true =>
      cases first : r.rxs elements with
      | false =>
          exact ⟨m, rfl, enabled off, congrArg (x.len - BitVec.ofNat 32 ·) (Nat.mul_comm _ _),
            rfl, rfl⟩
      | true =>
          cases second : r.rxs (elements + 1) with
          | false =>
              exact ⟨_, rfl, enabled off.next,
                congrArg (x.len - BitVec.ofNat 32 ·) (Nat.mul_one _).symm, rfl, rfl⟩
          | true => exact ⟨_, rfl, enabled off.next.next, none.symm, rfl, rfl⟩

end moves

section results
variable {x : Transfer} {r : LineReplies} {c : Channel}

theorem dmaStarted_carries (selected : Selected c) : Carries c (dmaStarted x c) [] [] := by
  have on : ∀ {c : Channel} (isRead : Bool) (p : Prop) [Decidable p], Selected c →
      Carries c (if p then setDmaReq c isRead true else c) [] [] := by
    intro c isRead p _ selected
    split
    · exact carries_setDmaReq selected isRead true
    · exact .refl selected
  have first := on false (x.txBuf.isSome = true) selected
  exact first.trans (on true (x.rxBuf.isSome = true) first.selected)

theorem dmaTransmitted_carries (selected : Selected c) (fits : ModeFits x c) (k : DataType)
    (n : Nat) : Carries c (dmaTransmitted x c k n) (wordsToSend x k 0 n) [] := by
  unfold dmaTransmitted
  cases sends : x.txBuf with
  | none =>
      rw [wordsToSend, sends]
      exact .refl selected
  | some tx =>
      have sent := dmaSend_carries (k := k) (n := n) selected sends fits
      have both := sent.trans (carries_setDmaReq sent.selected false false)
      rwa [List.append_nil, List.append_nil] at both

/-- The elements of the receive channel. -/
def dmaElements (x : Transfer) (c : Channel) : Nat :=
  x.words (dataType c.wordLen) - lastWords (isOn c.chconf0 chconfTurbo)

/-- The words that come in time: all that the channel moves, and the last ones. -/
def dmaInTime (x : Transfer) (r : LineReplies) (c : Channel) : Nat :=
  dmaElements x c + lastInTime r (isOn c.chconf0 chconfTurbo) (dmaElements x c)

theorem txrxDma_eq {rx : Memory} (receives : x.rxBuf = some rx) :
    txrxDma x r c =
      let sent := dmaTransmitted x (dmaStarted x c) (dataType c.wordLen)
        (x.words (dataType c.wordLen))
      let moved := dmaReceive r sent (dataType c.wordLen) rx (dmaElements x c)
      dmaLastWords x r (setDmaReq moved.1 true false) (dataType c.wordLen)
        (isOn c.chconf0 chconfTurbo) (dmaElements x c) moved.2
        (if x.txBuf.isSome then x.words (dataType c.wordLen) else 0) := by
  have elements : (if isOn c.chconf0 chconfTurbo = true then
      x.len.toNat / (dataType c.wordLen).bytes - 1 - 1
      else x.len.toNat / (dataType c.wordLen).bytes - 1) = dmaElements x c := by
    unfold dmaElements lastWords Transfer.words
    split
    · exact Nat.sub_sub _ 1 1
    · rfl
  unfold txrxDma
  dsimp only
  rw [elements]
  simp only [receives]
  rfl

/-- Whatever the line answers for the last words: the words that have come are stored in their
order, nothing else is written, and the count leaves out those of the last words that are missing.
-/
theorem dma_receives (selected : Selected c) (fits : ModeFits x c)
    (receives : x.rxBuf.isSome = true) :
    (txrxDma x r c).count = x.len - BitVec.ofNat 32 ((dataType c.wordLen).bytes *
      (lastWords (isOn c.chconf0 chconfTurbo) -
        lastInTime r (isOn c.chconf0 chconfTurbo) (dmaElements x c))) ∧
    (txrxDma x r c).sent = (if x.txBuf.isSome then x.words (dataType c.wordLen) else 0) ∧
    (txrxDma x r c).received = dmaInTime x r c ∧
    (txrxDma x r c).rxBuf = x.rxBuf.map (fun rx =>
      storeAll (dataType c.wordLen).bytes rx 0 (wordsReceived r 0 (dmaInTime x r c))) ∧
    Carries c (txrxDma x r c).channel
      (wordsToSend x (dataType c.wordLen) 0 (x.words (dataType c.wordLen)))
      (wordsReceived r 0 (dmaInTime x r c)) := by
  obtain ⟨rx, isRx⟩ := Option.isSome_iff_exists.mp receives
  have started := dmaStarted_carries (x := x) selected
  have transmitted := dmaTransmitted_carries started.selected (fits.of_carries started)
    (dataType c.wordLen) (x.words (dataType c.wordLen))
  have moved : HasReceived r _ (dataType c.wordLen) rx [] (dmaElements x c) _ :=
    dmaReceive_hasReceived transmitted.selected
  obtain ⟨m, rxBuf, last, count, sent, received⟩ := dmaLastWords_spec (x := x)
    (isOn c.chconf0 chconfTurbo)
    (if x.txBuf.isSome then x.words (dataType c.wordLen) else 0)
    (moved.on (carries_setDmaReq moved.carries.selected true false))
  rw [txrxDma_eq isRx]
  refine ⟨count, sent, received, ?_, ?_⟩
  · dsimp only
    rw [rxBuf, isRx]
    exact congrArg some last.memory
  · have all := (started.trans transmitted).trans last.carries
    rwa [List.nil_append, List.append_nil, List.append_nil, List.nil_append] at all

/-- A transfer that receives nothing. -/
theorem dma_sends (selected : Selected c) (fits : ModeFits x c) (none : x.rxBuf = none) :
    (txrxDma x r c).count = x.len ∧
    (txrxDma x r c).sent = (if x.txBuf.isSome then x.words (dataType c.wordLen) else 0) ∧
    (txrxDma x r c).received = 0 ∧ (txrxDma x r c).rxBuf = Option.none ∧
    Carries c (txrxDma x r c).channel
      (wordsToSend x (dataType c.wordLen) 0 (x.words (dataType c.wordLen))) [] := by
  have started := dmaStarted_carries (x := x) selected
  have transmitted := dmaTransmitted_carries started.selected (fits.of_carries started)
    (dataType c.wordLen) (x.words (dataType c.wordLen))
  unfold txrxDma
  simp only [none]
  exact ⟨trivial, rfl, trivial, trivial, started.trans transmitted⟩

/-- The words that are missing. -/
theorem words_sub_dmaInTime
    (enough : lastWords (isOn c.chconf0 chconfTurbo) ≤ x.words (dataType c.wordLen)) :
    x.words (dataType c.wordLen) - dmaInTime x r c = lastWords (isOn c.chconf0 chconfTurbo) -
      lastInTime r (isOn c.chconf0 chconfTurbo) (dmaElements x c) := by
  unfold dmaInTime dmaElements
  omega

theorem dmaInTime_le
    (enough : lastWords (isOn c.chconf0 chconfTurbo) ≤ x.words (dataType c.wordLen)) :
    dmaInTime x r c ≤ x.words (dataType c.wordLen) := by
  have last := lastInTime_le r (isOn c.chconf0 chconfTurbo) (dmaElements x c)
  unfold dmaInTime dmaElements at *
  omega

/-- The count of a reception leaves out exactly the words that are missing: it is reported as
complete if and only if all have come. -/
theorem dma_count_truthful (selected : Selected c) (fits : ModeFits x c)
    (receives : x.rxBuf.isSome = true)
    (enough : lastWords (isOn c.chconf0 chconfTurbo) ≤ x.words (dataType c.wordLen)) :
    (txrxDma x r c).count = x.len - BitVec.ofNat 32 ((dataType c.wordLen).bytes *
      (x.words (dataType c.wordLen) - (txrxDma x r c).received)) ∧
    ((txrxDma x r c).count = x.len ↔ (txrxDma x r c).received = x.words (dataType c.wordLen)) := by
  obtain ⟨count, -, received, -, -⟩ := dma_receives (r := r) selected fits receives
  have missing := words_sub_dmaInTime (r := r) enough
  have few : lastWords (isOn c.chconf0 chconfTurbo) ≤ 2 := by
    unfold lastWords
    split <;> decide
  have positive := (dataType c.wordLen).bytes_pos
  have small := (dataType c.wordLen).bytes_le
  have within := dmaInTime_le (r := r) enough
  rw [← missing] at count
  rw [count, received]
  refine ⟨rfl, ?_⟩
  have bytes : (dataType c.wordLen).bytes * (x.words (dataType c.wordLen) - dmaInTime x r c) ≤
      4 * 2 := Nat.mul_le_mul small (by omega)
  rw [sub_eq_self, ← BitVec.toNat_inj, BitVec.toNat_ofNat, Nat.mod_eq_of_lt (by omega)]
  change _ * _ = 0 ↔ _
  rw [Nat.mul_eq_zero]
  omega

/-- The last of three words does not come. -/
theorem dma_count_truthful_lastLate :
    (txrxDma threeWords ⟨fun _ => true, fun i => i < 2, fun _ => 7⟩ (.begun 16 chconfForce)).count ≠
      6 :=
  fun full => absurd ((dma_count_truthful (x := threeWords)
    (r := ⟨fun _ => true, fun i => i < 2, fun _ => 7⟩) (c := .begun 16 chconfForce) ⟨rfl, rfl, rfl⟩
    (fun _ => by decide) rfl (by decide)).2.mp full) (by decide)

theorem dmaInTime_eq (receives : x.rxBuf.isSome = true)
    (enough : lastWords (isOn c.chconf0 chconfTurbo) ≤ x.words (dataType c.wordLen))
    (inTime : ∀ i < x.words (dataType c.wordLen), WordPasses x r i) :
    dmaInTime x r c = x.words (dataType c.wordLen) := by
  have arrives : ∀ i < x.words (dataType c.wordLen), r.rxs i = true := fun i hi =>
    (inTime i hi).2 receives
  unfold dmaInTime lastInTime
  cases turbo : isOn c.chconf0 chconfTurbo with
  | false =>
      have elements : dmaElements x c = x.words (dataType c.wordLen) - 1 := by
        rw [dmaElements, turbo]
        rfl
      rw [turbo] at enough
      change 1 ≤ _ at enough
      rw [if_pos (arrives _ (by omega)), if_neg (by simp)]
      omega
  | true =>
      have elements : dmaElements x c = x.words (dataType c.wordLen) - 2 := by
        rw [dmaElements, turbo]
        rfl
      rw [turbo] at enough
      change 2 ≤ _ at enough
      rw [if_pos (arrives _ (by omega)), if_pos ⟨rfl, arrives _ (by omega)⟩]
      omega

/-- With every word in time, a transfer by DMA and one by the processor leave the same buffer and
the same words on the line. They count the same exactly if the length is one of whole words. -/
theorem dma_agrees_with_pio (selected : Selected c) (fits : ModeFits x c) (bits : c.wordLen ≤ 32)
    (whole : (dataType c.wordLen).bytes ≤ x.len.toNat)
    (enough : x.rxBuf.isSome = true →
      lastWords (isOn c.chconf0 chconfTurbo) ≤ x.words (dataType c.wordLen))
    (inTime : ∀ i < x.words (dataType c.wordLen), WordPasses x r i) :
    (txrxDma x r c).rxBuf = (txrxPio x r c).rxBuf ∧
    (txrxDma x r c).channel.registers.pulse.map Pulse.view =
      (txrxPio x r c).channel.registers.pulse.map Pulse.view ∧
    ((txrxDma x r c).count = (txrxPio x r c).count ↔
      (dataType c.wordLen).bytes ∣ x.len.toNat) := by
  obtain ⟨count, -, -, rxBuf, line⟩ := pio_exchanges selected fits bits whole inTime
  have counts : (txrxDma x r c).count = x.len → ((txrxDma x r c).count = (txrxPio x r c).count ↔
      (dataType c.wordLen).bytes ∣ x.len.toNat) := by
    intro full
    rw [full, ← BitVec.toNat_inj, count, Transfer.words, Nat.dvd_iff_mod_eq_zero]
    have parts := Nat.div_add_mod x.len.toNat (dataType c.wordLen).bytes
    omega
  cases isRx : x.rxBuf with
  | none =>
      obtain ⟨full, -, -, rxBuf', line'⟩ := dma_sends (r := r) selected fits isRx
      rw [isRx] at rxBuf line
      exact ⟨rxBuf'.trans rxBuf.symm, line'.pulse.trans line.pulse.symm, counts full⟩
  | some rx =>
      have receives : x.rxBuf.isSome = true := by rw [isRx]; rfl
      obtain ⟨full, -, -, rxBuf', line'⟩ := dma_receives (r := r) selected fits receives
      rw [← words_sub_dmaInTime (enough receives)] at full
      rw [dmaInTime_eq receives (enough receives) inTime] at full rxBuf' line'
      rw [if_pos receives] at line
      refine ⟨rxBuf'.trans rxBuf.symm, line'.pulse.trans line.pulse.symm, counts (full.trans ?_)⟩
      rw [Nat.sub_self, Nat.mul_zero]
      exact BitVec.sub_zero _

/-- Seven bytes of 16-bit words: the DMA reports them all, the loop only the six of whole words. -/
theorem dma_agrees_with_pio_sevenBytes :
    (txrxDma { threeWords with len := 7 } (.prompt fun _ => 7) (.begun 16 chconfForce)).count ≠
      (txrxPio { threeWords with len := 7 } (.prompt fun _ => 7) (.begun 16 chconfForce)).count :=
  fun same => absurd ((dma_agrees_with_pio (x := { threeWords with len := 7 })
    (r := .prompt fun _ => 7) (c := .begun 16 chconfForce) ⟨rfl, rfl, rfl⟩ (fun _ => by decide)
    (by decide) (by decide) (by decide) fun i _ => wordPasses_prompt _ _ i).2.2.mp same) (by decide)

end results

end Gumstix.Mcspi
