import Gumstix.Mcspi.LongTransfers

/-!
# What passes in a transfer

Whichever way a transfer is made and whatever the line answers, the first words of its buffers pass,
and how many they are depends on the word length and on the turbo mode alone: not on what the
channel has done before.
-/
namespace Gumstix.Mcspi
open Gumstix.Synchronization (Word)
open WordMemory (Memory load store storeAll)

/-- The words that a result tells of have passed, and those received have been stored. -/
structure Passes (x : Transfer) (r : LineReplies) (c : Channel) (result : TransferResult) :
    Prop where
  rxBuf : result.rxBuf = x.rxBuf.map fun rx =>
    storeAll (dataType c.wordLen).bytes rx 0 (wordsReceived r 0 result.received)
  carries : Carries c result.channel (wordsToSend x (dataType c.wordLen) 0 result.sent)
    (wordsReceived r 0 result.received)

section passes
variable {x : Transfer} {r : LineReplies} {c : Channel}

theorem passes_nothing {result : TransferResult} (channel : Carries c result.channel [] [])
    (rxBuf : result.rxBuf = x.rxBuf)
    (sent : result.sent = 0) (received : result.received = 0) : Passes x r c result where
  rxBuf := by
    rw [rxBuf, received]
    exact Option.map_id.symm ▸ rfl
  carries := by
    rw [sent, received, wordsToSend_zero]
    exact channel

theorem txrxPio_passes (selected : Selected c) (fits : ModeFits x c) :
    Passes x r c (txrxPio x r c) := by
  unfold txrxPio
  split
  · exact passes_nothing (.refl selected) rfl rfl rfl
  split
  · exact passes_nothing (carries_pioOut (p := pioStart x c) true selected) rfl rfl rfl
  · obtain ⟨n, m, advances⟩ := pioLoop_advances (r := r) (l := c.chconf0)
      (k := dataType c.wordLen) (p := pioStart x c) selected fits
    have sent : (startedLoop x r c).1.sent = n := advances.sent.trans (Nat.zero_add n)
    have received : (startedLoop x r c).1.received = m := advances.received.trans (Nat.zero_add m)
    have both := advances.carries.trans (carries_pioOut (x := x) (startedLoop x r c).2
      advances.carries.selected)
    rw [List.append_nil, List.append_nil] at both
    have stored : (startedLoop x r c).1.rxBuf = x.rxBuf.map fun rx =>
      storeAll (dataType c.wordLen).bytes rx 0 (wordsReceived r 0 m) := advances.rxBuf
    rw [← sent, ← received] at both
    rw [← received] at stored
    exact ⟨stored, both⟩

theorem txrxDma_passes (selected : Selected c) (fits : ModeFits x c) :
    Passes x r c (txrxDma x r c) := by
  have words : wordsToSend x (dataType c.wordLen) 0 (x.words (dataType c.wordLen)) =
      wordsToSend x (dataType c.wordLen) 0
        (if x.txBuf.isSome then x.words (dataType c.wordLen) else 0) := by
    cases tx : x.txBuf with
    | none => rw [wordsToSend, wordsToSend, tx]
    | some m => rfl
  cases isRx : x.rxBuf with
  | none =>
      obtain ⟨-, sent, received, rxBuf, line⟩ := dma_sends (r := r) selected fits isRx
      rw [words, ← sent] at line
      exact ⟨by rw [rxBuf, isRx]; rfl, by rw [received]; exact line⟩
  | some rx =>
      obtain ⟨-, sent, received, rxBuf, line⟩ := dma_receives (r := r) selected fits
        (by rw [isRx]; rfl)
      rw [words, ← sent, ← received] at line
      exact ⟨by rw [received]; exact rxBuf, line⟩

theorem txrx_passes (selected : Selected c) (fits : ModeFits x c) (isDmaMapped : Bool) :
    Passes x r c (txrx x r c isDmaMapped) := by
  unfold txrx
  split
  · exact txrxDma_passes selected fits
  · exact txrxPio_passes selected fits

end passes

/-- Two places in a loop that differ in the channel alone. -/
structure Pio.Same (p p' : Pio) : Prop where
  c : p'.c = p.c
  sent : p'.sent = p.sent
  received : p'.received = p.received
  rxBuf : p'.rxBuf = p.rxBuf

section same
variable {x : Transfer} {r : LineReplies} {l l' : Word} {k : DataType} {p p' : Pio}

theorem pioSend_same (same : p.Same p') :
    (pioSend x r k p).1.Same (pioSend x r k p').1 ∧
      (pioSend x r k p').2 = (pioSend x r k p).2 := by
  unfold pioSend
  cases x.txBuf with
  | none => exact ⟨same, rfl⟩
  | some tx =>
      dsimp only
      rw [same.sent]
      split
      · exact ⟨⟨same.c, rfl, same.received, same.rxBuf⟩, rfl⟩
      · exact ⟨same, rfl⟩

theorem pioStore_same (same : p.Same p') : (pioStore r k p).Same (pioStore r k p') where
  c := same.c
  sent := same.sent
  received := congrArg (· + 1) same.received
  rxBuf := by
    rw [pioStore, pioStore, same.received, same.rxBuf]

theorem pioReceive_same (turbo : isOn l' chconfTurbo = isOn l chconfTurbo) (same : p.Same p') :
    (pioReceive x r l k p).1.Same (pioReceive x r l' k p').1 ∧
      (pioReceive x r l' k p').2 = (pioReceive x r l k p).2 := by
  have off : (pioDisable p).Same (pioDisable p') := ⟨same.c, same.sent, same.received, same.rxBuf⟩
  have stored := pioStore_same (r := r) (k := k) off
  unfold pioReceive
  dsimp only
  rw [same.rxBuf, same.received, same.c, turbo,
    stored.received]
  split_ifs
  · exact ⟨same, rfl⟩
  · exact ⟨pioStore_same ⟨rfl, stored.sent, rfl, stored.rxBuf⟩, rfl⟩
  · exact ⟨stored, rfl⟩
  · exact ⟨stored, rfl⟩
  · exact ⟨pioStore_same same, rfl⟩
  · exact ⟨same, rfl⟩

theorem pioTurn_same (turbo : isOn l' chconfTurbo = isOn l chconfTurbo) (same : p.Same p') :
    (pioTurn x r l k p).1.Same (pioTurn x r l' k p').1 ∧
      (pioTurn x r l' k p').2 = (pioTurn x r l k p).2 := by
  have less : Pio.Same { p with c := p.c - BitVec.ofNat 32 k.bytes }
      { p' with c := p'.c - BitVec.ofNat 32 k.bytes } :=
    ⟨congrArg (· - _) same.c, same.sent, same.received, same.rxBuf⟩
  obtain ⟨sent, goesOn⟩ := pioSend_same (x := x) (r := r) (k := k) less
  unfold pioTurn
  dsimp only
  rw [goesOn]
  split
  · exact pioReceive_same turbo sent
  · exact ⟨sent, goesOn⟩

theorem pioLoop_same (turbo : isOn l' chconfTurbo = isOn l chconfTurbo) (same : p.Same p') :
    (pioLoop x r l k p).1.Same (pioLoop x r l' k p').1 := by
  induction p using pioLoop.induct x r l k generalizing p' with
  | case1 p goesOn ih =>
      obtain ⟨turn, stays⟩ := pioTurn_same (x := x) (r := r) (k := k) turbo same
      rw [pioLoop, if_pos goesOn, pioLoop.eq_def x r l' k p',
        if_pos (by rw [stays, turn.c]; exact goesOn)]
      exact ih turn
  | case2 p stops =>
      obtain ⟨turn, stays⟩ := pioTurn_same (x := x) (r := r) (k := k) turbo same
      rw [pioLoop, if_neg stops, pioLoop.eq_def x r l' k p',
        if_neg (by rw [stays, turn.c]; exact stops)]
      exact turn

end same

/-- How much of a transfer has passed, and what is returned for it. -/
structure Passage where
  count : Word
  sent : Nat
  received : Nat
  deriving DecidableEq, Repr

def TransferResult.passage (result : TransferResult) : Passage :=
  ⟨result.count, result.sent, result.received⟩

section passage
variable {x : Transfer} {r : LineReplies} {c c' : Channel}

theorem passage_txrxPio (wordLen : c'.wordLen = c.wordLen)
    (turbo : isOn c'.chconf0 chconfTurbo = isOn c.chconf0 chconfTurbo) :
    (txrxPio x r c').passage = (txrxPio x r c).passage := by
  unfold txrxPio
  rw [wordLen]
  split
  · rfl
  split
  · rfl
  · have started : (pioStart x c).Same (pioStart x c') := ⟨rfl, rfl, rfl, rfl⟩
    have same := pioLoop_same (x := x) (r := r) (k := dataType c.wordLen) turbo started
    dsimp only [TransferResult.passage, pioOut]
    rw [same.c, same.sent, same.received]

theorem passage_txrxDma (selected : Selected c) (selected' : Selected c') (fits : ModeFits x c)
    (fits' : ModeFits x c') (wordLen : c'.wordLen = c.wordLen)
    (turbo : isOn c'.chconf0 chconfTurbo = isOn c.chconf0 chconfTurbo) :
    (txrxDma x r c').passage = (txrxDma x r c).passage := by
  have elements : dmaElements x c' = dmaElements x c := by
    rw [dmaElements, dmaElements, wordLen, turbo]
  cases isRx : x.rxBuf with
  | none =>
      obtain ⟨count, sent, received, -⟩ := dma_sends (r := r) selected fits isRx
      obtain ⟨count', sent', received', -⟩ := dma_sends (r := r) selected' fits' isRx
      rw [TransferResult.passage, TransferResult.passage, count, count', sent, sent', received,
        received', wordLen]
  | some rx =>
      have receives : x.rxBuf.isSome = true := by rw [isRx]; rfl
      obtain ⟨count, sent, received, -⟩ := dma_receives (r := r) selected fits receives
      obtain ⟨count', sent', received', -⟩ := dma_receives (r := r) selected' fits' receives
      rw [TransferResult.passage, TransferResult.passage, count, count', sent, sent', received,
        received', dmaInTime, dmaInTime, elements, wordLen, turbo]

/-- How much passes depends on the word length and the turbo mode of the channel alone. -/
theorem passage_txrx (selected : Selected c) (selected' : Selected c') (fits : ModeFits x c)
    (fits' : ModeFits x c') (wordLen : c'.wordLen = c.wordLen)
    (turbo : isOn c'.chconf0 chconfTurbo = isOn c.chconf0 chconfTurbo) (isDmaMapped : Bool) :
    (txrx x r c' isDmaMapped).passage = (txrx x r c isDmaMapped).passage := by
  unfold txrx
  split
  · exact passage_txrxDma selected selected' fits fits' wordLen turbo
  · exact passage_txrxPio wordLen turbo

end passage

end Gumstix.Mcspi
