import Gumstix.Mcspi.State

/-!
# Transfers of the McSPI driver

A short transfer is made by the processor, one word in each turn of a loop; a long one by two DMA
channels, which leave the last words of a reception to the processor. The source has the loop three
times, for words of one, two and four bytes.
-/
namespace Gumstix.Mcspi
open Gumstix.Synchronization (Word)
open WordMemory (Memory load store)

/-- `OMAP_DMA_DATA_TYPE_S8`, `_S16` and `_S32`. -/
inductive DataType where
  | s8
  | s16
  | s32
  deriving DecidableEq, Repr

def DataType.bytes : DataType → Nat
  | .s8 => 1
  | .s16 => 2
  | .s32 => 4

def dataType (wordLen : Nat) : DataType :=
  if wordLen ≤ 8 then .s8 else if wordLen ≤ 16 then .s16 else .s32

theorem DataType.bytes_pos (k : DataType) : 0 < k.bytes := by
  cases k <;> decide

theorem DataType.bytes_le (k : DataType) : k.bytes ≤ 4 := by
  cases k <;> decide

/-- What the line answers during a transfer: whether the transmitter is ready for word `n` in time,
whether word `n` is received in time, and the word that is read as number `n`. -/
structure LineReplies where
  txs : Nat → Bool
  rxs : Nat → Bool
  rx : Nat → Word

/-- Every word in time. -/
def LineReplies.prompt (rx : Nat → Word) : LineReplies := ⟨fun _ => true, fun _ => true, rx⟩

/-- A transfer after its end: what the driver returns for it, and by how many words it has advanced
in the two buffers. -/
structure TransferResult where
  channel : Channel
  rxBuf : Option Memory
  count : Word
  sent : Nat
  received : Nat

/-- The variables of the loop; `sent` and `received` are the positions of `tx` and `rx`. -/
structure Pio where
  c : Word
  sent : Nat
  received : Nat
  rxBuf : Option Memory
  channel : Channel

section pio
variable (x : Transfer) (r : LineReplies) (l : Word) (k : DataType) (p : Pio)

/-- The first part of a turn, and whether it does not `goto out`. -/
def pioSend : Pio × Bool :=
  match x.txBuf with
  | none => (p, true)
  | some tx =>
      if r.txs p.sent then
        ({ p with channel := writeTx p.channel (load 32 k.bytes tx p.sent), sent := p.sent + 1 },
          true)
      else (p, false)

/-- `*rx++ = __raw_readl(rx_reg)` -/
def pioStore : Pio :=
  { p with
    channel := readRx p.channel (r.rx p.received)
    received := p.received + 1
    rxBuf := p.rxBuf.map fun rx => store k.bytes rx p.received (r.rx p.received) }

def pioDisable : Pio := { p with channel := setEnable p.channel false }

/-- The second part of a turn. -/
def pioReceive : Pio × Bool :=
  if p.rxBuf.isNone then (p, true)
  else if r.rxs p.received then
    if p.c.toNat = k.bytes ∧ x.txBuf.isNone ∧ isOn l chconfTurbo then
      let p := pioStore r k (pioDisable p)
      if r.rxs p.received then (pioStore r k { p with c := 0 }, true) else (p, false)
    else if p.c = 0 ∧ x.txBuf.isNone then (pioStore r k (pioDisable p), true)
    else (pioStore r k p, true)
  else (p, false)

def pioTurn : Pio × Bool :=
  let sent := pioSend x r k { p with c := p.c - BitVec.ofNat 32 k.bytes }
  if sent.2 then pioReceive x r l k sent.1 else sent

theorem pioSend_c : (pioSend x r k p).1.c = p.c := by
  unfold pioSend
  split
  · rfl
  · split <;> rfl

theorem pioReceive_c : (pioReceive x r l k p).1.c = p.c ∨ (pioReceive x r l k p).1.c = 0 := by
  unfold pioReceive
  dsimp only
  split_ifs
  · exact .inl rfl
  · exact .inr rfl
  · exact .inl rfl
  · exact .inl rfl
  · exact .inl rfl
  · exact .inl rfl

theorem pioTurn_c : (pioTurn x r l k p).1.c = p.c - BitVec.ofNat 32 k.bytes ∨
    (pioTurn x r l k p).1.c = 0 := by
  unfold pioTurn
  dsimp only
  split
  · rcases pioReceive_c x r l k (pioSend x r k { p with c := p.c - BitVec.ofNat 32 k.bytes }).1 with
      same | zero
    · exact .inl (same.trans (pioSend_c x r k _))
    · exact .inr zero
  · exact .inl (pioSend_c x r k _)

theorem toNat_bytes : (BitVec.ofNat 32 k.bytes).toNat = k.bytes := by
  cases k <;> rfl

/-- A first turn with less than a word left wraps around; from then on the rest goes down. -/
def pioMeasure (c : Word) : Nat := if c.toNat < k.bytes then 2 ^ 32 + c.toNat else c.toNat

theorem pioMeasure_lt {c : Word} (left : k.bytes ≤ (c - BitVec.ofNat 32 k.bytes).toNat) :
    pioMeasure k (c - BitVec.ofNat 32 k.bytes) < pioMeasure k c := by
  have small := k.bytes_le
  have positive := k.bytes_pos
  have bound := c.isLt
  rw [pioMeasure, if_neg (Nat.not_lt.mpr left), pioMeasure, BitVec.toNat_sub, toNat_bytes]
  split <;> omega

/-- `do … while (c >= k)`, and whether the loop has not been left by `goto out`. -/
def pioLoop (p : Pio) : Pio × Bool :=
  if (pioTurn x r l k p).2 ∧ k.bytes ≤ (pioTurn x r l k p).1.c.toNat then
    pioLoop (pioTurn x r l k p).1
  else pioTurn x r l k p
termination_by pioMeasure k p.c
decreasing_by
  rename_i h
  have positive := k.bytes_pos
  rcases pioTurn_c x r l k p with next | zero
  · rw [next] at h ⊢
    exact pioMeasure_lt k h.2
  · rw [zero] at h
    exact absurd h.2 (Nat.not_le.mpr positive)

end pio

section transfers
variable (x : Transfer) (r : LineReplies) (c : Channel)

/-- The end of `omap2_mcspi_txrx_pio`: a transmission is purged of what it has received, and the
label `out` enables the channel. -/
def pioOut (p : Pio) (completed : Bool) : TransferResult where
  channel :=
    setEnable (if completed ∧ x.rxBuf.isNone then setEnable p.channel false else p.channel) true
  rxBuf := p.rxBuf
  count := x.len - p.c
  sent := p.sent
  received := p.received

def pioStart : Pio := ⟨x.len, 0, 0, x.rxBuf, c⟩

/-- `omap2_mcspi_txrx_pio` -/
def txrxPio : TransferResult :=
  if x.len.toNat < c.wordLen / 8 then ⟨c, x.rxBuf, 0, 0, 0⟩
  else if 32 < c.wordLen then pioOut x (pioStart x c) true
  else
    let left := pioLoop x r c.chconf0 (dataType c.wordLen) (pioStart x c)
    pioOut x left.1 left.2

/-- A DMA channel that is set for `n` elements has moved `n` words of the data register when it
completes; its callback clears the request. -/
def dmaSend (k : DataType) (tx : Memory) (n : Nat) : Channel :=
  (List.range n).foldl (fun c i => writeTx c (load 32 k.bytes tx i)) c

/-- A word that is read and stored as number `i`. -/
def receiveWord (k : DataType) (state : Channel × Memory) (i : Nat) : Channel × Memory :=
  (readRx state.1 (r.rx i), store k.bytes state.2 i (r.rx i))

def dmaReceive (k : DataType) (rx : Memory) (n : Nat) : Channel × Memory :=
  (List.range n).foldl (receiveWord r k) (c, rx)

/-- The words that `omap2_mcspi_txrx_dma` reads itself after the channel has moved `elements`. -/
def dmaLastWords (k : DataType) (turbo : Bool) (elements : Nat) (rx : Memory) (sent : Nat) :
    TransferResult :=
  let len := x.len
  let c := setEnable c false
  if turbo then
    if r.rxs elements then
      let penultimate := receiveWord r k (c, rx) elements
      if r.rxs (elements + 1) then
        let last := receiveWord r k penultimate (elements + 1)
        ⟨setEnable last.1 true, some last.2, len, sent, elements + 2⟩
      else
        ⟨setEnable penultimate.1 true, some penultimate.2, len - BitVec.ofNat 32 k.bytes, sent,
          elements + 1⟩
    else ⟨setEnable c true, some rx, len - BitVec.ofNat 32 (2 * k.bytes), sent, elements⟩
  else if r.rxs elements then
    let last := receiveWord r k (c, rx) elements
    ⟨setEnable last.1 true, some last.2, len, sent, elements + 1⟩
  else ⟨setEnable c true, some rx, len - BitVec.ofNat 32 k.bytes, sent, elements⟩

/-- Both channels are started and their requests set. -/
def dmaStarted : Channel :=
  let c := if x.txBuf.isSome then setDmaReq c false true else c
  if x.rxBuf.isSome then setDmaReq c true true else c

/-- The transmit channel has completed. -/
def dmaTransmitted (k : DataType) (elementCount : Nat) : Channel :=
  match x.txBuf with
  | none => c
  | some tx => setDmaReq (dmaSend c k tx elementCount) false false

/-- `omap2_mcspi_txrx_dma`. The source keeps `elements` in an `int`: for a reception with fewer
words than the driver reads itself it is negative, goes to the DMA and indexes the buffer. Here it
stops at 0, and what is said about buffers leaves such receptions out. A channel that is set for no
elements is taken to complete at once. -/
def txrxDma : TransferResult :=
  let k := dataType c.wordLen
  let elementCount := x.len.toNat / k.bytes
  let turbo := isOn c.chconf0 chconfTurbo
  let elements := if turbo then elementCount - 1 - 1 else elementCount - 1
  let sent := if x.txBuf.isSome then elementCount else 0
  let c := dmaTransmitted x (dmaStarted x c) k elementCount
  match x.rxBuf with
  | none => ⟨c, none, x.len, sent, 0⟩
  | some rx =>
      let moved := dmaReceive r c k rx elements
      dmaLastWords x r (setDmaReq moved.1 true false) k turbo elements moved.2 sent

/-- The choice that `omap2_mcspi_work` makes. -/
def txrx (isDmaMapped : Bool) : TransferResult :=
  if isDmaMapped ∨ dmaMinBytes ≤ x.len then txrxDma x r c else txrxPio x r c

end transfers

end Gumstix.Mcspi
