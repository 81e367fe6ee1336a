import Gumstix.Library.EventMachine
import Gumstix.Mcspi.Configuration
import Gumstix.Mcspi.LongTransfers

/-!
# Steps of a long transfer

While `omap2_mcspi_txrx_dma` sets the requests and waits, the DMA channels move words and their
callbacks interrupt the driver. A request is a load and a store of `chconf0`, and a callback can
come between the two; a callback itself runs to its end.
-/
namespace Gumstix.Mcspi
open Gumstix.Synchronization (Word)
open WordMemory (Memory load storeAll)

/-- Before which access of `chconf0` or which wait the driver is; `l` is the configuration that it
has loaded and changed in its registers. -/
inductive DmaPlace where
  | txLoad
  | txStore (l : Word)
  | rxLoad
  | rxStore (l : Word)
  | waitTx
  | waitRx
  | done
  deriving DecidableEq

/-- `sent` and `received` count what the DMA channels have moved. -/
structure DmaState where
  channel : Channel
  rxBuf : Memory
  place : DmaPlace
  sent : Nat
  received : Nat
  txDone : Bool
  rxDone : Bool

inductive DmaEvent where
  | driver
  | send
  | receive
  | txCallback
  | rxCallback
  deriving DecidableEq

/-- The driver goes on, unless it waits for a callback. -/
def DmaState.driverGoes (s : DmaState) : Bool :=
  match s.place with
  | .waitTx => s.txDone
  | .waitRx => s.rxDone
  | .done => false
  | _ => true

/-- The receive channel is started after the first request. -/
def DmaPlace.rxStarted : DmaPlace → Bool
  | .txLoad | .txStore _ => false
  | _ => true

section machine
variable (x : Transfer) (r : LineReplies) (c : Channel)

/-- The elements of the transmit channel. -/
def dmaElementCount : Nat := x.words (dataType c.wordLen)

def dmaStart : DmaState :=
  ⟨c, x.rxBuf.getD 0, if x.txBuf.isSome then .txLoad else .rxLoad, 0, 0, false, false⟩

def dmaEnabled (s : DmaState) : DmaEvent → Prop
  | .driver => s.driverGoes = true
  | .send =>
      x.txBuf.isSome = true ∧ s.sent < dmaElementCount x c ∧
        isOn s.channel.registers.chconf chconfDmaw = true
  | .receive =>
      x.rxBuf.isSome = true ∧ s.place.rxStarted = true ∧ s.received < dmaElements x c ∧
        isOn s.channel.registers.chconf chconfDmar = true
  | .txCallback => x.txBuf.isSome = true ∧ s.sent = dmaElementCount x c ∧ s.txDone = false
  | .rxCallback =>
      x.rxBuf.isSome = true ∧ s.place.rxStarted = true ∧ s.received = dmaElements x c ∧
        s.rxDone = false

def driverNext (s : DmaState) : DmaState :=
  match s.place with
  | .txLoad => { s with place := .txStore (modRegBit s.channel.chconf0 chconfDmaw true) }
  | .txStore l =>
      { s with
        channel := writeChconf0 s.channel l
        place := if x.rxBuf.isSome then .rxLoad else .waitTx }
  | .rxLoad => { s with place := .rxStore (modRegBit s.channel.chconf0 chconfDmar true) }
  | .rxStore l =>
      { s with
        channel := writeChconf0 s.channel l
        place := if x.txBuf.isSome then .waitTx else .waitRx }
  | .waitTx => { s with place := if x.rxBuf.isSome then .waitRx else .done }
  | .waitRx => { s with place := .done }
  | .done => s

/-- Where the driver stores, the store to the shadow and the write to the register are one step. -/
def dmaNext (s : DmaState) : DmaEvent → DmaState
  | .driver => driverNext x s
  | .send =>
      match x.txBuf with
      | none => s
      | some tx =>
          { s with
            channel := writeTx s.channel (load 32 (dataType c.wordLen).bytes tx s.sent)
            sent := s.sent + 1 }
  | .receive =>
      let moved := receiveWord r (dataType c.wordLen) (s.channel, s.rxBuf) s.received
      { s with channel := moved.1, rxBuf := moved.2, received := s.received + 1 }
  | .txCallback => { s with channel := setDmaReq s.channel false false, txDone := true }
  | .rxCallback => { s with channel := setDmaReq s.channel true false, rxDone := true }

instance : (s : DmaState) → (e : DmaEvent) → Decidable (dmaEnabled x c s e)
  | _, .driver => inferInstanceAs (Decidable (_ = _))
  | _, .send | _, .receive | _, .txCallback | _, .rxCallback =>
      inferInstanceAs (Decidable (_ ∧ _))

def dmaMachine : EventMachine DmaState DmaEvent := ⟨dmaEnabled x c, dmaNext x r c⟩

instance (s : DmaState) (e : DmaEvent) : Decidable ((dmaMachine x r c).enabled s e) :=
  inferInstanceAs (Decidable (dmaEnabled x c s e))

/-- The rest of the transfer, after the waits. -/
def dmaFinish (s : DmaState) : TransferResult :=
  match x.rxBuf with
  | none => ⟨s.channel, none, x.len, s.sent, 0⟩
  | some _ =>
      dmaLastWords x r s.channel (dataType c.wordLen) (isOn c.chconf0 chconfTurbo)
        (dmaElements x c) s.rxBuf s.sent

end machine

/-- Whatever the order: what has been sent and received so far are the first words. -/
structure DmaMoved (x : Transfer) (r : LineReplies) (c : Channel) (s : DmaState) : Prop where
  moved : HasReceived r c (dataType c.wordLen) (x.rxBuf.getD 0)
    (wordsToSend x (dataType c.wordLen) 0 s.sent) s.received (s.channel, s.rxBuf)
  sent_le : s.sent ≤ if x.txBuf.isSome then dmaElementCount x c else 0
  received_le : s.received ≤ if x.rxBuf.isSome then dmaElements x c else 0
  loaded : ∀ l, s.place = .txStore l ∨ s.place = .rxStore l →
    l &&& ~~~dmaMask = c.chconf0 &&& ~~~dmaMask
  txDone : s.txDone = true → s.sent = dmaElementCount x c
  rxDone : s.rxDone = true → s.received = dmaElements x c

section moved
variable {x : Transfer} {r : LineReplies} {c : Channel} {s : DmaState} {e : DmaEvent}

theorem dmaMoved_start (selected : Selected c) : DmaMoved x r c (dmaStart x c) where
  moved := by
    have none := wordsToSend_zero x (dataType c.wordLen) 0
    refine ⟨?_, rfl⟩
    change Carries c c (wordsToSend x (dataType c.wordLen) 0 0) []
    rw [none]
    exact .refl selected
  sent_le := Nat.zero_le _
  received_le := Nat.zero_le _
  loaded l place := by
    change (if x.txBuf.isSome = true then DmaPlace.txLoad else .rxLoad) = .txStore l ∨
      (if x.txBuf.isSome = true then DmaPlace.txLoad else .rxLoad) = .rxStore l at place
    split at place <;> simp at place
  txDone := nofun
  rxDone := nofun

/-- A step that moves nothing. -/
theorem DmaMoved.stays {s' : DmaState} (h : DmaMoved x r c s) (rxBuf : s'.rxBuf = s.rxBuf)
    (sent : s'.sent = s.sent) (received : s'.received = s.received)
    (carries : Carries s.channel s'.channel [] [])
    (loaded : ∀ l, s'.place = .txStore l ∨ s'.place = .rxStore l →
      l &&& ~~~dmaMask = c.chconf0 &&& ~~~dmaMask)
    (txDone : s'.txDone = true → s.sent = dmaElementCount x c)
    (rxDone : s'.rxDone = true → s.received = dmaElements x c) : DmaMoved x r c s' where
  moved := by
    rw [rxBuf, sent, received]
    exact h.moved.on carries
  sent_le := by
    rw [sent]
    exact h.sent_le
  received_le := by
    rw [received]
    exact h.received_le
  loaded := loaded
  txDone done := by
    rw [sent]
    exact txDone done
  rxDone done := by
    rw [received]
    exact rxDone done

theorem DmaMoved.selected (h : DmaMoved x r c s) : Selected s.channel := h.moved.carries.selected

theorem DmaMoved.bits (h : DmaMoved x r c s) :
    s.channel.chconf0 &&& ~~~dmaMask = c.chconf0 &&& ~~~dmaMask := h.moved.carries.bits

theorem loaded_modRegBit (h : DmaMoved x r c s) {mask : Word} (within : mask &&& ~~~dmaMask = 0) :
    modRegBit s.channel.chconf0 mask true &&& ~~~dmaMask = c.chconf0 &&& ~~~dmaMask :=
  (modRegBit_and within _ _).trans h.bits

theorem DmaMoved.store (h : DmaMoved x r c s) {l : Word}
    (place : s.place = .txStore l ∨ s.place = .rxStore l) :
    Carries s.channel (writeChconf0 s.channel l) [] [] :=
  carries_writeChconf0 h.selected ((h.loaded l place).trans h.bits.symm)

theorem dmaMoved_driver (h : DmaMoved x r c s) : DmaMoved x r c (driverNext x s) := by
  unfold driverNext
  cases place : s.place with
  | txLoad =>
      refine h.stays rfl rfl rfl (.refl h.selected) ?_ h.txDone h.rxDone
      rintro l (same | same)
      · obtain rfl := DmaPlace.txStore.inj same
        exact loaded_modRegBit h (by decide)
      · cases same
  | txStore l =>
      refine h.stays rfl rfl rfl (h.store (.inl place)) ?_ h.txDone h.rxDone
      dsimp only
      split <;> rintro l (same | same) <;> cases same
  | rxLoad =>
      refine h.stays rfl rfl rfl (.refl h.selected) ?_ h.txDone h.rxDone
      rintro l (same | same)
      · cases same
      · obtain rfl := DmaPlace.rxStore.inj same
        exact loaded_modRegBit h (by decide)
  | rxStore l =>
      refine h.stays rfl rfl rfl (h.store (.inr place)) ?_ h.txDone h.rxDone
      dsimp only
      split <;> rintro l (same | same) <;> cases same
  | waitTx =>
      refine h.stays rfl rfl rfl (.refl h.selected) ?_ h.txDone h.rxDone
      dsimp only
      split <;> rintro l (same | same) <;> cases same
  | waitRx =>
      refine h.stays rfl rfl rfl (.refl h.selected) ?_ h.txDone h.rxDone
      rintro l (same | same) <;> cases same
  | done => exact h

theorem wordsToSend_succ {tx : Memory} (sends : x.txBuf = some tx) (k : DataType) (n : Nat) :
    wordsToSend x k 0 (n + 1) = wordsToSend x k 0 n ++ [load 32 k.bytes tx n] := by
  rw [← wordsToSend_add, Nat.zero_add]
  exact congrArg (wordsToSend x k 0 n ++ ·) (by rw [wordsToSend, sends]; rfl)

theorem dmaMoved_next (fits : ModeFits x c) (h : DmaMoved x r c s) (enabled : dmaEnabled x c s e) :
    DmaMoved x r c (dmaNext x r c s e) := by
  cases e with
  | driver => exact dmaMoved_driver h
  | send =>
      obtain ⟨sends, more, -⟩ := enabled
      obtain ⟨tx, isTx⟩ := Option.isSome_iff_exists.mp sends
      have mode := fits.of_carries h.moved.carries sends
      unfold dmaNext
      rw [isTx]
      refine ⟨⟨?_, h.moved.memory⟩, ?_, h.received_le, h.loaded, fun done => ?_, h.rxDone⟩
      · rw [wordsToSend_succ isTx, ← List.append_nil (wordsReceived r 0 s.received)]
        exact h.moved.carries.trans (carries_writeTx h.selected mode _)
      · rw [if_pos sends]
        exact more
      · exact absurd (h.txDone done) (Nat.ne_of_lt more)
  | receive =>
      obtain ⟨receives, -, more, -⟩ := enabled
      refine ⟨h.moved.next, h.sent_le, ?_, h.loaded, h.txDone, fun done => ?_⟩
      · rw [if_pos receives]
        exact more
      · exact absurd (h.rxDone done) (Nat.ne_of_lt more)
  | txCallback =>
      exact h.stays rfl rfl rfl (carries_setDmaReq h.selected _ _) h.loaded
        (fun _ => enabled.2.1) h.rxDone
  | rxCallback =>
      exact h.stays rfl rfl rfl (carries_setDmaReq h.selected _ _) h.loaded h.txDone
        fun _ => enabled.2.2.1

end moved

/-- The driver is past the requests. -/
def DmaPlace.waits : DmaPlace → Bool
  | .waitTx | .waitRx | .done => true
  | _ => false

/-- The buffer that a place is about. -/
def DmaPlace.uses (x : Transfer) : DmaPlace → Bool
  | .txLoad | .txStore _ | .waitTx => x.txBuf.isSome
  | .rxLoad | .rxStore _ | .waitRx => x.rxBuf.isSome
  | .done => true

/-- Whether the transmit channel is going to be requested once the driver has stored what it has
loaded. -/
def DmaState.sendRequest (s : DmaState) : Bool :=
  match s.place with
  | .txLoad | .txStore _ => true
  | .rxStore l => isOn l chconfDmaw
  | _ => isOn s.channel.chconf0 chconfDmaw

/-- The first request has been stored. -/
def DmaPlace.sends : DmaPlace → Bool
  | .txLoad | .txStore _ => false
  | _ => true

/-- The request of the receive channel is set from its store to its callback. That of the transmit
channel is set at least until its callback. -/
structure DmaRequests (x : Transfer) (s : DmaState) : Prop where
  uses : s.place.uses x = true
  read : isOn s.channel.chconf0 chconfDmar = (x.rxBuf.isSome && s.place.waits && !s.rxDone)
  early : s.place.waits = false → s.received = 0 ∧ s.rxDone = false
  txLoaded : ∀ l, s.place = .txStore l → isOn l chconfDmaw = true ∧ isOn l chconfDmar = false
  rxLoaded : ∀ l, s.place = .rxStore l → isOn l chconfDmar = true
  write : x.txBuf.isSome = true → s.txDone = false → s.sendRequest = true ∧
    (s.place.sends = true → isOn s.channel.chconf0 chconfDmaw = true)
  txWaited : s.place = .waitRx ∨ s.place = .done → x.txBuf.isSome = true → s.txDone = true
  rxWaited : s.place = .done → x.rxBuf.isSome = true → s.rxDone = true

section requests
variable {x : Transfer} {r : LineReplies} {c : Channel} {s : DmaState} {e : DmaEvent} {l : Word}

theorem dmar_of_dmaw (on : Bool) :
    isOn (modRegBit l chconfDmaw on) chconfDmar = isOn l chconfDmar :=
  isOn_modRegBit_of_disjoint (by decide) on l

theorem dmaw_of_dmar (on : Bool) :
    isOn (modRegBit l chconfDmar on) chconfDmaw = isOn l chconfDmaw :=
  isOn_modRegBit_of_disjoint (by decide) on l

theorem dmaRequests_start (buffer : x.txBuf.isSome = true ∨ x.rxBuf.isSome = true)
    (off : isOn c.chconf0 chconfDmar = false) : DmaRequests x (dmaStart x c) := by
  unfold dmaStart
  by_cases sends : x.txBuf.isSome = true
  · rw [if_pos sends]
    exact ⟨sends, by simpa [DmaPlace.waits] using off, fun _ => ⟨rfl, rfl⟩, nofun, nofun,
      fun _ _ => ⟨rfl, nofun⟩, nofun, nofun⟩
  · rw [if_neg sends]
    exact ⟨buffer.resolve_left sends, by simpa [DmaPlace.waits] using off, fun _ => ⟨rfl, rfl⟩,
      nofun, nofun, fun some => absurd some sends, nofun, nofun⟩

theorem dmaRequests_driver (h : DmaRequests x s) (enabled : dmaEnabled x c s .driver) :
    DmaRequests x (driverNext x s) := by
  obtain ⟨channel, rxBuf, place, sent, received, txDone, rxDone⟩ := s
  obtain ⟨uses, read, early, txLoaded, rxLoaded, write, txWaited, rxWaited⟩ := h
  dsimp only at *
  cases place with
  | txLoad =>
      refine ⟨uses, read, early, ?_, nofun, fun _ _ => ⟨rfl, nofun⟩, nofun, nofun⟩
      intro l same
      obtain rfl := DmaPlace.txStore.inj same
      refine ⟨isOn_modRegBit (by decide) true _, (dmar_of_dmaw true).trans (read.trans ?_)⟩
      simp [DmaPlace.waits]
  | txStore l =>
      obtain ⟨on, off⟩ := txLoaded l rfl
      obtain ⟨none, open_⟩ := early rfl
      unfold driverNext
      by_cases receives : x.rxBuf.isSome = true
      · dsimp only
        rw [if_pos receives]
        have read' : isOn l chconfDmar = (x.rxBuf.isSome && false && !rxDone) := by simp [off]
        exact ⟨receives, read', early, nofun, nofun, fun _ _ => ⟨on, fun _ => on⟩, nofun, nofun⟩
      · dsimp only
        rw [if_neg receives]
        have read' : isOn l chconfDmar = (x.rxBuf.isSome && true && !rxDone) := by
          simp [off, receives]
        exact ⟨uses, read', nofun, nofun, nofun, fun _ _ => ⟨on, fun _ => on⟩, nofun, nofun⟩
  | rxLoad =>
      refine ⟨uses, read, early, nofun, ?_, fun sends running => ?_, nofun, nofun⟩
      · intro l same
        obtain rfl := DmaPlace.rxStore.inj same
        exact isOn_modRegBit (by decide) true _
      · have on := (write sends running).2 rfl
        exact ⟨(dmaw_of_dmar true).trans on, fun _ => on⟩
  | rxStore l =>
      have on := rxLoaded l rfl
      obtain ⟨none, open_⟩ := early rfl
      have read' : isOn l chconfDmar = (x.rxBuf.isSome && true && !rxDone) := by
        rw [on, open_, show x.rxBuf.isSome = true from uses]
        rfl
      unfold driverNext
      by_cases sends : x.txBuf.isSome = true
      · dsimp only
        rw [if_pos sends]
        refine ⟨sends, read', nofun, nofun, nofun, fun _ running => ?_, nofun, nofun⟩
        have on := (write sends running).1
        exact ⟨on, fun _ => on⟩
      · dsimp only
        rw [if_neg sends]
        exact ⟨uses, read', nofun, nofun, nofun, fun some => absurd some sends,
          fun _ some => absurd some sends, nofun⟩
  | waitTx =>
      have sent : txDone = true := enabled
      unfold driverNext
      by_cases receives : x.rxBuf.isSome = true
      · dsimp only
        rw [if_pos receives]
        exact ⟨receives, read, nofun, nofun, nofun, write, fun _ _ => sent, nofun⟩
      · dsimp only
        rw [if_neg receives]
        exact ⟨rfl, read, nofun, nofun, nofun, write, fun _ _ => sent,
          fun _ some => absurd some receives⟩
  | waitRx =>
      have received : rxDone = true := enabled
      exact ⟨rfl, read, nofun, nofun, nofun, write, fun _ => txWaited (.inl rfl),
        fun _ _ => received⟩
  | done => exact Bool.noConfusion enabled

theorem sendRequest_rxCallback (s : DmaState) :
    (dmaNext x r c s .rxCallback).sendRequest = s.sendRequest := by
  obtain ⟨channel, rxBuf, place, sent, received, txDone, rxDone⟩ := s
  cases place with
  | txLoad | txStore l | rxStore l => rfl
  | rxLoad | waitTx | waitRx | done => exact dmaw_of_dmar false

theorem dmaRequests_next (elements : x.rxBuf.isSome = true → 0 < dmaElements x c)
    (h : DmaRequests x s) (shadow : s.channel.registers.chconf = s.channel.chconf0)
    (enabled : dmaEnabled x c s e) : DmaRequests x (dmaNext x r c s e) := by
  cases e with
  | driver => exact dmaRequests_driver h enabled
  | send =>
      obtain ⟨tx, isTx⟩ := Option.isSome_iff_exists.mp enabled.1
      unfold dmaNext
      rw [isTx]
      exact ⟨h.uses, h.read, h.early, h.txLoaded, h.rxLoaded, h.write, h.txWaited, h.rxWaited⟩
  | receive =>
      have on := enabled.2.2.2
      rw [shadow, h.read, Bool.and_eq_true, Bool.and_eq_true] at on
      exact ⟨h.uses, h.read, fun off => absurd (on.1.2.symm.trans off) nofun, h.txLoaded,
        h.rxLoaded, h.write, h.txWaited, h.rxWaited⟩
  | txCallback =>
      exact ⟨h.uses, (dmar_of_dmaw false).trans h.read, h.early, h.txLoaded, h.rxLoaded,
        fun _ => nofun, fun _ _ => rfl, h.rxWaited⟩
  | rxCallback =>
      obtain ⟨receives, -, moved, -⟩ := enabled
      have waits : s.place.waits = true := by
        by_contra off
        have none := (h.early (Bool.not_eq_true _ ▸ off)).1
        exact absurd (none.symm.trans moved) (Nat.ne_of_lt (elements receives))
      have off : isOn (modRegBit s.channel.chconf0 chconfDmar false) chconfDmar = false :=
        isOn_modRegBit (by decide) false _
      refine ⟨h.uses, off.trans ?_, fun off => absurd (waits.symm.trans off) nofun, h.txLoaded,
        h.rxLoaded, fun sends running => ?_, h.txWaited, fun _ _ => rfl⟩
      · simp [dmaNext]
      · obtain ⟨request, on⟩ := h.write sends running
        exact ⟨(sendRequest_rxCallback s).trans request, fun past =>
          (dmaw_of_dmar false).trans (on past)⟩

/-- The driver has loaded the configuration and not yet stored it, or it has a transmission to
request. -/
def DmaPlace.overwrites : DmaPlace → Bool
  | .txLoad | .txStore _ | .rxStore _ => true
  | _ => false

theorem sendRequest_driver (h : DmaRequests x s) :
    (driverNext x s).sendRequest = s.sendRequest := by
  obtain ⟨channel, rxBuf, place, sent, received, txDone, rxDone⟩ := s
  unfold driverNext
  cases place with
  | txLoad | waitRx | done => rfl
  | txStore l =>
      have on := (h.txLoaded l rfl).1
      dsimp only
      split <;> exact on
  | rxLoad => exact dmaw_of_dmar true
  | rxStore l | waitTx =>
      dsimp only
      split <;> rfl

/-- Nothing but its own callback changes what becomes of the request. -/
theorem sendRequest_next (h : DmaRequests x s) (enabled : dmaEnabled x c s e)
    (other : e ≠ .txCallback) : (dmaNext x r c s e).sendRequest = s.sendRequest := by
  cases e with
  | driver => exact sendRequest_driver h
  | send =>
      obtain ⟨tx, isTx⟩ := Option.isSome_iff_exists.mp enabled.1
      unfold dmaNext
      rw [isTx]
      rfl
  | receive => rfl
  | txCallback => exact absurd rfl other
  | rxCallback => exact sendRequest_rxCallback s

/-- The callback clears the request unless the driver writes it again. -/
theorem sendRequest_txCallback (h : DmaRequests x s) (enabled : dmaEnabled x c s .txCallback) :
    (dmaNext x r c s .txCallback).sendRequest = s.place.overwrites := by
  obtain ⟨sends, -, running⟩ := enabled
  have on := (h.write sends running).1
  obtain ⟨channel, rxBuf, place, sent, received, txDone, rxDone⟩ := s
  cases place with
  | txLoad | txStore l => rfl
  | rxStore l => exact on
  | rxLoad | waitTx | waitRx | done => exact isOn_modRegBit (by decide) false _

end requests

end Gumstix.Mcspi
