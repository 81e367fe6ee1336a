import Gumstix.Mcspi.DmaSteps

/-!
# Interleavings of a long transfer

In whichever order the DMA channels, their callbacks and the driver go on, the driver comes to an
end and the transfer does what `txrxDma` says, where everything happens one after the other. What
the order decides is whether the request of the transmit channel is cleared.
-/
namespace Gumstix.Mcspi
open Gumstix.Synchronization (Word)
open WordMemory (Memory load storeAll)

/-- A transfer as it comes to `omap2_mcspi_txrx_dma`: with a buffer, with elements for the receive
channel if there is a reception, and on a channel that requests no reception. -/
structure DmaTransfer (x : Transfer) (c : Channel) : Prop where
  selected : Selected c
  fits : ModeFits x c
  buffer : x.txBuf.isSome = true ∨ x.rxBuf.isSome = true
  elements : x.rxBuf.isSome = true → 0 < dmaElements x c
  noRead : isOn c.chconf0 chconfDmar = false

/-- What every step keeps. -/
structure DmaInv (x : Transfer) (r : LineReplies) (c : Channel) (s : DmaState) : Prop where
  moved : DmaMoved x r c s
  requests : DmaRequests x s

section runs
variable {x : Transfer} {r : LineReplies} {c : Channel} {s : DmaState} {e : DmaEvent}
  {es : List DmaEvent}

theorem dmaInv_start (h : DmaTransfer x c) : DmaInv x r c (dmaStart x c) :=
  ⟨dmaMoved_start h.selected, dmaRequests_start h.buffer h.noRead⟩

theorem dmaInv_next (h : DmaTransfer x c) (inv : DmaInv x r c s) (enabled : dmaEnabled x c s e) :
    DmaInv x r c (dmaNext x r c s e) :=
  ⟨dmaMoved_next h.fits inv.moved enabled,
    dmaRequests_next h.elements inv.requests inv.moved.selected.shadow enabled⟩

theorem dmaInv_run (h : DmaTransfer x c)
    (admits : (dmaMachine x r c).Admits (dmaStart x c) es) :
    DmaInv x r c ((dmaMachine x r c).run (dmaStart x c) es) :=
  EventMachine.kept_by_run (I := DmaInv x r c) (fun _ _ inv => dmaInv_next h inv)
    (dmaInv_start h) admits

theorem dmaTransfer_threeWords : DmaTransfer threeWords (.begun 16 chconfForce) :=
  ⟨⟨rfl, rfl, rfl⟩, fun _ => by decide, .inl rfl, fun _ => by decide, rfl⟩

/-- The words are sent before the second request, and the callback comes before its store. -/
def lateRequest : List DmaEvent :=
  [.driver, .driver, .send, .send, .send, .driver, .txCallback, .driver, .driver, .receive,
    .receive, .rxCallback, .driver]

theorem admits_lateRequest :
    (dmaMachine threeWords (.prompt fun _ => 7) (.begun 16 chconfForce)).Admits
      (dmaStart threeWords (.begun 16 chconfForce)) lateRequest := by decide

/-- A transfer that has ended has moved all its words. -/
theorem DmaInv.sent_eq (inv : DmaInv x r c s) (done : s.place = .done) :
    s.sent = if x.txBuf.isSome then x.words (dataType c.wordLen) else 0 := by
  have most := inv.moved.sent_le
  split
  · rename_i sends
    exact inv.moved.txDone (inv.requests.txWaited (.inr done) sends)
  · rename_i none
    rw [if_neg none] at most
    exact Nat.le_zero.mp most

theorem DmaInv.received_eq (inv : DmaInv x r c s) (done : s.place = .done)
    (receives : x.rxBuf.isSome = true) : s.received = dmaElements x c :=
  inv.moved.rxDone (inv.requests.rxWaited done receives)

theorem wordsToSend_sent (x : Transfer) (k : DataType) (n : Nat) :
    wordsToSend x k 0 (if x.txBuf.isSome then n else 0) = wordsToSend x k 0 n := by
  unfold wordsToSend
  cases x.txBuf <;> rfl

/-- In whichever order the channels, the callbacks and the driver go on: the transfer returns what
it returns when they go one after the other, leaves the same receive buffer, and the same words
pass in the pulse. -/
theorem dma_interleavings_agree (h : DmaTransfer x c)
    (admits : (dmaMachine x r c).Admits (dmaStart x c) es)
    (done : ((dmaMachine x r c).run (dmaStart x c) es).place = .done) :
    let left := dmaFinish x r c ((dmaMachine x r c).run (dmaStart x c) es)
    let expected := txrxDma x r c
    left.count = expected.count ∧ left.rxBuf = expected.rxBuf ∧ left.sent = expected.sent ∧
      left.received = expected.received ∧
      left.channel.registers.pulse.map Pulse.view =
        expected.channel.registers.pulse.map Pulse.view ∧
      left.channel.registers.pulses = expected.channel.registers.pulses ∧
      left.channel.registers.strays = expected.channel.registers.strays := by
  have inv := dmaInv_run h admits
  generalize (dmaMachine x r c).run (dmaStart x c) es = s at done inv ⊢
  dsimp only
  have sent := inv.sent_eq done
  have moved := inv.moved.moved
  rw [sent, wordsToSend_sent] at moved
  cases isRx : x.rxBuf with
  | none =>
      have none : s.received = 0 := by
        have most := inv.moved.received_le
        rw [isRx] at most
        exact Nat.le_zero.mp most
      obtain ⟨count, sent', received, rxBuf, carries⟩ := dma_sends (r := r) h.selected h.fits isRx
      have line := moved.carries
      rw [none, show wordsReceived r 0 0 = [] from rfl] at line
      unfold dmaFinish
      simp only [isRx]
      exact ⟨count.symm, rxBuf.symm, sent.trans sent'.symm, received.symm,
        line.pulse.trans carries.pulse.symm, line.pulses.trans carries.pulses.symm,
        line.strays.trans carries.strays.symm⟩
  | some rx =>
      have receives : x.rxBuf.isSome = true := by
        rw [isRx]
        rfl
      rw [inv.received_eq done receives, isRx] at moved
      obtain ⟨m, rxBuf, last, count, sent', received⟩ := dmaLastWords_spec (x := x)
        (isOn c.chconf0 chconfTurbo) s.sent moved
      obtain ⟨count', sent'', received', rxBuf', carries⟩ :=
        dma_receives (r := r) h.selected h.fits receives
      unfold dmaFinish
      simp only [isRx]
      refine ⟨count.trans count'.symm, ?_, (sent'.trans sent).trans sent''.symm,
        received.trans received'.symm, last.carries.pulse.trans carries.pulse.symm,
        last.carries.pulses.trans carries.pulses.symm,
        last.carries.strays.trans carries.strays.symm⟩
      rw [rxBuf, rxBuf', isRx]
      exact congrArg some last.memory

/-- The request of the transmit channel is written again after its callback. -/
theorem dma_interleavings_agree_lateRequest :
    (dmaFinish threeWords (.prompt fun _ => 7) (.begun 16 chconfForce)
      ((dmaMachine threeWords (.prompt fun _ => 7) (.begun 16 chconfForce)).run
        (dmaStart threeWords (.begun 16 chconfForce)) lateRequest)).received = 3 :=
  (dma_interleavings_agree dmaTransfer_threeWords admits_lateRequest rfl).2.2.2.1.trans (by decide)

/-- The most steps that the driver has left. -/
def DmaPlace.left : DmaPlace → Nat
  | .txLoad => 6
  | .txStore _ => 5
  | .rxLoad => 4
  | .rxStore _ => 3
  | .waitTx => 2
  | .waitRx => 1
  | .done => 0

/-- The most steps that a transfer has left. -/
def dmaLeft (x : Transfer) (c : Channel) (s : DmaState) : Nat :=
  s.place.left + (dmaElementCount x c - s.sent) + (dmaElements x c - s.received) +
    (!s.txDone).toNat + (!s.rxDone).toNat

theorem left_driver (enabled : dmaEnabled x c s .driver) :
    (driverNext x s).place.left < s.place.left := by
  obtain ⟨channel, rxBuf, place, sent, received, txDone, rxDone⟩ := s
  unfold driverNext
  cases place with
  | txLoad | rxLoad | waitRx => exact Nat.lt_succ_self _
  | txStore l | rxStore l | waitTx =>
      dsimp only
      split <;> simp only [DmaPlace.left] <;> decide
  | done => exact Bool.noConfusion enabled

theorem driverNext_others (x : Transfer) (s : DmaState) :
    (driverNext x s).sent = s.sent ∧ (driverNext x s).received = s.received ∧
      (driverNext x s).txDone = s.txDone ∧ (driverNext x s).rxDone = s.rxDone := by
  unfold driverNext
  split <;> exact ⟨rfl, rfl, rfl, rfl⟩

theorem dmaLeft_next (enabled : dmaEnabled x c s e) :
    dmaLeft x c (dmaNext x r c s e) < dmaLeft x c s := by
  unfold dmaLeft
  cases e with
  | driver =>
      have less := left_driver enabled
      obtain ⟨sent, received, txDone, rxDone⟩ := driverNext_others x s
      change (driverNext x s).place.left + (_ - (driverNext x s).sent) +
        (_ - (driverNext x s).received) + (!(driverNext x s).txDone).toNat +
          (!(driverNext x s).rxDone).toNat < _
      rw [sent, received, txDone, rxDone]
      omega
  | send =>
      obtain ⟨sends, more, -⟩ := enabled
      obtain ⟨tx, isTx⟩ := Option.isSome_iff_exists.mp sends
      unfold dmaNext
      rw [isTx]
      dsimp only
      omega
  | receive =>
      have more := enabled.2.2.1
      dsimp only [dmaNext]
      omega
  | txCallback =>
      have running := enabled.2.2
      rw [running]
      change _ + _ + _ + 0 + _ < _ + _ + _ + 1 + _
      exact Nat.add_lt_add_right (Nat.lt_succ_self _) _
  | rxCallback =>
      have running := enabled.2.2.2
      rw [running]
      exact Nat.lt_succ_self _

/-- The driver never waits for a channel that is not requested. -/
theorem dma_goes_on (inv : DmaInv x r c s) (running : s.place ≠ .done) :
    ∃ e, dmaEnabled x c s e := by
  have shadow := inv.moved.selected.shadow
  have uses := inv.requests.uses
  cases place : s.place with
  | txLoad | txStore l | rxLoad | rxStore l =>
      refine ⟨.driver, ?_⟩
      rw [dmaEnabled, DmaState.driverGoes, place]
  | waitTx =>
      rw [place] at uses
      cases completed : s.txDone with
      | true =>
          refine ⟨.driver, ?_⟩
          rw [dmaEnabled, DmaState.driverGoes, place]
          exact completed
      | false =>
          have most := inv.moved.sent_le
          rw [if_pos (show x.txBuf.isSome = true from uses)] at most
          rcases Nat.lt_or_eq_of_le most with more | all
          · refine ⟨.send, uses, more, ?_⟩
            rw [shadow]
            exact (inv.requests.write uses completed).2 (by rw [place]; rfl)
          · exact ⟨.txCallback, uses, all, completed⟩
  | waitRx =>
      rw [place] at uses
      have started : s.place.rxStarted = true := by rw [place]; rfl
      cases completed : s.rxDone with
      | true =>
          refine ⟨.driver, ?_⟩
          rw [dmaEnabled, DmaState.driverGoes, place]
          exact completed
      | false =>
          have most := inv.moved.received_le
          rw [if_pos (show x.rxBuf.isSome = true from uses)] at most
          rcases Nat.lt_or_eq_of_le most with more | all
          · refine ⟨.receive, uses, started, more, ?_⟩
            rw [shadow, inv.requests.read, completed, place, show x.rxBuf.isSome = true from uses]
            rfl
          · exact ⟨.rxCallback, uses, started, all, completed⟩
  | done => exact absurd place running

/-- However a transfer has begun, it can go on until the driver is through with its waits, and it
does so in a bounded number of steps. -/
theorem dma_completes (h : DmaTransfer x c)
    (admits : (dmaMachine x r c).Admits (dmaStart x c) es) :
    es.length ≤ 8 + dmaElementCount x c + dmaElements x c ∧
      ∃ rest, (dmaMachine x r c).Admits (dmaStart x c) (es ++ rest) ∧
        ((dmaMachine x r c).run (dmaStart x c) (es ++ rest)).place = .done := by
  have keeps : ∀ s e, DmaInv x r c s → (dmaMachine x r c).enabled s e →
      DmaInv x r c ((dmaMachine x r c).next s e) := fun _ _ inv => dmaInv_next h inv
  have lower : ∀ s e, DmaInv x r c s → (dmaMachine x r c).enabled s e →
      dmaLeft x c ((dmaMachine x r c).next s e) < dmaLeft x c s := fun _ _ _ => dmaLeft_next
  constructor
  · have bound := EventMachine.length_le_of_measure keeps lower (dmaInv_start h) admits
    have start : dmaLeft x c (dmaStart x c) ≤ 8 + dmaElementCount x c + dmaElements x c := by
      unfold dmaLeft dmaStart
      dsimp only
      split <;> simp only [DmaPlace.left] <;> simp <;> omega
    omega
  · obtain ⟨rest, goes, ends⟩ := EventMachine.exists_completion keeps lower
      (D := fun s => s.place = .done) (fun _ => dma_goes_on) (dmaInv_run h admits)
    refine ⟨rest, (EventMachine.admits_append _ _ _ _).mpr ⟨admits, goes⟩, ?_⟩
    rw [EventMachine.run_append]
    exact ends

/-- After the first load. -/
theorem dma_completes_txStore : ∃ rest,
    ((dmaMachine threeWords (.prompt fun _ => 7) (.begun 16 chconfForce)).run
      (dmaStart threeWords (.begun 16 chconfForce)) ([.driver] ++ rest)).place = .done := by
  have admits : (dmaMachine threeWords (.prompt fun _ => 7) (.begun 16 chconfForce)).Admits
      (dmaStart threeWords (.begun 16 chconfForce)) [.driver] := by decide
  obtain ⟨rest, -, done⟩ := (dma_completes dmaTransfer_threeWords admits).2
  exact ⟨rest, done⟩

/-- The callback of the transmit channel clears its request and the driver sets it again. -/
def CallbackOverwritten (s : DmaState) (e : DmaEvent) : Prop :=
  e = .txCallback ∧ s.place.overwrites = true

instance (s : DmaState) (e : DmaEvent) : Decidable (CallbackOverwritten s e) :=
  inferInstanceAs (Decidable (_ ∧ _))

theorem txDone_next (x : Transfer) (r : LineReplies) (c : Channel) (s : DmaState)
    (other : e ≠ .txCallback) : (dmaNext x r c s e).txDone = s.txDone := by
  cases e with
  | driver => exact (driverNext_others x s).2.2.1
  | send =>
      dsimp only [dmaNext]
      split <;> rfl
  | receive => rfl
  | txCallback => exact absurd rfl other
  | rxCallback => rfl

/-- A callback that is not overwritten. -/
theorem cleared_next (inv : DmaInv x r c s) (enabled : dmaEnabled x c s e)
    (clears : ¬ CallbackOverwritten s e) (h : s.txDone = true → s.sendRequest = false)
    (done : (dmaNext x r c s e).txDone = true) : (dmaNext x r c s e).sendRequest = false := by
  by_cases callback : e = .txCallback
  · subst callback
    rw [sendRequest_txCallback inv.requests enabled]
    exact eq_false_of_ne_true fun overwrites => clears ⟨rfl, overwrites⟩
  · rw [sendRequest_next inv.requests enabled callback]
    rw [txDone_next x r c s callback] at done
    exact h done

/-- The request is set for good. -/
def RequestStays (s : DmaState) : Prop := s.txDone = true ∧ s.sendRequest = true

theorem requestStays_next (inv : DmaInv x r c s) (enabled : dmaEnabled x c s e)
    (h : RequestStays s) : RequestStays (dmaNext x r c s e) := by
  have other : e ≠ .txCallback := by
    rintro rfl
    exact Bool.noConfusion (h.1.symm.trans enabled.2.2)
  exact ⟨(txDone_next x r c s other).trans h.1,
    (sendRequest_next inv.requests enabled other).trans h.2⟩

theorem requestStays_of_overwritten (inv : DmaInv x r c s) (enabled : dmaEnabled x c s e)
    (overwritten : CallbackOverwritten s e) : RequestStays (dmaNext x r c s e) := by
  obtain ⟨rfl, overwrites⟩ := overwritten
  exact ⟨rfl, (sendRequest_txCallback inv.requests enabled).trans overwrites⟩

/-- The request of a transmission that has ended. -/
theorem sendRequest_iff (h : DmaTransfer x c) (sends : x.txBuf.isSome = true)
    (admits : (dmaMachine x r c).Admits (dmaStart x c) es)
    (done : ((dmaMachine x r c).run (dmaStart x c) es).place = .done) :
    ((dmaMachine x r c).run (dmaStart x c) es).sendRequest = false ↔
      (dmaMachine x r c).EveryStep (fun s e => ¬ CallbackOverwritten s e) (dmaStart x c) es := by
  have inv := dmaInv_run h admits
  have txDone := inv.requests.txWaited (.inr done) sends
  constructor
  · intro off
    refine EventMachine.everyStep_of_trap_of_kept (I := DmaInv x r c) (T := RequestStays)
      (Q := fun _ _ => True) (fun _ _ inv enabled _ => dmaInv_next h inv enabled)
      (fun _ _ inv enabled _ missed =>
        requestStays_of_overwritten inv enabled (not_not.mp missed))
      (fun _ _ inv stays enabled _ => requestStays_next inv enabled stays) (dmaInv_start h) admits
      (EventMachine.everyStep_forall (fun _ _ => trivial) _ _) fun stays => ?_
    exact Bool.noConfusion (off.symm.trans stays.2)
  · intro clears
    have kept := EventMachine.always_of_everyStep
      (I := fun s => DmaInv x r c s ∧ (s.txDone = true → s.sendRequest = false))
      (fun _ _ both enabled clears =>
        ⟨dmaInv_next h both.1 enabled, cleared_next both.1 enabled clears both.2⟩)
      ⟨dmaInv_start h, nofun⟩ admits clears
    exact kept.last.2 txDone

theorem chconf0_dmaFinish (x : Transfer) (r : LineReplies) (c : Channel) (s : DmaState) :
    (dmaFinish x r c s).channel.chconf0 = s.channel.chconf0 := by
  unfold dmaFinish
  cases x.rxBuf with
  | none => rfl
  | some rx =>
      dsimp only [dmaLastWords]
      split <;> split <;> first | rfl | (split <;> rfl)

/-- A word without both requests. -/
theorem without_requests {l l' : Word} (bits : l &&& ~~~dmaMask = l' &&& ~~~dmaMask)
    (noRead : isOn l chconfDmar = false) :
    l = l' &&& ~~~dmaMask ↔ isOn l chconfDmaw = false := by
  rw [← bits]
  constructor
  · intro same
    rw [isOn, same, BitVec.and_assoc, show ~~~dmaMask &&& chconfDmaw = 0 from by decide]
    simp
  · intro noWrite
    simp only [isOn, decide_eq_false_iff_not, not_not] at noRead noWrite
    have none : l &&& dmaMask = 0 := by
      rw [dmaMask, BitVec.and_or_distrib_left, noWrite, noRead]
      rfl
    calc l = l &&& (dmaMask ||| ~~~dmaMask) := by rw [BitVec.or_not_self, BitVec.and_allOnes]
      _ = (l &&& dmaMask) ||| (l &&& ~~~dmaMask) := BitVec.and_or_distrib_left
      _ = l &&& ~~~dmaMask := by
        rw [none]
        exact BitVec.zero_or

end runs

end Gumstix.Mcspi
