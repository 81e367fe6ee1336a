import Gumstix.Mcspi.MessageRuns

/-!
# Deliveries

A message whose words all come in time is delivered as a whole: in as many pulses as it asks for,
with all its words in their order. When a transfer comes short instead, its settings decide
whether the sender is told.
-/
namespace Gumstix.Mcspi
open Gumstix.Synchronization (Word)
open WordMemory (Memory storeAll)

/-- A transfer of whole words, all in time. A reception in turbo mode by DMA has two words at
least. -/
structure Regular (d : SpiDevice) (isDmaMapped : Bool) (x : Transfer) (r : LineReplies) : Prop where
  whole : (elementOf d x).bytes ∣ x.len.toNat
  enough : isDmaMapped = true → TurboTail x (modeOf d x (wordLenOf d (some x)).toNat) →
    2 ≤ x.words (elementOf d x)
  inTime : ∀ i < x.words (elementOf d x), WordPasses x r i

/-- Everything that a transfer asks for. -/
def fullPassage (d : SpiDevice) (x : Transfer) : Passage :=
  ⟨x.len, if x.txBuf.isSome then x.words (elementOf d x) else 0,
    if x.rxBuf.isSome then x.words (elementOf d x) else 0⟩

/-- The pulses that a message asks for, from transfer `i` on. -/
def fullPulses (d : SpiDevice) (replies : Replies) :
    List Transfer → Nat → Option PulseView → List PulseView
  | [], _, current => current.toList
  | x :: transfers, i, current =>
      let pulse := (current.getD ([], [])).join (pulseOf d x (replies i) (fullPassage d x))
      if x.csChange then pulse :: fullPulses d replies transfers (i + 1) none
      else fullPulses d replies transfers (i + 1) (some pulse)

/-- The receive buffers that a message asks for. -/
def fullRxBufs (d : SpiDevice) (replies : Replies) : List Transfer → Nat → List (Option Memory)
  | [], _ => []
  | x :: transfers, i =>
      rxBufOf d x (replies i) (fullPassage d x) :: fullRxBufs d replies transfers (i + 1)

section regular
variable {d : SpiDevice} {isDmaMapped : Bool} {x : Transfer} {r : LineReplies}

/-- The turbo mode is for receptions. -/
theorem turboTail_of_isOn (receives : x.rxBuf.isSome = true) {wordLen : Nat}
    (turbo : isOn (modeOf d x wordLen) chconfTurbo = true) : TurboTail x (modeOf d x wordLen) := by
  refine ⟨?_, receives, turbo⟩
  by_contra some
  rw [modeOf, if_neg some, if_neg (c := _ ∧ _) fun both => some both.2.1] at turbo
  split at turbo <;> cases turbo

/-- By DMA, a regular transfer leaves the last words to the driver. -/
theorem lastWords_le_words (valid : ValidWordLen (wordLenOf d (some x)))
    (regular : Regular d isDmaMapped x r) (receives : x.rxBuf.isSome = true)
    (some : 1 ≤ x.words (elementOf d x)) (long : isDmaMapped = true ∨ dmaMinBytes ≤ x.len) :
    lastWords (isOn (prepared d x).chconf0 chconfTurbo) ≤ x.words (elementOf d x) := by
  rw [prepared_turbo valid]
  cases turbo : isOn (modeOf d x (wordLenOf d (.some x)).toNat) chconfTurbo with
  | false => exact some
  | true =>
      rcases long with mapped | long
      · exact regular.enough mapped (turboTail_of_isOn receives turbo)
      · have small := (elementOf d x).bytes_le
        refine (Nat.le_div_iff_mul_le (elementOf d x).bytes_pos).mpr ?_
        rw [BitVec.le_def] at long
        change 160 ≤ _ at long
        change 2 * _ ≤ _
        omega

/-- A regular transfer passes as a whole. -/
theorem passage_regular (valid : ValidWordLen (wordLenOf d (some x)))
    (regular : Regular d isDmaMapped x r) :
    passage d isDmaMapped x r = fullPassage d x := by
  by_cases empty : x.len = 0
  · have none : x.words (elementOf d x) = 0 := by
      rw [Transfer.words, empty]
      exact Nat.zero_div _
    rw [passage, if_pos empty, fullPassage, none, ite_self, ite_self, empty]
  have prepared := prepared_spec valid
  have positive : 0 < x.len.toNat := by
    refine Nat.pos_of_ne_zero fun zero => empty ?_
    exact BitVec.eq_of_toNat_eq zero
  have whole : (elementOf d x).bytes ≤ x.len.toNat := Nat.le_of_dvd positive regular.whole
  rw [passage, if_neg empty, txrx]
  split
  · rename_i long
    cases isRx : x.rxBuf with
    | none =>
        obtain ⟨count, sent, received, -⟩ := dma_sends (r := r) prepared.selected prepared.fits isRx
        rw [TransferResult.passage, count, sent, received, fullPassage, isRx]
        rfl
    | some rx =>
        have receives : x.rxBuf.isSome = true := by rw [isRx]; rfl
        obtain ⟨count, sent, received, -⟩ := dma_receives (r := r) prepared.selected prepared.fits
          receives
        have enough := lastWords_le_words valid regular receives (one_le_words whole) long
        have inTime : dmaInTime x r (Mcspi.prepared d x) = x.words (elementOf d x) :=
          dmaInTime_eq receives enough regular.inTime
        have missing := words_sub_dmaInTime (r := r) enough
        rw [show x.words (dataType (Mcspi.prepared d x).wordLen) = x.words (elementOf d x) from rfl,
          inTime, Nat.sub_self] at missing
        rw [TransferResult.passage, count, sent, received, inTime, ← missing, Nat.mul_zero,
          fullPassage, if_pos receives]
        exact congrArg (Passage.mk · _ _) (BitVec.sub_zero _)
  · obtain ⟨count, sent, received, -⟩ := pio_exchanges (r := r) prepared.selected prepared.fits
      (show (Mcspi.prepared d x).wordLen ≤ 32 from valid.2) whole regular.inTime
    have full : (txrxPio x r (Mcspi.prepared d x)).count = x.len :=
      BitVec.eq_of_toNat_eq (count.trans (Nat.mul_div_cancel' regular.whole))
    rw [TransferResult.passage, full, sent, received]
    rfl

end regular

section messages
variable {d : SpiDevice} {c : Channel} {isDmaMapped : Bool} {replies : Replies}

/-- Transfer number `i` and those after it are regular. -/
def AllRegular (d : SpiDevice) (isDmaMapped : Bool) (replies : Replies) (i : Nat)
    (transfers : List Transfer) : Prop :=
  ∀ j, (within : j < transfers.length) → Regular d isDmaMapped transfers[j] (replies (i + j))

theorem AllRegular.tail {x : Transfer} {transfers : List Transfer} {i : Nat}
    (h : AllRegular d isDmaMapped replies i (x :: transfers)) :
    AllRegular d isDmaMapped replies (i + 1) transfers := by
  intro j within
  rw [Nat.add_assoc, Nat.add_comm 1 j]
  exact h (j + 1) (Nat.succ_lt_succ within)

theorem meaning_regular {transfers : List Transfer} {i : Nat}
    (valid : ∀ x ∈ transfers, ValidTransfer d x)
    (regular : AllRegular d isDmaMapped replies i transfers) (current : Option PulseView) :
    meaning d isDmaMapped replies transfers i current =
      ⟨fullPulses d replies transfers i current, none, (transfers.map Transfer.len).sum,
        fullRxBufs d replies transfers i⟩ := by
  induction transfers generalizing i current with
  | nil => rfl
  | cons x transfers ih =>
      have first : passage d isDmaMapped x (replies i) = fullPassage d x :=
        passage_regular (valid x List.mem_cons_self).wordLen
          (regular 0 (Nat.zero_lt_succ _))
      have rest := fun current => ih (fun y hy => valid y (List.mem_cons_of_mem x hy))
        regular.tail current
      rw [meaning, first]
      dsimp only
      rw [rest, if_pos (show (fullPassage d x).count = x.len from rfl), fullPulses]
      split <;> rfl

/-- A pulse ends with each transfer that asks for it, and with the last one. -/
theorem length_fullPulses {transfers : List Transfer} (some : transfers ≠ []) (i : Nat)
    (current : Option PulseView) : (fullPulses d replies transfers i current).length =
      transfers.dropLast.countP Transfer.csChange + 1 := by
  induction transfers generalizing i current with
  | nil => exact absurd rfl some
  | cons x transfers ih =>
      cases transfers with
      | nil =>
          rw [fullPulses]
          split <;> rfl
      | cons y transfers =>
          have rest := ih (List.cons_ne_nil y transfers) (i + 1)
          rw [fullPulses, List.dropLast_cons_cons, List.countP_cons]
          split
          · rw [List.length_cons, rest]
          · rw [rest, Nat.add_zero]

theorem meaning_of_accepted (device : ValidWordLen (wordLenOf d none)) {q : Request}
    (accepted : q.accepted = true)
    (regular : AllRegular d q.message.isDmaMapped q.replies 0 q.message.transfers) :
    q.meaning d = ⟨fullPulses d q.replies q.message.transfers 0 none, none,
      (q.message.transfers.map Transfer.len).sum,
      fullRxBufs d q.replies q.message.transfers 0⟩ :=
  meaning_regular (validTransfer_of_accepted device accepted) regular none

/-- What the sender of a regular message gets to see. -/
theorem outcome_regular (device : ValidWordLen (wordLenOf d none)) (h : Idle d c) {q : Request}
    (accepted : q.accepted = true)
    (regular : AllRegular d q.message.isDmaMapped q.replies 0 q.message.transfers) :
    (transferRequest d q c).outcome = ⟨0, true, 0, (q.message.transfers.map Transfer.len).sum,
      fullRxBufs d q.replies q.message.transfers 0⟩ := by
  rw [(transferRequest_spec device h q).2.2.2, Request.outcome, if_pos accepted,
    meaning_of_accepted device accepted regular]
  rfl

/-- An accepted message whose transfers are of whole words that all come in time is delivered: all
its words pass in their order, in a pulse for each group of transfers, and it is reported as
complete. -/
theorem message_delivered (device : ValidWordLen (wordLenOf d none)) (h : Idle d c) {q : Request}
    (accepted : q.accepted = true)
    (regular : AllRegular d q.message.isDmaMapped q.replies 0 q.message.transfers) :
    (transferRequest d q c).channel.finished =
      c.finished ++ fullPulses d q.replies q.message.transfers 0 none ∧
    (fullPulses d q.replies q.message.transfers 0 none).length =
      q.message.transfers.dropLast.countP Transfer.csChange + 1 ∧
    (transferRequest d q c).outcome = ⟨0, true, 0, (q.message.transfers.map Transfer.len).sum,
      fullRxBufs d q.replies q.message.transfers 0⟩ := by
  have finished := (transferRequest_spec device h q).2.1
  have pulses : q.pulses d = (q.meaning d).pulses := if_pos accepted
  refine ⟨?_, length_fullPulses (of_decide_eq_true accepted).1 0 none,
    outcome_regular device h accepted regular⟩
  rw [finished, pulses, meaning_of_accepted device accepted regular]

theorem regular_threeWords (change : Bool) :
    Regular sixteenBits false { threeWords with csChange := change } (.prompt fun _ => 7) :=
  ⟨(by decide : 2 ∣ 6), nofun, fun i _ => wordPasses_prompt _ _ i⟩

/-- Two transfers, the second in a pulse of its own. -/
theorem message_delivered_twoPulses :
    (transferRequest sixteenBits ⟨⟨[{ threeWords with csChange := true }, threeWords], false⟩,
      fun _ => true, fun _ => .prompt fun _ => 7⟩ (newChannel sixteenBits)).outcome.actualLength =
        12 := by
  have regular : AllRegular sixteenBits false (fun _ => .prompt fun _ => 7) 0
      [{ threeWords with csChange := true }, threeWords] := by
    intro j within
    rcases j with - | - | j
    · exact regular_threeWords true
    · exact regular_threeWords false
    · exact absurd within (by simp)
  exact congrArg Outcome.actualLength (message_delivered (d := sixteenBits) (by decide)
    (idle_newChannel (by decide))
    rfl regular).2.2

/-- A message that comes short is reported as successful exactly if the transfer that comes short
has a rate or a word length of its own. -/
theorem failure_hidden_iff (device : ValidWordLen (wordLenOf d none)) (h : Idle d c) {q : Request}
    (accepted : q.accepted = true) :
    (transferRequest d q c).status = 0 ∧ (q.meaning d).failed.isSome = true ↔
      ∃ x, (q.meaning d).failed = some x ∧ x.overrides = true := by
  have status : (transferRequest d q c).status = (q.meaning d).reported := by
    have outcome := (transferRequest_spec device h q).2.2.2
    rw [Request.outcome, if_pos accepted] at outcome
    exact congrArg Outcome.status outcome
  rw [status, Meaning.reported]
  cases (q.meaning d).failed with
  | none => simp
  | some x => cases x.overrides <;> simp [eio]

/-- The last of three words does not come, in a transfer at a rate of its own. -/
theorem failure_hidden_iff_ownRate :
    (transferRequest sixteenBits ⟨⟨[{ threeWords with speedHz := 1000000 }], true⟩,
      fun _ => true, fun _ => ⟨fun _ => true, fun i => i < 2, fun _ => 7⟩⟩
        (newChannel sixteenBits)).status = 0 :=
  ((failure_hidden_iff (d := sixteenBits) (by decide) (idle_newChannel (by decide)) rfl).mpr
    ⟨_, rfl, rfl⟩).1

end messages

end Gumstix.Mcspi
