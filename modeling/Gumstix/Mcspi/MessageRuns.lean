import Gumstix.Mcspi.MessageWork

/-!
# Runs of messages

Between two messages the chip select is inactive, the channel disabled and its settings are those of
the device, however the messages before have ended. So each message of a run means the same as it
would mean alone.
-/
namespace Gumstix.Mcspi
open Gumstix.Synchronization (Word)
open WordMemory (Memory)

/-- Between two messages of a device. -/
structure Idle (d : SpiDevice) (c : Channel) : Prop where
  tracked : Tracked c
  pulse : c.registers.pulse = none
  disabled : c.registers.chctrl = 0
  wordLen : c.wordLen = (wordLenOf d none).toNat
  settings : c.chconf0 &&& settingsMask = settingsOf d none

/-- The channel of a device after its set-up. -/
def newChannel (d : SpiDevice) : Channel := setupTransfer ⟨0, 0, ⟨0, 0, none, [], []⟩⟩ d none

theorem idle_newChannel {d : SpiDevice} (device : ValidWordLen (wordLenOf d none)) :
    Idle d (newChannel d) := by
  obtain ⟨tracked, line, wordLen, settings⟩ := setupTransfer_spec
    (c := ⟨0, 0, ⟨0, 0, none, [], []⟩⟩) device rfl
  exact ⟨tracked, line.pulse, chctrl_writeChconf _ _, wordLen, settings⟩

/-- The status that is reported for a message. -/
def Meaning.reported (m : Meaning) : Int :=
  match m.failed with
  | some x => if x.overrides then 0 else -eio
  | none => 0

section work
variable {d : SpiDevice} {w : Work} {c : Channel}

theorem workRestore_spec (valid : ValidWordLen (wordLenOf d none)) (h : Between d w) :
    ∃ c, workRestore d w =
        { w with
          channel := c
          status := if w.parOverride then 0 else w.status
          parOverride := false } ∧
      Tracked c ∧ SameLine w.channel c ∧ c.wordLen = (wordLenOf d none).toNat ∧
        c.chconf0 &&& settingsMask = settingsOf d none := by
  unfold workRestore
  split
  · obtain ⟨tracked, line, wordLen, settings⟩ := setupTransfer_spec valid h.tracked.force
    exact ⟨_, rfl, tracked, line, wordLen, settings⟩
  · rename_i plain
    rw [Bool.not_eq_true] at plain
    exact ⟨w.channel, by rw [← plain], h.tracked, ⟨rfl, rfl, rfl⟩, h.wordLen plain,
      h.settings plain⟩

theorem workEnd_spec (valid : ValidWordLen (wordLenOf d none)) (h : Between d w) :
    Idle d (workEnd d w).channel ∧
    (workEnd d w).channel.finished = w.channel.finished ++ w.channel.current.toList ∧
    (workEnd d w).channel.registers.strays = w.channel.registers.strays ∧
    (workEnd d w).status = (if w.parOverride then 0 else w.status) ∧
    (workEnd d w).actualLength = w.actualLength ∧ (workEnd d w).rxBufs = w.rxBufs ∧
    (workEnd d w).unmapped = w.unmapped := by
  obtain ⟨c, restore, tracked, line, wordLen, settings⟩ := workRestore_spec valid h
  rw [workEnd, restore]
  dsimp only
  split
  · obtain ⟨tracked', pulse, pulses, strays⟩ := forceCs_false c
    refine ⟨⟨⟨tracked'.shadow, tracked'.force⟩, pulse, rfl, wordLen,
      (forceCs_settings false).trans settings⟩, ?_, strays.trans line.strays, rfl, rfl, rfl, rfl⟩
    change (forceCs c false).registers.pulses.map Pulse.view = _
    rw [pulses, List.map_append, line.pulses, line.pulse, Channel.current]
    cases w.channel.registers.pulse <;> rfl
  · rename_i inactive
    have none : w.channel.registers.pulse = none := by
      rw [Bool.not_eq_true, ← h.active] at inactive
      exact Option.isSome_eq_false_iff.mp inactive |> Option.isNone_iff_eq_none.mp
    refine ⟨⟨⟨tracked.shadow, tracked.force⟩, line.pulse.trans none, rfl, wordLen, settings⟩, ?_,
      line.strays, rfl, rfl, rfl, rfl⟩
    change c.registers.pulses.map Pulse.view = _
    rw [line.pulses, Channel.current, none]
    exact (List.append_nil _).symm

theorem between_workStart (h : Idle d c) : Between d (workStart c) where
  tracked := ⟨h.tracked.shadow, h.tracked.force⟩
  active := congrArg Option.isSome h.pulse
  wordLen _ := h.wordLen
  settings _ := h.settings

/-- The work on a message does what the message means. -/
theorem omap2McspiWork_spec (device : ValidWordLen (wordLenOf d none)) (h : Idle d c) {m : Message}
    (valid : ∀ x ∈ m.transfers, ValidTransfer d x) (replies : Replies) :
    let meant := meaning d m.isDmaMapped replies m.transfers 0 none
    let w := omap2McspiWork d m replies c
    Idle d w.channel ∧ w.channel.finished = c.finished ++ meant.pulses ∧
      w.channel.registers.strays = c.registers.strays ∧ w.status = meant.reported ∧
      w.actualLength = meant.actualLength ∧ w.rxBufs = meant.rxBufs ∧
      w.unmapped = undone m.isDmaMapped (m.transfers.take meant.rxBufs.length) 0 := by
  have current : (workStart c).channel.current = none := by
    rw [Channel.current]
    exact congrArg (Option.map Pulse.view) h.pulse
  have follows := workLoop_follows m.isDmaMapped replies valid (between_workStart h) rfl 0
  rw [current] at follows
  obtain ⟨idle, finished, strays, status, actualLength, rxBufs, unmapped⟩ :=
    workEnd_spec device follows.between
  refine ⟨idle, finished.trans follows.pulses, strays.trans follows.strays, ?_,
    actualLength.trans (follows.actualLength.trans (BitVec.zero_add _)),
    rxBufs.trans follows.rxBufs, unmapped.trans follows.unmapped⟩
  refine status.trans ?_
  rw [follows.status, Meaning.reported]
  cases failed : (meaning d m.isDmaMapped replies m.transfers 0 none).failed with
  | none => exact ite_self _
  | some x => rw [follows.override x failed]; rfl

end work

def Message.accepted (m : Message) (maps : Mapping → Bool) : Bool :=
  m.transfers ≠ [] ∧ (validate m.isDmaMapped maps m.transfers 0 ⟨[], []⟩).2

section accepted
variable {d : SpiDevice} {x : Transfer} {isDmaMapped : Bool} {maps : Mapping → Bool}

theorem valid_of_validate {transfers : List Transfer} {i : Nat} {a : Mappings}
    (all : (validate isDmaMapped maps transfers i a).2 = true) :
    ∀ x ∈ transfers, x.invalid = false := by
  induction transfers generalizing i a with
  | nil => nofun
  | cons x transfers ih =>
      rw [validate] at all
      split at all
      · cases all
      · rename_i valid
        have rest : ∀ y ∈ transfers, y.invalid = false := by
          split at all
          · exact ih all
          · dsimp only at all
            split at all
            · exact ih all
            · rename_i refused
              exact absurd all refused
        exact List.forall_mem_cons.mpr ⟨eq_false_of_ne_true valid, rest⟩

theorem validTransfer_of_valid (device : ValidWordLen (wordLenOf d none))
    (valid : x.invalid = false) : ValidTransfer d x := by
  simp only [Transfer.invalid, decide_eq_false_iff_not, not_or, not_and, not_not] at valid
  obtain ⟨-, buffers, wordLen, -⟩ := valid
  constructor
  · by_cases own : x.bitsPerWord = 0
    · have same : wordLenOf d (some x) = wordLenOf d none := if_neg (not_not.mpr own)
      rw [same]
      exact device
    · have same : wordLenOf d (some x) = x.bitsPerWord := if_pos own
      obtain ⟨least, most⟩ := wordLen own
      rw [same]
      rw [BitVec.not_lt, BitVec.le_def] at least most
      exact ⟨Nat.le_trans (by decide) least, most⟩
  · rintro ⟨noTx, noRx, some⟩
    exact not_isNone (buffers some fun rx => not_isNone rx noRx) noTx

end accepted

/-- A message as it comes to the controller, with the mappings that can be made for it and the
answers of the line. -/
structure Request where
  message : Message
  maps : Mapping → Bool
  replies : Replies

def transferRequest (d : SpiDevice) (q : Request) (c : Channel) : MessageResult :=
  transferOneMessage d q.maps q.message q.replies c

/-- Messages one after the other. -/
def transferRequests (d : SpiDevice) : List Request → Channel → List MessageResult × Channel
  | [], c => ([], c)
  | q :: requests, c =>
      let result := transferRequest d q c
      let rest := transferRequests d requests result.channel
      (result :: rest.1, rest.2)

/-- What the sender of a message gets to see. -/
structure Outcome where
  returned : Int
  finalized : Bool
  status : Int
  actualLength : Word
  rxBufs : List (Option Memory)

def MessageResult.outcome (result : MessageResult) : Outcome :=
  ⟨result.returned, result.finalized, result.status, result.actualLength, result.rxBufs⟩

/-- The meaning of a message on its own. -/
def Request.meaning (d : SpiDevice) (q : Request) : Meaning :=
  Mcspi.meaning d q.message.isDmaMapped q.replies q.message.transfers 0 none

def Request.accepted (q : Request) : Bool := q.message.accepted q.maps

/-- What a message should come to, on its own. -/
def Request.outcome (d : SpiDevice) (q : Request) : Outcome :=
  if q.accepted then
    ⟨0, true, (q.meaning d).reported, (q.meaning d).actualLength, (q.meaning d).rxBufs⟩
  else ⟨-einval, false, 0, 0, []⟩

/-- The pulses of a message, on its own. -/
def Request.pulses (d : SpiDevice) (q : Request) : List PulseView :=
  if q.accepted then (q.meaning d).pulses else []

/-- A reception by DMA has the words that the driver reads itself: one, or two in turbo mode. With
fewer, the source programs the DMA with a negative number of elements. -/
def Transfer.FitsDma (x : Transfer) (d : SpiDevice) (isDmaMapped : Bool) : Prop :=
  x.byDma isDmaMapped = true → x.rxBuf.isSome = true →
    lastWords (isOn (modeOf d x (wordLenOf d (some x)).toNat) chconfTurbo) ≤
      x.words (elementOf d x)

instance (x : Transfer) (d : SpiDevice) (isDmaMapped : Bool) :
    Decidable (x.FitsDma d isDmaMapped) := inferInstanceAs (Decidable (_ → _ → _))

def Request.FitsDma (q : Request) (d : SpiDevice) : Prop :=
  ∀ x ∈ q.message.transfers, x.FitsDma d q.message.isDmaMapped

instance (q : Request) (d : SpiDevice) : Decidable (q.FitsDma d) :=
  inferInstanceAs (Decidable (∀ x ∈ q.message.transfers, x.FitsDma d q.message.isDmaMapped))

/-- Behind the end of a transfer that the DMA makes, the receive buffer is as it was. -/
def Request.StaysInside (q : Request) (d : SpiDevice) : Prop :=
  ∀ (n : Nat) (x : Transfer) (before after : Memory), q.message.transfers[n]? = some x →
    x.byDma q.message.isDmaMapped = true → x.rxBuf = some before →
      (q.outcome d).rxBufs[n]? = some (some after) → ∀ j, x.len.toNat ≤ j → after j = before j

section inside
variable {d : SpiDevice} {isDmaMapped : Bool} {x : Transfer} {r : LineReplies} {replies : Replies}

/-- The DMA and the driver together receive no more words than the transfer has. -/
theorem received_le_words (valid : ValidWordLen (wordLenOf d (some x)))
    (fits : x.FitsDma d isDmaMapped) (byDma : x.byDma isDmaMapped = true) :
    (passage d isDmaMapped x r).received ≤ x.words (elementOf d x) := by
  have prepared := prepared_spec valid
  have enough := fits byDma
  rw [← prepared_turbo valid] at enough
  obtain ⟨some, long⟩ := of_decide_eq_true byDma
  rw [passage, if_neg some, txrx, if_pos long, TransferResult.passage]
  cases isRx : x.rxBuf with
  | none =>
      obtain ⟨-, -, received, -⟩ := dma_sends (r := r) prepared.selected prepared.fits isRx
      exact received.le.trans (Nat.zero_le _)
  | some rx =>
      have receives : x.rxBuf.isSome = true := by rw [isRx]; rfl
      obtain ⟨-, -, received, -⟩ := dma_receives (r := r) prepared.selected prepared.fits receives
      exact received.le.trans (dmaInTime_le (enough receives))

theorem rxBufOf_behind {p : Passage} {before after : Memory}
    (few : p.received ≤ x.words (elementOf d x)) (isRx : x.rxBuf = some before)
    (left : rxBufOf d x r p = some after) {j : Nat} (behind : x.len.toNat ≤ j) :
    after j = before j := by
  rw [rxBufOf, isRx, Option.map_some, Option.some.injEq] at left
  rw [← left]
  refine WordMemory.storeAll_behind before _ ?_
  rw [Nat.zero_add, length_wordsReceived]
  exact ((Nat.mul_le_mul_left _ few).trans (Nat.mul_div_le _ _)).trans behind

/-- A buffer of the meaning is that of a transfer on its own. -/
theorem meaning_rxBufs {transfers : List Transfer} {i n : Nat} {current : Option PulseView}
    {left : Option Memory}
    (isLeft : (meaning d isDmaMapped replies transfers i current).rxBufs[n]? = some left)
    (isX : transfers[n]? = some x) :
    left = rxBufOf d x (replies (i + n)) (passage d isDmaMapped x (replies (i + n))) := by
  induction transfers generalizing i n current with
  | nil => cases isX
  | cons y transfers ih =>
      rw [meaning] at isLeft
      dsimp only at isLeft
      cases n with
      | zero =>
          obtain rfl := Option.some.inj isX
          split at isLeft <;> exact (Option.some.inj isLeft).symm
      | succ n =>
          split at isLeft
          · rw [← Nat.add_assoc, Nat.add_right_comm]
            exact ih isLeft isX
          · cases isLeft

end inside

section runs
variable {d : SpiDevice} {c : Channel}

theorem validTransfer_of_accepted (device : ValidWordLen (wordLenOf d none)) {q : Request}
    (accepted : q.accepted = true) : ∀ x ∈ q.message.transfers, ValidTransfer d x := by
  obtain ⟨-, all⟩ := of_decide_eq_true accepted
  exact fun x member => validTransfer_of_valid device (valid_of_validate all x member)

theorem transferRequest_accepted {q : Request} (accepted : q.accepted = true) :
    transferRequest d q c =
      let w := omap2McspiWork d q.message q.replies c
      let validated := validate q.message.isDmaMapped q.maps q.message.transfers 0 ⟨[], []⟩
      ⟨0, true, w.status, w.actualLength, w.rxBufs,
        { validated.1 with unmapped := validated.1.unmapped ++ w.unmapped }, w.channel⟩ := by
  obtain ⟨some, valid⟩ := of_decide_eq_true accepted
  rw [transferRequest, transferOneMessage, if_neg some]
  exact if_pos valid

theorem transferRequest_refused {q : Request} (refused : q.accepted = false) :
    ∃ a, transferRequest d q c = ⟨-einval, false, 0, 0, [], a, c⟩ := by
  have not := of_decide_eq_false refused
  rw [transferRequest, transferOneMessage]
  split
  · exact ⟨_, rfl⟩
  · rename_i some
    dsimp only
    rw [if_neg fun valid => not ⟨some, valid⟩]
    exact ⟨_, rfl⟩

/-- A message leaves the channel idle, and does and returns what it means on its own. -/
theorem transferRequest_spec (device : ValidWordLen (wordLenOf d none)) (h : Idle d c)
    (q : Request) :
    Idle d (transferRequest d q c).channel ∧
    (transferRequest d q c).channel.finished = c.finished ++ q.pulses d ∧
    (transferRequest d q c).channel.registers.strays = c.registers.strays ∧
    (transferRequest d q c).outcome = q.outcome d := by
  cases accepted : q.accepted with
  | false =>
      obtain ⟨a, refused⟩ := transferRequest_refused (d := d) (c := c) accepted
      have pulses : q.pulses d = [] := if_neg (by rw [accepted]; exact Bool.false_ne_true)
      have outcome : q.outcome d = ⟨-einval, false, 0, 0, []⟩ :=
        if_neg (by rw [accepted]; exact Bool.false_ne_true)
      rw [refused, pulses, outcome]
      exact ⟨h, (List.append_nil _).symm, rfl, rfl⟩
  | true =>
      obtain ⟨idle, finished, strays, status, actualLength, rxBufs, -⟩ :=
        omap2McspiWork_spec device h (validTransfer_of_accepted device accepted) q.replies
      have outcome : q.outcome d = ⟨0, true, (q.meaning d).reported, (q.meaning d).actualLength,
        (q.meaning d).rxBufs⟩ := if_pos accepted
      have pulses : q.pulses d = (q.meaning d).pulses := if_pos accepted
      rw [transferRequest_accepted accepted, outcome, pulses]
      refine ⟨idle, finished, strays, ?_⟩
      dsimp only [MessageResult.outcome]
      rw [status, actualLength, rxBufs]
      rfl

theorem staysInside (device : ValidWordLen (wordLenOf d none)) {q : Request}
    (fits : q.FitsDma d) : q.StaysInside d := by
  intro n x before after isX byDma isRx isLeft j behind
  cases accepted : q.accepted with
  | false =>
      rw [Request.outcome, if_neg (by rw [accepted]; exact Bool.false_ne_true)] at isLeft
      cases isLeft
  | true =>
      have member := List.mem_of_getElem? isX
      have valid := validTransfer_of_accepted device accepted x member
      rw [Request.outcome, if_pos accepted] at isLeft
      exact rxBufOf_behind (received_le_words valid.wordLen (fits x member) byDma) isRx
        (meaning_rxBufs isLeft isX).symm behind

/-- What a run of messages leaves, whatever each message asks for. -/
theorem transferRequests_spec (device : ValidWordLen (wordLenOf d none)) (h : Idle d c)
    (requests : List Request) :
    Idle d (transferRequests d requests c).2 ∧
    (transferRequests d requests c).2.finished =
      c.finished ++ requests.flatMap (Request.pulses d) ∧
    (transferRequests d requests c).2.registers.strays = c.registers.strays ∧
    (transferRequests d requests c).1.map MessageResult.outcome =
      requests.map (Request.outcome d) := by
  induction requests generalizing c with
  | nil => exact ⟨h, (List.append_nil _).symm, rfl, rfl⟩
  | cons q requests ih =>
      obtain ⟨idle, finished, strays, outcome⟩ := transferRequest_spec device h q
      obtain ⟨idle', finished', strays', outcomes⟩ := ih idle
      refine ⟨idle', finished'.trans ?_, strays'.trans strays, ?_⟩
      · rw [finished, List.append_assoc]
        rfl
      · exact congrArg₂ List.cons outcome outcomes

/-- Over any run of messages whose receptions by DMA have the words that the driver reads itself,
whatever becomes of each: what passes on the line is what the messages mean on their own, one after
the other, each returns what it would return on its own, nothing passes outside a pulse, the channel
is idle again, and the DMA writes nothing behind a receive buffer. -/
theorem messages_isolated (device : ValidWordLen (wordLenOf d none)) (h : Idle d c)
    {requests : List Request} (fits : ∀ q ∈ requests, q.FitsDma d) :
    Idle d (transferRequests d requests c).2 ∧
    (transferRequests d requests c).2.finished =
      c.finished ++ requests.flatMap (Request.pulses d) ∧
    (transferRequests d requests c).2.registers.strays = c.registers.strays ∧
    (transferRequests d requests c).1.map MessageResult.outcome =
      requests.map (Request.outcome d) ∧
    ∀ q ∈ requests, q.StaysInside d := by
  obtain ⟨idle, finished, strays, outcomes⟩ := transferRequests_spec device h requests
  exact ⟨idle, finished, strays, outcomes, fun q member => staysInside device (fits q member)⟩

/-- A device for words of 16 bits. -/
def sixteenBits : SpiDevice := ⟨0, 16, 2000000, false⟩

/-- The same message after one that is refused and one that comes short. -/
def threeRequests : List Request :=
  [⟨⟨[], false⟩, fun _ => true, fun _ => .prompt fun _ => 7⟩,
    ⟨⟨[threeWords], true⟩, fun _ => true, fun _ => ⟨fun _ => true, fun _ => false, fun _ => 7⟩⟩,
    ⟨⟨[threeWords], true⟩, fun _ => true, fun _ => .prompt fun _ => 7⟩]

theorem messages_isolated_lastOfThree :
    ((transferRequests sixteenBits threeRequests (newChannel sixteenBits)).1.map
      fun result => result.outcome.actualLength) = [0, 4, 6] := by
  have fits : ∀ q ∈ threeRequests, q.FitsDma sixteenBits := by decide
  have outcomes := congrArg (List.map Outcome.actualLength)
    (messages_isolated (by decide) (idle_newChannel (by decide)) fits).2.2.2.1
  rw [List.map_map] at outcomes
  exact outcomes

end runs

end Gumstix.Mcspi
