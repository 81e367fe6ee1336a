import Gumstix.Mcspi.MessageDelivery
import Gumstix.Spike.State

/-!
# The sensor on its controller

The spike driver leaves its transfers to the controller. What its calls then return is what they
return on a line that gives the words up to the first one that is late, with a success as long as at
most one is missing; and the line shows the commands of the calls, each in a pulse of its own.
-/
namespace Gumstix.Mcspi
open Gumstix.Synchronization (Word)
open Gumstix.Spike (SpikeDriver SpikeReplies SpikeEvent spikeCall lm74IoctlSetMode shutdownMode
  contconvMode)
open ByteImage (wordByte)
open WordMemory (Memory load storeAll)

/-- The device that `add_spike_device_to_bus` adds. -/
def lm74Device : SpiDevice := ⟨spiCpha, 8, 1000, false⟩

/-- `spike_ctl.transfer`, whose fields that are never written are 0. -/
def spikeTransfer (command : List Byte) : Transfer :=
  ⟨some fun i => command.getD i 0, some fun _ => 0, BitVec.ofNat 32 command.length, 0, 0, false⟩

def spikeRequest (command : List Byte) (r : LineReplies) : Request :=
  ⟨⟨[spikeTransfer command], false⟩, fun _ => true, fun _ => r⟩

/-- What `spi_sync` returns and leaves in the message, and what it has received. -/
structure SyncReply where
  status : Int
  received : List Byte
  deriving DecidableEq

/-- `spi_sync` waits for the message and returns its status. -/
def spiSync (command : List Byte) (r : LineReplies) (c : Channel) : SyncReply × Channel :=
  let result := transferRequest lm74Device (spikeRequest command r) c
  let rx := (result.rxBufs.head?.getD none).getD fun _ => 0
  (⟨result.status, (List.range command.length).map rx⟩, result.channel)

/-- The bytes that a call of the driver gives to `spi_sync`, if it comes to it. -/
def spikeCommand (d : SpikeDriver) : SpikeEvent → Option (List Byte)
  | .read file buffIsNull _ k =>
      if buffIsNull ∨ 0 < d.offset file ∨ k.fopInterrupted ∨ k.spiInterrupted ∨ ¬ d.spiDevice then
        none
      else some [0, 0]
  | .ioctl _ cmd arg k =>
      if cmd = lm74IoctlSetMode ∧ (arg = shutdownMode ∨ arg = contconvMode) ∧
        ¬ k.spiInterrupted ∧ d.spiDevice then some [0, 0, 0, arg.setWidth 8]
      else none
  | .openFile _ | .probe | .remove => none

def SyncReply.answers (a : SyncReply) (k : SpikeReplies) : SpikeReplies :=
  { k with
    spiSync := BitVec.ofInt 32 a.status
    received := a.received
    messageStatus := BitVec.ofInt 32 a.status }

/-- A call with what `spi_sync` has answered. -/
def SyncReply.answer (a : SyncReply) : SpikeEvent → SpikeEvent
  | .openFile k => .openFile k
  | .read file buffIsNull count k => .read file buffIsNull count (a.answers k)
  | .ioctl file cmd arg k => .ioctl file cmd arg (a.answers k)
  | .probe => .probe
  | .remove => .remove

/-- The spike driver with the channel of its device. -/
structure SensorStack where
  driver : SpikeDriver
  channel : Channel

/-- A call and what the line answers if it comes to a transfer. -/
abbrev SensorCall := SpikeEvent × LineReplies

namespace SensorStack

def call (s : SensorStack) (e : SensorCall) : Spike.Outcome × Channel :=
  match spikeCommand s.driver e.1 with
  | none => (spikeCall s.driver e.1, s.channel)
  | some command =>
      let sync := spiSync command e.2 s.channel
      (spikeCall s.driver (sync.1.answer e.1), sync.2)

def calls : SensorStack → List SensorCall → List Spike.Outcome × SensorStack
  | s, [] => ([], s)
  | s, e :: es =>
      let out := s.call e
      let rest := calls ⟨out.1.driver, out.2⟩ es
      (out.1 :: rest.1, rest.2)

end SensorStack

def InTime (r : LineReplies) (i : Nat) : Prop := r.txs i = true ∧ r.rxs i = true

instance (r : LineReplies) (i : Nat) : Decidable (InTime r i) :=
  inferInstanceAs (Decidable (_ ∧ _))

/-- How many of the first `n` words come before one is late. -/
def arrived (r : LineReplies) : Nat → Nat
  | 0 => 0
  | n + 1 => if arrived r n = n ∧ InTime r n then n + 1 else arrived r n

/-- A transfer of `n` bytes as the line gives it. -/
def lineReply (r : LineReplies) (n : Nat) : SyncReply :=
  ⟨if n ≤ arrived r n + 1 then 0 else -eio,
    (List.range n).map fun i => if i < arrived r n then wordByte (r.rx i) 0 else 0⟩

/-- A call on the line itself. -/
def lineCall (d : SpikeDriver) (e : SensorCall) : Spike.Outcome :=
  spikeCall d ((lineReply e.2 ((spikeCommand d e.1).getD []).length).answer e.1)

def lineCalls : SpikeDriver → List SensorCall → List Spike.Outcome × SpikeDriver
  | d, [] => ([], d)
  | d, e :: es =>
      let rest := lineCalls (lineCall d e).driver es
      (lineCall d e :: rest.1, rest.2)

/-- The commands of the calls. -/
def lineCommands : SpikeDriver → List SensorCall → List (List Byte)
  | _, [] => []
  | d, e :: es => (spikeCommand d e.1).toList ++ lineCommands (lineCall d e).driver es

section line
variable {r : LineReplies}

theorem arrived_le (r : LineReplies) (n : Nat) : arrived r n ≤ n := by
  induction n with
  | zero => exact Nat.le_refl 0
  | succ n ih =>
      rw [arrived]
      split
      · exact Nat.le_refl _
      · exact ih.trans (Nat.le_succ n)

theorem inTime_of_arrived {n i : Nat} (before : i < arrived r n) : InTime r i := by
  induction n with
  | zero => exact absurd before (Nat.not_lt_zero i)
  | succ n ih =>
      rw [arrived] at before
      split at before
      · rename_i all
        rcases Nat.lt_succ_iff_lt_or_eq.mp before with earlier | rfl
        · exact ih (all.1.symm ▸ earlier)
        · exact all.2
      · exact ih before

theorem late_of_arrived {n : Nat} (some : arrived r n < n) : ¬ InTime r (arrived r n) := by
  induction n with
  | zero => exact absurd some (Nat.not_lt_zero _)
  | succ n ih =>
      rw [arrived] at some ⊢
      split at some
      · exact absurd some (Nat.lt_irrefl _)
      · rename_i missing
        rw [if_neg missing]
        rcases Nat.lt_or_eq_of_le (arrived_le r n) with earlier | all
        · exact ih earlier
        · rw [all] at missing ⊢
          exact fun inTime => missing ⟨rfl, inTime⟩

end line

/-- How much of a command passes on the line. -/
abbrev commandPassage (command : List Byte) (r : LineReplies) : Passage :=
  passage lm74Device false (spikeTransfer command) r

/-- The pulse that a command makes. -/
abbrev commandPulse (command : List Byte) (r : LineReplies) : PulseView :=
  pulseOf lm74Device (spikeTransfer command) r (commandPassage command r)

section transfers
variable {command : List Byte} {r : LineReplies} {c : Channel}

theorem wordPasses_spike (command : List Byte) (r : LineReplies) (i : Nat) :
    WordPasses (spikeTransfer command) r i ↔ InTime r i :=
  ⟨fun passes => ⟨passes.1 rfl, passes.2 rfl⟩, fun inTime => ⟨fun _ => inTime.1, fun _ => inTime.2⟩⟩

theorem validWordLen_spike (command : List Byte) :
    ValidWordLen (wordLenOf lm74Device (some (spikeTransfer command))) := by
  change ValidWordLen 8
  decide

theorem len_spike (short : command.length ≤ 4) :
    (spikeTransfer command).len.toNat = command.length :=
  Nat.mod_eq_of_lt (Nat.lt_of_le_of_lt short (by decide))

theorem words_spike (short : command.length ≤ 4) :
    (spikeTransfer command).words .s8 = command.length :=
  (Nat.div_one _).trans (len_spike short)

theorem bits_spike (command : List Byte) :
    (prepared lm74Device (spikeTransfer command)).wordLen ≤ 32 := by
  change 8 ≤ 32
  decide

theorem long_spike (some : command ≠ []) (short : command.length ≤ 4) :
    ¬ (spikeTransfer command).len.toNat <
      (prepared lm74Device (spikeTransfer command)).wordLen / 8 := by
  rw [len_spike short]
  exact Nat.not_lt.mpr (show 8 / 8 ≤ command.length from List.length_pos_iff.mpr some)

/-- A transfer is too short for the DMA. -/
theorem passage_spike (some : command ≠ []) (short : command.length ≤ 4) :
    commandPassage command r = (txrxPio (spikeTransfer command) r
      (prepared lm74Device (spikeTransfer command))).passage := by
  have length := len_spike short
  have positive := List.length_pos_iff.mpr some
  have some : (spikeTransfer command).len ≠ 0 := by
    intro zero
    rw [zero] at length
    exact positive.ne length
  have few : ¬ (false = true ∨ dmaMinBytes ≤ (spikeTransfer command).len) := by
    rw [BitVec.le_def, length]
    change ¬ (false = true ∨ 160 ≤ command.length)
    simp
    omega
  rw [commandPassage, passage, if_neg some, txrx, if_neg few]

/-- The words up to the first one that is late are received, and the transfer is complete if it is
the last one. -/
theorem passage_arrived (some : command ≠ []) (short : command.length ≤ 4) :
    ((commandPassage command r).count = (spikeTransfer command).len ↔
      command.length ≤ arrived r command.length + 1) ∧
    (commandPassage command r).received = arrived r command.length := by
  have positive := List.length_pos_iff.mpr some
  have length := len_spike short
  have words := words_spike short
  have ready := prepared_spec (validWordLen_spike command)
  have bits := bits_spike command
  have long := long_spike some short
  rw [passage_spike some short, TransferResult.passage]
  generalize isC : prepared lm74Device (spikeTransfer command) = c at ready bits long ⊢
  have wordLen : c.wordLen = 8 := isC ▸ rfl
  have element : dataType c.wordLen = .s8 := by rw [wordLen]; rfl
  have whole : (dataType c.wordLen).bytes ≤ (spikeTransfer command).len.toNat := by
    rw [element, length]
    exact positive
  dsimp only
  rcases Nat.lt_or_eq_of_le (arrived_le r command.length) with missing | all
  · have within : arrived r command.length <
        (spikeTransfer command).words (dataType c.wordLen) := by rw [element, words]; exact missing
    have fails := mt (wordPasses_spike command r _).mp (late_of_arrived missing)
    have earlier : ∀ j < arrived r command.length, WordPasses (spikeTransfer command) r j :=
      fun j before => (wordPasses_spike command r j).mpr (inTime_of_arrived before)
    have plain : ¬ TurboTail (spikeTransfer command) c.chconf0 := fun tail =>
      Bool.false_ne_true tail.1
    constructor
    · rw [count_eq_len_iff bits long, rest_of_late whole within fails earlier,
        if_neg fun tail => plain tail.1, element, words, length]
      change 1 * _ + _ % 1 + 0 = 0 ↔ _
      omega
    · rw [txrxPio_eq bits long]
      exact received_of_late whole within fails earlier plain rfl
  · obtain ⟨count, -, received, -⟩ := pio_exchanges (x := spikeTransfer command) ready.selected
      ready.fits bits whole fun i hi => (wordPasses_spike command r i).mpr
        (inTime_of_arrived (by rw [all]; rwa [element, words] at hi))
    rw [element, words] at count received
    refine ⟨iff_of_true (BitVec.eq_of_toNat_eq ?_) (by omega), ?_⟩
    · rw [count, length]
      exact Nat.one_mul _
    · rw [received, all]
      exact if_pos rfl

theorem accepted_spike (short : command.length ≤ 4) :
    (spikeRequest command r).accepted = true := by
  have few : (spikeTransfer command).len < dmaMinBytes := by
    rw [BitVec.lt_def, len_spike short]
    change command.length < 160
    omega
  have valid : (spikeTransfer command).invalid = false := by
    rw [Transfer.invalid, decide_eq_false_iff_not]
    simp [spikeTransfer]
  simp [Request.accepted, Message.accepted, spikeRequest, validate, valid, few]

/-- A message of the driver on its own: one pulse, a success unless more than the last word is
missing, and the words up to the first one that is late. -/
theorem outcome_spike (some : command ≠ []) (short : command.length ≤ 4) :
    ((spikeRequest command r).outcome lm74Device).status = (lineReply r command.length).status ∧
    ((spikeRequest command r).outcome lm74Device).rxBufs =
      [Option.some (storeAll 1 (fun _ => 0) 0 (wordsReceived r 0 (arrived r command.length)))] ∧
    (spikeRequest command r).pulses lm74Device = [commandPulse command r] := by
  obtain ⟨complete, received⟩ := passage_arrived (r := r) some short
  rw [Request.outcome, Request.pulses, if_pos (accepted_spike short),
    if_pos (accepted_spike short)]
  have meant : (spikeRequest command r).meaning lm74Device =
      meaning lm74Device false (fun _ => r) [spikeTransfer command] 0 none := rfl
  have rxBuf : rxBufOf lm74Device (spikeTransfer command) r (commandPassage command r) =
      Option.some (storeAll 1 (fun _ => 0) 0
        (wordsReceived r 0 (arrived r command.length))) := by
    rw [rxBufOf, received]
    rfl
  rw [meant, meaning]
  dsimp only
  rw [rxBuf, lineReply]
  by_cases success : command.length ≤ arrived r command.length + 1
  · rw [if_pos (complete.mpr success), if_pos success]
    exact ⟨rfl, rfl, rfl⟩
  · rw [if_neg (mt complete.mp success), if_neg success]
    exact ⟨rfl, rfl, rfl⟩

theorem load_byte (m : Memory) (i : Nat) : load 32 1 m i = (m i).setWidth 32 := by
  rw [load, WordMemory.assemble, WordMemory.assemble, Nat.one_mul, ByteImage.setWordByte]
  simp

theorem wordsToSend_spike (command : List Byte) :
    wordsToSend (spikeTransfer command) .s8 0 command.length =
      command.map (BitVec.setWidth 32) := by
  refine List.ext_getElem (by simp [wordsToSend, spikeTransfer]) fun i hi hi' => ?_
  have within : i < command.length := by simpa using hi'
  simp [wordsToSend, spikeTransfer, DataType.bytes, load_byte, within]

/-- A pulse shows the bytes of its command, up to a word that the transmitter was not ready for. -/
theorem shown_spike (some : command ≠ []) (short : command.length ≤ 4) :
    (commandPulse command r).1.map Prod.snd <+: command.map (BitVec.setWidth 32) := by
  have positive := List.length_pos_iff.mpr some
  have words : (commandPulse command r).1.map Prod.snd =
      wordsToSend (spikeTransfer command) .s8 0 (commandPassage command r).sent := by
    rw [commandPulse, pulseOf, List.map_map]
    exact List.map_id _
  have sent : (commandPassage command r).sent ≤ command.length := by
    have room := (pioLoop_room (x := spikeTransfer command) (r := r)
      (l := (prepared lm74Device (spikeTransfer command)).chconf0) (k := .s8)
      (p := pioStart (spikeTransfer command) (prepared lm74Device (spikeTransfer command)))
      ((len_spike short).symm ▸ positive)).1
    rw [passage_spike some short, TransferResult.passage,
      txrxPio_eq (bits_spike command) (long_spike some short)]
    change 1 * _ ≤ 1 * 0 + (spikeTransfer command).len.toNat at room
    rw [len_spike short, Nat.one_mul, Nat.mul_zero, Nat.zero_add] at room
    exact room
  rw [words, ← wordsToSend_spike, ← Nat.add_sub_of_le sent, ← wordsToSend_add]
  exact List.prefix_append _ _

theorem spiSync_spec (h : Idle lm74Device c) (some : command ≠ []) (short : command.length ≤ 4) :
    (spiSync command r c).1 = lineReply r command.length ∧
    Idle lm74Device (spiSync command r c).2 ∧
    (∃ pulse : PulseView, (spiSync command r c).2.finished = c.finished ++ [pulse] ∧
      pulse.1.map Prod.snd <+: command.map (BitVec.setWidth 32)) ∧
    (spiSync command r c).2.registers.strays = c.registers.strays := by
  obtain ⟨idle, finished, strays, outcome⟩ := transferRequest_spec (d := lm74Device)
    (show ValidWordLen 8 by decide) h (spikeRequest command r)
  obtain ⟨status, rxBufs, pulses⟩ := outcome_spike (r := r) some short
  rw [← outcome] at status rxBufs
  refine ⟨?_, idle, ⟨_, finished.trans (congrArg (c.finished ++ ·) pulses),
    shown_spike some short⟩, strays⟩
  have received : (transferRequest lm74Device (spikeRequest command r) c).rxBufs =
    [Option.some (storeAll 1 (fun _ => 0) 0
      (wordsReceived r 0 (arrived r command.length)))] := rxBufs
  have reported : (transferRequest lm74Device (spikeRequest command r) c).status =
    if command.length ≤ arrived r command.length + 1 then 0 else -eio := status
  rw [spiSync, lineReply]
  dsimp only
  rw [received, reported]
  refine congrArg (SyncReply.mk _) (List.map_congr_left fun i hi => ?_)
  change storeAll 1 (fun _ => 0) 0 (wordsReceived r 0 (arrived r command.length)) i = _
  have length := length_wordsReceived r 0 (arrived r command.length)
  split
  · rename_i before
    have inside : i < (wordsReceived r 0 (arrived r command.length)).length := length.symm ▸ before
    have word : (wordsReceived r 0 (arrived r command.length))[i] = r.rx i := by
      simp [wordsReceived]
    have stored := WordMemory.storeAll_get (k := 1) (fun _ => 0) (i := 0) _ inside Nat.one_pos
    rw [Nat.zero_add, Nat.one_mul, Nat.add_zero, word] at stored
    exact stored
  · rename_i late
    exact WordMemory.storeAll_behind _ _ (by rw [length]; omega)

end transfers

section calls
variable {d : SpikeDriver} {s : SensorStack} {e : SensorCall}

theorem spikeCommand_length {command : List Byte} {e : SpikeEvent}
    (isCommand : spikeCommand d e = some command) : command ≠ [] ∧ command.length ≤ 4 := by
  cases e with
  | openFile | probe | remove => cases isCommand
  | read | ioctl =>
      simp only [spikeCommand] at isCommand
      split at isCommand <;> cases isCommand
      exact ⟨by simp, by simp⟩

/-- A transfer that does not come to `spi_sync`. -/
theorem transfer_answers {k : SpikeReplies}
    (ends : k.spiInterrupted = true ∨ ¬ d.spiDevice = true) (a : SyncReply) (command : List Byte) :
    Spike.transfer d (a.answers k) command = Spike.transfer d k command ∧
      (Spike.transfer d k command).2 ≠ 0 := by
  unfold Spike.transfer
  by_cases interrupted : k.spiInterrupted = true
  · rw [if_pos interrupted, if_pos (show (a.answers k).spiInterrupted = true from interrupted)]
    exact ⟨rfl, (by decide : -Spike.erestartsys ≠ 0)⟩
  · have absent := ends.resolve_left interrupted
    rw [if_neg interrupted, if_neg (show ¬ (a.answers k).spiInterrupted = true from interrupted),
      if_neg absent, if_neg absent]
    exact ⟨rfl, (by decide : -Spike.enodev ≠ 0)⟩

theorem config_answers {k : SpikeReplies} {mode : Word}
    (ends : ¬ ((mode = shutdownMode ∨ mode = contconvMode) ∧ ¬ k.spiInterrupted = true ∧
      d.spiDevice = true)) (a : SyncReply) :
    Spike.spikeDoOneLm74ConfigMessage d (a.answers k) mode =
        Spike.spikeDoOneLm74ConfigMessage d k mode ∧
      (Spike.spikeDoOneLm74ConfigMessage d k mode).2 ≠ 0 := by
  unfold Spike.spikeDoOneLm74ConfigMessage
  split
  · exact ⟨rfl, (by decide : -Spike.enotty ≠ 0)⟩
  · rename_i known
    have absent : k.spiInterrupted = true ∨ ¬ d.spiDevice = true := by tauto
    exact transfer_answers absent a _

/-- A call that does not come to `spi_sync` does not depend on its answers. -/
theorem spikeCall_answer {e : SpikeEvent} (none : spikeCommand d e = none) (a : SyncReply) :
    spikeCall d (a.answer e) = spikeCall d e := by
  cases e with
  | openFile | probe | remove => rfl
  | read file buffIsNull count k =>
      simp only [spikeCommand] at none
      split at none
      swap
      · cases none
      rename_i ends
      change Spike.spikeRead d (a.answers k) file buffIsNull count =
        Spike.spikeRead d k file buffIsNull count
      unfold Spike.spikeRead
      split
      · rfl
      split
      · rfl
      by_cases fop : k.fopInterrupted = true
      · rw [if_pos fop, if_pos (show (a.answers k).fopInterrupted = true from fop)]
      · have absent : k.spiInterrupted = true ∨ ¬ d.spiDevice = true := by tauto
        rw [if_neg fop, if_neg (show ¬ (a.answers k).fopInterrupted = true from fop),
          Spike.spikeDoOneMessage, Spike.spikeDoOneMessage, (transfer_answers absent a _).1]
        rfl
  | ioctl file cmd arg k =>
      simp only [spikeCommand] at none
      split at none
      · cases none
      rename_i ends
      change Spike.spikeIoctl d (a.answers k) cmd arg = Spike.spikeIoctl d k cmd arg
      unfold Spike.spikeIoctl
      split
      · rename_i isSet
        obtain ⟨same, fails⟩ := config_answers (fun all => ends ⟨isSet, all⟩) a
        rw [same]
        dsimp only
        rw [if_pos fails, if_pos fails]
      · rfl

/-- A pulse with the bytes of a command, or the first of them. -/
def PulseView.ShowsCommand (pulse : PulseView) (command : List Byte) : Prop :=
  pulse.1.map Prod.snd <+: command.map (BitVec.setWidth 32)

theorem call_follows (h : Idle lm74Device s.channel) (e : SensorCall) :
    (s.call e).1 = lineCall s.driver e ∧ Idle lm74Device (s.call e).2 ∧
    (s.call e).2.registers.strays = s.channel.registers.strays ∧
    ∃ pulses : List PulseView, (s.call e).2.finished = s.channel.finished ++ pulses ∧
      List.Forall₂ PulseView.ShowsCommand pulses (spikeCommand s.driver e.1).toList := by
  rw [SensorStack.call, lineCall]
  cases isCommand : spikeCommand s.driver e.1 with
  | none =>
      exact ⟨(spikeCall_answer isCommand _).symm, h, rfl, [], (List.append_nil _).symm, .nil⟩
  | some command =>
      obtain ⟨some, short⟩ := spikeCommand_length isCommand
      obtain ⟨reply, idle, ⟨pulse, finished, shows⟩, strays⟩ :=
        spiSync_spec (r := e.2) h some short
      dsimp only
      rw [reply]
      exact ⟨rfl, idle, strays, [pulse], finished, .cons shows .nil⟩

/-- Whatever calls come and whatever the line answers: the calls of the driver on its controller
return what they return on the line itself, and their commands pass on the line, each in a pulse of
its own, in their order. -/
theorem sensor_calls_follow_line (h : Idle lm74Device s.channel) (es : List SensorCall) :
    (s.calls es).1 = (lineCalls s.driver es).1 ∧
    (s.calls es).2.driver = (lineCalls s.driver es).2 ∧
    Idle lm74Device (s.calls es).2.channel ∧
    (s.calls es).2.channel.registers.strays = s.channel.registers.strays ∧
    ∃ pulses : List PulseView, (s.calls es).2.channel.finished = s.channel.finished ++ pulses ∧
      List.Forall₂ PulseView.ShowsCommand pulses (lineCommands s.driver es) := by
  induction es generalizing s with
  | nil => exact ⟨rfl, rfl, h, rfl, [], (List.append_nil _).symm, .nil⟩
  | cons e es ih =>
      obtain ⟨outcome, idle, strays, pulses, finished, shows⟩ := call_follows h e
      obtain ⟨outcomes, driver, idle', strays', pulses', finished', shows'⟩ :=
        ih (s := ⟨(s.call e).1.driver, (s.call e).2⟩) idle
      rw [outcome] at outcomes driver idle' strays' finished' shows'
      rw [SensorStack.calls, lineCalls, lineCommands]
      dsimp only
      rw [outcome]
      refine ⟨congrArg _ outcomes, driver, idle', strays'.trans strays, pulses ++ pulses', ?_,
        List.rel_append shows shows'⟩
      rw [finished', finished, List.append_assoc]

/-- The second byte of a reading is late. -/
def lateByte : LineReplies := ⟨fun _ => true, fun i => i < 1, fun _ => 0x0B⟩

/-- The reading succeeds with one byte. -/
theorem sensor_calls_follow_line_lateByte :
    (SensorStack.calls ⟨Spike.spikeInit, newChannel lm74Device⟩ [(.probe, lateByte),
      (.openFile (.granted []), lateByte), (.read 0 false 2 (.granted []), lateByte)]).1.map
        Spike.Outcome.copied = [[], [], [0x0B]] := by
  rw [(sensor_calls_follow_line (s := ⟨Spike.spikeInit, newChannel lm74Device⟩)
    (idle_newChannel (by decide)) _).1]
  decide

end calls

end Gumstix.Mcspi
