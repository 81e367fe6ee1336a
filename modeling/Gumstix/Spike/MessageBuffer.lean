import Gumstix.Library.DecimalText
import Gumstix.Spike.State

/-!
# The message buffer

A read whose transfer succeeds makes the receive buffer of 4 bytes the user buffer: the
buffer of 128 bytes is lost, later texts overflow and the exit frees the receive buffer twice.
-/
namespace Gumstix.Spike
open Gumstix.Synchronization (Word)
open EventMachine DecimalText

/-- The user buffer is null, or the buffer of an open that is not the receive buffer. -/
def UserBuffOwn (d : SpikeDriver) : Prop :=
  ∀ b, d.userBuff = some b →
    b ≠ d.rxBuff ∧ d.heap.Live b ∧ (d.bytes b).length = userBuffSize

/-- A text that a call writes fits into the user buffer with its final zero. -/
def TextFits (d : SpikeDriver) (e : SpikeEvent) : Prop :=
  ∀ text, (spikeCall d e).text = some text →
    ∃ b, d.userBuff = some b ∧ (cString text).length ≤ (d.bytes b).length

/-- The exit frees every buffer once. -/
def FreedByExit (d : SpikeDriver) : Prop :=
  ∀ b, b < (spikeExit d).heap.fresh → (spikeExit d).heap.FreedOnce b

/-- The transfer of the call succeeds. -/
def TransferSucceeds (d : SpikeDriver) (k : SpikeReplies) : Prop :=
  k.spiInterrupted = false ∧ d.spiDevice = true ∧ k.spiSync = 0

/-- No transfer of a read succeeds. -/
def NoReadSucceeds (d : SpikeDriver) : SpikeEvent → Prop
  | .read file buffIsNull _ k =>
      ¬ (buffIsNull = false ∧ d.offset file = 0 ∧ k.fopInterrupted = false ∧
        TransferSucceeds d k)
  | _ => True

instance (d : SpikeDriver) (k : SpikeReplies) : Decidable (TransferSucceeds d k) :=
  inferInstanceAs (Decidable (_ ∧ _))

instance (d : SpikeDriver) : (e : SpikeEvent) → Decidable (NoReadSucceeds d e)
  | .read _ _ _ _ => inferInstanceAs (Decidable (¬ (_ ∧ _)))
  | .openFile _ | .ioctl _ _ _ _ | .probe | .remove => .isTrue trivial

theorem length_toString_byte (b : Byte) : (toString b.toNat).length ≤ 3 :=
  (Nat.length_repr_le_iff (by decide)).mpr (by omega)

theorem length_cString (text : String) : (cString text).length = text.length + 1 := by
  rw [cString, List.length_append, List.length_map, String.length_toList, List.length_singleton]

theorem transfer_status_length (d : SpikeDriver) (k : SpikeReplies) (command : List Byte) :
    (toString (transfer d k command).2).length ≤ 11 := by
  rw [transfer]
  split_ifs
  · exact length_toString_le (i := -erestartsys) (by decide) (by decide)
  · exact length_toString_toInt _
  · exact length_toString_le (i := -enodev) (by decide) (by decide)

theorem length_append_le {a b : String} {m n : Nat} (first : a.length ≤ m)
    (second : b.length ≤ n) : (a ++ b).length ≤ m + n := by
  rw [String.length_append]
  exact Nat.add_le_add first second

theorem cString_fits {text : String} (short : text.length ≤ 127) :
    (cString text).length ≤ userBuffSize := by
  rw [length_cString]
  exact Nat.succ_le_succ short

theorem receivedText_fits (messageStatus : Word) (rx : List Byte) :
    (cString (receivedText messageStatus.toInt rx)).length ≤ userBuffSize := by
  have received : ∀ i, (toString (rx.getD i 0).toNat).length ≤ 3 :=
    fun i => length_toString_byte _
  have label : "Status: ".length ≤ 8 := by decide
  have heading : "\nRX: ".length ≤ 5 := by decide
  have blank : " ".length ≤ 1 := by decide
  have newline : "\n".length ≤ 1 := by decide
  refine cString_fits (Nat.le_trans (m := 40) ?_ (by decide))
  have status := length_append_le label (length_toString_toInt messageStatus)
  have first := length_append_le (length_append_le status heading) (received 0)
  have second := length_append_le (length_append_le first blank) (received 1)
  have third := length_append_le (length_append_le second blank) (received 2)
  exact length_append_le (length_append_le (length_append_le third blank) (received 3)) newline

/-- A label, the number of an error and a line feed. -/
theorem failureText_fits {label : String} {status : Int} (short : (toString status).length ≤ 11)
    (labelShort : label.length ≤ 42) :
    (cString (label ++ toString status ++ "\n")).length ≤ userBuffSize := by
  have newline : "\n".length ≤ 1 := by decide
  refine cString_fits (Nat.le_trans (m := 54) ?_ (by decide))
  exact length_append_le (length_append_le labelShort short) newline

theorem doOneMessageFailed_fits {status : Int} (short : (toString status).length ≤ 11) :
    (cString (doOneMessageFailed status)).length ≤ userBuffSize :=
  failureText_fits short (by decide)

theorem lm74ConfigMessageFailed_fits {status : Int} (short : (toString status).length ≤ 11) :
    (cString (lm74ConfigMessageFailed status)).length ≤ userBuffSize :=
  failureText_fits short (by decide)

/-- The pointers, the allocations and the sizes of two drivers are the same. -/
structure SameBuffers (d d' : SpikeDriver) : Prop where
  tx : d'.txBuff = d.txBuff
  rx : d'.rxBuff = d.rxBuff
  user : d'.userBuff = d.userBuff
  files : d'.openFiles = d.openFiles
  fresh : d'.heap.fresh = d.heap.fresh
  frees : ∀ b, d'.heap.frees b = d.heap.frees b
  size : ∀ b, (d'.bytes b).length = (d.bytes b).length

theorem SameBuffers.refl (d : SpikeDriver) : SameBuffers d d :=
  ⟨rfl, rfl, rfl, rfl, rfl, fun _ => rfl, fun _ => rfl⟩

theorem SameBuffers.trans {d d' d'' : SpikeDriver} (h : SameBuffers d d')
    (h' : SameBuffers d' d'') : SameBuffers d d'' where
  tx := h'.tx.trans h.tx
  rx := h'.rx.trans h.rx
  user := h'.user.trans h.user
  files := h'.files.trans h.files
  fresh := h'.fresh.trans h.fresh
  frees b := (h'.frees b).trans (h.frees b)
  size b := (h'.size b).trans (h.size b)

section buffers
variable (d : SpikeDriver) (k : SpikeReplies)

theorem sameBuffers_write (block : Nat) (bytes : List Byte) :
    SameBuffers d (d.write block bytes) where
  tx := rfl
  rx := rfl
  user := rfl
  files := rfl
  fresh := BlockHeap.fresh_update _ _
  frees b := BlockHeap.frees_update _ _ _
  size b := by
    change ((d.heap.update block (overlay bytes)).content b |>.getD []).length = _
    by_cases same : block = b
    · subst same
      rw [BlockHeap.content_update_self, SpikeDriver.bytes]
      cases d.heap.content block with
      | none => rfl
      | some content => exact length_overlay bytes content
    · rw [BlockHeap.content_update_of_ne same, SpikeDriver.bytes]

theorem sameBuffers_writeUser (bytes : List Byte) : SameBuffers d (d.writeUser bytes) := by
  rw [SpikeDriver.writeUser]
  split
  · exact .refl d
  · exact sameBuffers_write d _ bytes

theorem sameBuffers_transfer (command : List Byte) :
    SameBuffers d (transfer d k command).1 := by
  rw [transfer]
  split_ifs
  · exact .refl d
  · exact ((sameBuffers_write d _ _).trans (sameBuffers_write _ _ _)).trans
      (sameBuffers_write _ _ _)
  · exact .refl d

theorem sameBuffers_readCopy (file : Nat) (count : Word) (text : Option String) :
    SameBuffers d (readCopy d k file count text).driver := by
  rw [readCopy]
  refine SameBuffers.trans ?_ (sameBuffers_write _ _ _)
  refine SameBuffers.trans ?_ (sameBuffers_writeUser _ _)
  by_cases failed : k.notCopied ≠ 0
  · rw [if_pos failed]
    exact .refl d
  · rw [if_neg failed]
    exact ⟨rfl, rfl, rfl, rfl, rfl, fun _ => rfl, fun _ => rfl⟩

theorem sameBuffers_ioctl (cmd arg : Word) : SameBuffers d (spikeIoctl d k cmd arg).driver := by
  rw [spikeIoctl]
  split_ifs
  · refine SameBuffers.trans ?_ (sameBuffers_writeUser _ _)
    rw [spikeDoOneLm74ConfigMessage]
    split_ifs
    · exact .refl d
    · exact sameBuffers_transfer d k _
  · exact .refl d

theorem transfer_status_eq_zero (command : List Byte) :
    (transfer d k command).2 = 0 ↔ TransferSucceeds d k := by
  have zero : k.spiSync.toInt = 0 ↔ k.spiSync = 0 := BitVec.toInt_inj (y := 0#32)
  rw [transfer, TransferSucceeds]
  split_ifs with interrupted device
  · simp [interrupted, erestartsys]
  · simp [interrupted, device, zero]
  · simp [device, enodev]

/-- A read whose transfer does not succeed keeps the buffers. -/
theorem sameBuffers_read {file : Nat} {buffIsNull : Bool} (count : Word)
    (fails : NoReadSucceeds d (.read file buffIsNull count k)) :
    SameBuffers d (spikeRead d k file buffIsNull count).driver := by
  simp only [spikeRead]
  split_ifs with isNull read interrupted failed
  · exact .refl d
  · exact .refl d
  · exact .refl d
  · refine SameBuffers.trans ?_ (sameBuffers_readCopy _ _ _ _ _)
    exact (sameBuffers_transfer d k _).trans (sameBuffers_writeUser _ _)
  · refine absurd ⟨Bool.not_eq_true _ ▸ isNull, Nat.eq_zero_of_not_pos read,
      Bool.not_eq_true _ ▸ interrupted, ?_⟩ fails
    exact (transfer_status_eq_zero d k _).mp (not_not.mp failed)

theorem transfer_of_succeeds (command : List Byte) (sent : TransferSucceeds d k) :
    transfer d k command =
      (((d.write d.txBuff command).write d.rxBuff (List.replicate spiBuffSize 0)).write d.rxBuff
        (k.received.take command.length), 0) := by
  rw [transfer, if_neg (by rw [sent.1]; exact Bool.false_ne_true), if_pos sent.2.1, sent.2.2]
  rfl

theorem spikeRead_of_succeeds {file : Nat} (count : Word) (unread : d.offset file = 0)
    (notInterrupted : k.fopInterrupted = false) (sent : TransferSucceeds d k) :
    spikeRead d k file false count =
      readCopy { (spikeDoOneMessage d k).1 with
        userBuff := some (spikeDoOneMessage d k).1.rxBuff } k file count none := by
  have status : (spikeDoOneMessage d k).2 = 0 := (transfer_status_eq_zero d k _).mpr sent
  simp only [spikeRead, unread, notInterrupted, status, Nat.lt_irrefl, Bool.false_eq_true,
    ne_eq, not_true_eq_false, if_false]

/-- A read whose transfer succeeds takes the receive buffer. -/
theorem read_aliases {file : Nat} {buffIsNull : Bool} {count : Word}
    (succeeds : ¬ NoReadSucceeds d (.read file buffIsNull count k)) :
    (spikeRead d k file buffIsNull count).driver.userBuff =
      some (spikeRead d k file buffIsNull count).driver.rxBuff := by
  obtain ⟨rfl, unread, notInterrupted, sent⟩ := not_not.mp succeeds
  have same := sameBuffers_readCopy { (spikeDoOneMessage d k).1 with
    userBuff := some (spikeDoOneMessage d k).1.rxBuff } k file count none
  rw [spikeRead_of_succeeds d k count unread notInterrupted sent, same.user, same.rx]

end buffers

/-- All blocks are live; beyond those of `spike_init` there is the user buffer at most. -/
structure BuffersOwned (d : SpikeDriver) : Prop where
  tx : d.txBuff = spikeInit.txBuff
  rx : d.rxBuff = spikeInit.rxBuff
  start : spikeInit.heap.fresh ≤ d.heap.fresh
  live : ∀ b, b < d.heap.fresh → d.heap.Live b
  user : ∀ b, d.userBuff = some b → spikeInit.heap.fresh ≤ b ∧ b < d.heap.fresh ∧
    (d.bytes b).length = userBuffSize
  only : ∀ b, spikeInit.heap.fresh ≤ b → b < d.heap.fresh → d.userBuff = some b
  opened : 0 < d.openFiles → d.userBuff.isSome = true

theorem spikeInit_buffersOwned : BuffersOwned spikeInit where
  tx := rfl
  rx := rfl
  start := Nat.le_refl _
  live := by decide
  user _ pointed := nomatch pointed
  only _ user small := absurd small (Nat.not_lt.mpr user)
  opened files := absurd files (Nat.lt_irrefl 0)

section steps
variable {d : SpikeDriver}

theorem BuffersOwned.same (h : BuffersOwned d) {d' : SpikeDriver} (same : SameBuffers d d') :
    BuffersOwned d' where
  tx := same.tx.trans h.tx
  rx := same.rx.trans h.rx
  start := same.fresh ▸ h.start
  live b small := (same.frees b).trans (h.live b (same.fresh ▸ small))
  user b pointed := by
    obtain ⟨user, small, size⟩ := h.user b (same.user ▸ pointed)
    exact ⟨user, same.fresh ▸ small, (same.size b).trans size⟩
  only b user small := same.user ▸ h.only b user (same.fresh ▸ small)
  opened files := same.user ▸ h.opened (same.files ▸ files)

/-- A new file where there is a user buffer. -/
theorem BuffersOwned.newFile (h : BuffersOwned d) (buffer : d.userBuff.isSome = true) :
    BuffersOwned d.newFile :=
  ⟨h.tx, h.rx, h.start, h.live, h.user, h.only, fun _ => buffer⟩

/-- The first open that finds memory. -/
theorem BuffersOwned.allocate (h : BuffersOwned d) (none : d.userBuff = none) :
    BuffersOwned
      { d with userBuff := some d.heap.fresh, heap := kmalloc d.heap userBuffSize } := by
  have noUser : ∀ b, spikeInit.heap.fresh ≤ b → ¬ b < d.heap.fresh := by
    intro b user small
    exact absurd ((h.only b user small).symm.trans none) (by simp)
  constructor
  · exact h.tx
  · exact h.rx
  · exact Nat.le_trans h.start (Nat.le_of_lt (by simp [kmalloc]))
  · intro b small
    change b < (d.heap.alloc _).fresh at small
    rw [BlockHeap.fresh_alloc] at small
    rcases Nat.lt_succ_iff_lt_or_eq.mp small with old | rfl
    · exact (h.live b old).alloc _
    · exact BlockHeap.live_alloc_fresh _
  · intro b pointed
    obtain rfl := Option.some.inj pointed
    refine ⟨h.start, by simp [kmalloc], ?_⟩
    change (((d.heap.alloc _).content d.heap.fresh).getD []).length = _
    rw [BlockHeap.content_alloc_fresh]
    exact List.length_replicate
  · intro b user small
    change b < (d.heap.alloc _).fresh at small
    rw [BlockHeap.fresh_alloc] at small
    have := noUser b user
    exact congrArg some (by omega)
  · intro _
    rfl

theorem open_buffersOwned (h : BuffersOwned d) (k : SpikeReplies) :
    BuffersOwned (spikeOpen d k).driver := by
  rw [spikeOpen]
  split
  · exact h
  · split
    · next b buffer => exact h.newFile (by rw [buffer]; rfl)
    · next buffer =>
        split
        · exact (h.allocate buffer).newFile rfl
        · exact h

theorem call_buffersOwned (d : SpikeDriver) (e : SpikeEvent) (h : BuffersOwned d)
    (_ : spikeEnabled d e) (fails : NoReadSucceeds d e) :
    BuffersOwned (spikeCall d e).driver := by
  cases e with
  | openFile k => exact open_buffersOwned h k
  | read file buffIsNull count k => exact h.same (sameBuffers_read d k count fails)
  | ioctl file cmd arg k => exact h.same (sameBuffers_ioctl d k cmd arg)
  | probe | remove =>
      exact h.same ⟨rfl, rfl, rfl, rfl, rfl, fun _ => rfl, fun _ => rfl⟩

theorem BuffersOwned.userBuffOwn (h : BuffersOwned d) : UserBuffOwn d := by
  intro b pointed
  obtain ⟨user, small, size⟩ := h.user b pointed
  refine ⟨?_, h.live b small, size⟩
  rintro rfl
  rw [h.rx] at user
  exact absurd user (by decide)

theorem open_text (d : SpikeDriver) (k : SpikeReplies) : (spikeOpen d k).text = none := by
  rw [spikeOpen]
  split
  · rfl
  · split
    · rfl
    · split <;> rfl

/-- Every text that a call writes has a length that the user buffer can hold. -/
theorem text_short {e : SpikeEvent} {text : String} (written : (spikeCall d e).text = some text) :
    (cString text).length ≤ userBuffSize := by
  cases e with
  | openFile k => exact absurd ((open_text d k).symm.trans written) (by simp)
  | read file buffIsNull count k =>
      simp only [spikeCall, spikeRead] at written
      split_ifs at written
      · obtain rfl := Option.some.inj written
        exact doOneMessageFailed_fits (transfer_status_length d k _)
      · cases written
  | ioctl file cmd arg k =>
      simp only [spikeCall, spikeIoctl] at written
      split_ifs at written
      · obtain rfl := Option.some.inj written
        refine lm74ConfigMessageFailed_fits ?_
        rw [spikeDoOneLm74ConfigMessage]
        split_ifs
        · exact length_toString_le (i := -enotty) (by decide) (by decide)
        · exact transfer_status_length d k _
      · obtain rfl := Option.some.inj written
        exact receivedText_fits _ _
  | probe | remove => cases written

theorem textFits_of_owned (h : BuffersOwned d) {e : SpikeEvent} (enabled : spikeEnabled d e) :
    TextFits d e := by
  intro text written
  have fits := text_short written
  have files : 0 < d.openFiles := by
    cases e with
    | read | ioctl => exact Nat.zero_lt_of_lt enabled
    | openFile k => exact absurd ((open_text d k).symm.trans written) (by simp)
    | probe | remove => cases written
  obtain ⟨b, pointed⟩ := Option.isSome_iff_exists.mp (h.opened files)
  exact ⟨b, pointed, (h.user b pointed).2.2.symm ▸ fits⟩

theorem BuffersOwned.freedByExit (h : BuffersOwned d) : FreedByExit d := by
  intro b small
  have fresh : (spikeExit d).heap.fresh = d.heap.fresh :=
    (BlockHeap.fresh_freeAt _).trans ((BlockHeap.fresh_free _).trans (BlockHeap.fresh_free _))
  have live := h.live b (fresh ▸ small)
  have apart : d.txBuff ≠ d.rxBuff := by
    rw [h.tx, h.rx]
    decide
  have notUser : ∀ i, i < spikeInit.heap.fresh → d.userBuff ≠ some i :=
    fun i early pointed => absurd (h.user i pointed).1 (Nat.not_le.mpr early)
  have txEarly : d.txBuff < spikeInit.heap.fresh := by
    rw [h.tx]
    decide
  have rxEarly : d.rxBuff < spikeInit.heap.fresh := by
    rw [h.rx]
    decide
  change (((d.heap.free d.txBuff).free d.rxBuff).freeAt d.userBuff).FreedOnce b
  by_cases isTx : d.txBuff = b
  · subst isTx
    exact (live.freedOnce.free apart.symm).freeAt (notUser _ txEarly)
  · by_cases isRx : d.rxBuff = b
    · subst isRx
      exact ((live.free apart).freedOnce).freeAt (notUser _ rxEarly)
    · have user : spikeInit.heap.fresh ≤ b := by
        rw [h.tx] at isTx
        rw [h.rx] at isRx
        change 2 ≤ b
        change 0 ≠ b at isTx
        change 1 ≠ b at isRx
        omega
      rw [h.only b user (fresh ▸ small)]
      exact ((live.free isTx).free isRx).freedOnce

end steps

/-- Along every run with the exit after it, the user buffer is the one of an open, the texts
fit and every buffer is freed once, exactly if no transfer of a read succeeds. -/
theorem message_buffer_iff {es : List SpikeEvent} (admitted : spikeMachine.Admits spikeInit es) :
    (spikeMachine.Always UserBuffOwn spikeInit es ∧
        spikeMachine.EveryStep TextFits spikeInit es ∧
          FreedByExit (spikeMachine.run spikeInit es)) ↔
      spikeMachine.EveryStep NoReadSucceeds spikeInit es := by
  have aliased : ∀ d e, BuffersOwned d → spikeEnabled d e →
      UserBuffOwn (spikeCall d e).driver → NoReadSucceeds d e := by
    intro d e _ _ law
    cases e with
    | read file buffIsNull count k =>
        by_contra succeeds
        exact (law _ (read_aliases d k succeeds)).1 rfl
    | openFile | ioctl | probe | remove => trivial
  have own : spikeMachine.Always UserBuffOwn spikeInit es ↔
      spikeMachine.EveryStep NoReadSucceeds spikeInit es :=
    always_iff_everyStep (fun _ h => h.userBuffOwn) call_buffersOwned aliased
      spikeInit_buffersOwned admitted
  refine ⟨fun law => own.mp law.1, fun fails => ⟨own.mpr fails, ?_, ?_⟩⟩
  · exact everyStep_of_everyStep call_buffersOwned
      (fun _ _ h enabled _ => textFits_of_owned h enabled) spikeInit_buffersOwned admitted fails
  · exact (always_of_everyStep call_buffersOwned spikeInit_buffersOwned admitted
      fails).last.freedByExit

/-- A command that succeeds, and then a command and a read whose transfers fail. -/
def failedReadRun : List SpikeEvent :=
  [.probe, .openFile (.granted []),
    .ioctl 0 lm74IoctlSetMode contconvMode (.granted [0xFF, 0xFF, 0xFF, 0xFF]),
    .ioctl 0 lm74IoctlSetMode contconvMode { SpikeReplies.granted [] with spiSync := -5 },
    .read 0 false 2 { SpikeReplies.granted [] with spiSync := -5 }]

theorem message_buffer_iff_failedRead :
    spikeMachine.Always UserBuffOwn spikeInit failedReadRun ∧
      spikeMachine.EveryStep TextFits spikeInit failedReadRun ∧
        FreedByExit (spikeMachine.run spikeInit failedReadRun) := by
  have admitted : spikeMachine.Admits spikeInit failedReadRun := by decide +kernel
  exact (message_buffer_iff admitted).mpr (by decide +kernel)

theorem message_buffer_refuted :
    ¬ ∀ es : List SpikeEvent, spikeMachine.Admits spikeInit es →
      spikeMachine.Always UserBuffOwn spikeInit es ∧
        spikeMachine.EveryStep TextFits spikeInit es ∧
          FreedByExit (spikeMachine.run spikeInit es) := by
  intro every
  have law := every [.probe, .openFile (.granted []), .read 0 false 2 (.granted [0x0B, 0xA0])]
    (by decide +kernel)
  -- The receive buffer is freed twice.
  have freed : (spikeExit (spikeMachine.run spikeInit [.probe, .openFile (.granted []),
      .read 0 false 2 (.granted [0x0B, 0xA0])])).heap.frees 1 = some 2 := by decide +kernel
  have once := law.2.2 1 (by decide +kernel)
  exact absurd (freed.symm.trans once) (by decide)

end Gumstix.Spike
