import Gumstix.CanSpi.CallSpecs

/-!
# The user buffer

The first open allocates the buffer that all files share; every close frees it and keeps the
pointer, and the exit of the module frees it once more.
-/
namespace Gumstix.CanSpi
open Gumstix.Synchronization (Word)
open EventMachine

variable {ι : Type*} [DecidableEq ι]

/-- The pointer is null or points to a buffer that has not been freed. -/
def PointerValid (s : CallState ι) : Prop :=
  ∀ b, s.driver.userBuff = some b → s.driver.heap.Live b

/-- A write uses such a buffer. -/
def WritesLive (s : CallState ι) : CallEvent ι → Prop
  | .statement p _ => ∀ count, s.phase p = .writing count →
      ∃ b, s.driver.userBuff = some b ∧ s.driver.heap.Live b
  | _ => True

/-- After the exit every buffer that an open has allocated is freed once. The exit is taken after
any run, with files open too, although the `owner` of the operations keeps a module with open
files. -/
def FreedByExit (d : Driver) : Prop :=
  ∀ b, canSpiInit.heap.fresh ≤ b → b < (canSpiExit d).heap.fresh →
    (canSpiExit d).heap.FreedOnce b

def NotClosed (_ : CallState ι) (e : CallEvent ι) : Prop := e ≠ .close

instance (s : CallState ι) (e : CallEvent ι) : Decidable (NotClosed s e) :=
  inferInstanceAs (Decidable (_ ≠ _))

/-- Places of a process that has seen the buffer. -/
def Phase.buffered : Phase → Bool
  | .writeWaiting _ | .writing _ => true
  | .openReleasing status => status = 0
  | _ => false

theorem wakeUp_buffered (phase : Phase) : phase.wakeUp.buffered = phase.buffered := by
  cases phase <;> rfl

/-- One buffer at most has been allocated, and then it is live and the one pointed to. -/
structure BufferKept (s : CallState ι) : Prop where
  tx : s.driver.txBuff < canSpiInit.heap.fresh
  start : canSpiInit.heap.fresh ≤ s.driver.heap.fresh
  live : ∀ b, s.driver.userBuff = some b → canSpiInit.heap.fresh ≤ b ∧ s.driver.heap.Live b
  only : ∀ b, canSpiInit.heap.fresh ≤ b → b < s.driver.heap.fresh → s.driver.userBuff = some b
  opened : 0 < s.driver.openFiles → s.driver.userBuff.isSome = true
  seen : ∀ p, (s.phase p).buffered = true → s.driver.userBuff.isSome = true

theorem noCall_bufferKept (ι : Type*) : BufferKept (noCall ι) where
  tx := show canSpiInit.txBuff < canSpiInit.heap.fresh by decide
  start := Nat.le_refl _
  live _ pointed := nomatch pointed
  only _ user small := absurd small (Nat.not_lt.mpr user)
  opened files := absurd files (Nat.lt_irrefl 0)
  seen _ buffered := nomatch buffered

/-- What an open makes of the buffer. -/
inductive OpenedBuffer (d : Driver) (k : Replies) : Driver × Int → Prop
  | allocates (none : d.userBuff = none) : OpenedBuffer d k
      ({ d with userBuff := some d.heap.fresh, heap := d.heap.alloc userBuffSize }, 0)
  | fails : OpenedBuffer d k (d, -enomem)
  | shares (b : Nat) (some : d.userBuff = some b) : OpenedBuffer d k (d, 0)

theorem openBody_openedBuffer (d : Driver) (k : Replies) : OpenedBuffer d k (openBody d k) := by
  rw [openBody]
  split
  · next b found => exact .shares b found
  · next none =>
      split
      · exact .allocates none
      · exact .fails

/-- Every statement but that of an open keeps the buffer. -/
theorem statement_buffer (d : Driver) (k : Replies) {phase : Phase} (other : phase ≠ .opening) :
    (statement d k phase).1.userBuff = d.userBuff ∧ (statement d k phase).1.heap = d.heap ∧
      (statement d k phase).1.txBuff = d.txBuff := by
  cases phase <;> grind [statement, down, up, writeBody]

theorem statement_openFiles (d : Driver) (k : Replies) (phase : Phase) :
    (statement d k phase).1.openFiles =
      if phase = .openReleasing 0 then d.openFiles + 1 else d.openFiles := by
  cases phase <;> grind [statement, down, up, writeBody, openBody]

theorem statement_buffered (d : Driver) (k : Replies) {phase : Phase} (other : phase ≠ .opening)
    (buffered : (goesTo (statement d k phase).2).buffered = true) : phase.buffered = true := by
  cases phase <;> grind [statement, down, goesTo, Phase.buffered]

/-- Only a write on an open file has to find the buffer. -/
theorem startCall_buffered {d : Driver} {c : Call} (onFile : c.onFile d)
    (buffered : (goesTo (startCall d c).2).buffered = true) : 0 < d.openFiles := by
  cases c with
  | openFile => cases buffered
  | read | write | ioctl => exact onFile

section steps
variable {s : CallState ι}

omit [DecidableEq ι] in
theorem BufferKept.same (h : BufferKept s) {t : CallState ι}
    (pointer : t.driver.userBuff = s.driver.userBuff) (heap : t.driver.heap = s.driver.heap)
    (tx : t.driver.txBuff = s.driver.txBuff)
    (files : 0 < t.driver.openFiles → 0 < s.driver.openFiles ∨ s.driver.userBuff.isSome = true)
    (seen : ∀ p, (t.phase p).buffered = true → s.driver.userBuff.isSome = true) :
    BufferKept t where
  tx := tx ▸ h.tx
  start := heap ▸ h.start
  live b pointed := heap ▸ h.live b (pointer ▸ pointed)
  only b user small := pointer ▸ h.only b user (heap ▸ small)
  opened now := pointer ▸ (files now).elim h.opened id
  seen p buffered := pointer ▸ seen p buffered

theorem opening_bufferKept {p : ι} {k : Replies} (h : BufferKept s)
    (here : s.phase p = .opening) : BufferKept (callNext s (.statement p k)) := by
  have goes : statement s.driver k (s.phase p) =
      ((openBody s.driver k).1, .inl (.openReleasing (openBody s.driver k).2)) := by
    rw [here]
    rfl
  have driver : (callNext s (.statement p k)).driver = (openBody s.driver k).1 := by
    rw [callNext, proceed_driver, goes]
  have phase : ∀ q, ((callNext s (.statement p k)).phase q).buffered = true →
      (s.phase q).buffered = true ∨ (openBody s.driver k).2 = 0 := by
    intro q buffered
    by_cases same : q = p
    · subst same
      rw [statement_own, goes] at buffered
      exact .inr (of_decide_eq_true buffered)
    · rw [statement_others p k same] at buffered
      exact .inl buffered
  cases opened : openBody s.driver k with
  | mk d status =>
      rw [opened] at driver phase
      have buffer := openBody_openedBuffer s.driver k
      rw [opened] at buffer
      cases buffer with
      | allocates none =>
          have fresh : ∀ b, canSpiInit.heap.fresh ≤ b → ¬ b < s.driver.heap.fresh := by
            intro b user small
            exact absurd ((h.only b user small).symm.trans none) (by simp)
          constructor
          · rw [driver]
            exact h.tx
          · rw [driver, BlockHeap.fresh_alloc]
            exact Nat.le_succ_of_le h.start
          · intro b pointed
            rw [driver] at pointed ⊢
            obtain rfl := Option.some.inj pointed
            exact ⟨h.start, BlockHeap.live_alloc_fresh _⟩
          · intro b user small
            rw [driver] at small ⊢
            rw [BlockHeap.fresh_alloc] at small
            have := fresh b user
            exact congrArg some (by omega)
          · intro _
            rw [driver]
            rfl
          · intro _ _
            rw [driver]
            rfl
      | fails =>
          refine h.same (driver ▸ rfl) (driver ▸ rfl) (driver ▸ rfl)
            (fun now => .inl (by rwa [driver] at now)) fun q buffered => ?_
          exact (phase q buffered).elim (h.seen q) fun zero =>
            absurd zero (show ¬ -enomem = 0 by decide)
      | shares b found =>
          exact h.same (driver ▸ rfl) (driver ▸ rfl) (driver ▸ rfl)
            (fun now => .inl (by rwa [driver] at now)) fun _ _ => by rw [found]; rfl

theorem callNext_bufferKept (s : CallState ι) (e : CallEvent ι) (h : BufferKept s)
    (enabled : callEnabled s e) (notClosed : NotClosed s e) : BufferKept (callNext s e) := by
  cases e with
  | call p c =>
      obtain ⟨rxBuf, len, speed, bits, starts⟩ := startCall_eq s.driver c
      have driver : (callNext s (.call p c)).driver = (startCall s.driver c).1 :=
        proceed_driver _
      rw [starts] at driver
      refine h.same (driver ▸ rfl) (driver ▸ rfl) (driver ▸ rfl)
        (fun now => .inl (by rwa [driver] at now)) fun q buffered => ?_
      rcases callNext_entered wakeUp_buffered buffered with
        ⟨was, -⟩ | ⟨c', called, enters⟩ | ⟨k, no, -⟩
      · exact h.seen q was
      · cases called
        exact h.opened (startCall_buffered enabled.2 enters)
      · cases no
  | statement p k =>
      by_cases here : s.phase p = .opening
      · exact opening_bufferKept h here
      · obtain ⟨pointer, heap, tx⟩ := statement_buffer s.driver k here
        have driver : (callNext s (.statement p k)).driver =
            (statement s.driver k (s.phase p)).1 := proceed_driver _
        refine h.same (driver ▸ pointer) (driver ▸ heap) (driver ▸ tx) (fun now => ?_)
          fun q buffered => ?_
        · rw [driver, statement_openFiles] at now
          split at now
          · next released => exact .inr (h.seen p (by rw [released]; rfl))
          · exact .inl now
        · rcases callNext_entered wakeUp_buffered buffered with
            ⟨was, -⟩ | ⟨c, no, -⟩ | ⟨k', took, enters⟩
          · exact h.seen q was
          · cases no
          · cases took
            exact h.seen p (statement_buffered _ _ here enters)
  | close => exact absurd rfl notClosed
  | complete | signal | probe | remove =>
      refine h.same rfl rfl rfl .inl fun q buffered => ?_
      rcases callNext_entered wakeUp_buffered buffered with ⟨was, -⟩ | ⟨c, no, -⟩ | ⟨k, no, -⟩
      · exact h.seen q was
      · cases no
      · cases no

theorem notClosed_of_pointerValid (s : CallState ι) (e : CallEvent ι) (h : BufferKept s)
    (enabled : callEnabled s e) (law : PointerValid (callNext s e)) : NotClosed s e := by
  rintro rfl
  obtain ⟨b, pointed⟩ := Option.isSome_iff_exists.mp (h.opened enabled)
  have live := law b pointed
  have freed : (callNext s .close).driver.heap = s.driver.heap.free b := by
    change s.driver.heap.freeAt s.driver.userBuff = _
    rw [pointed]
    rfl
  rw [freed] at live
  exact BlockHeap.not_live_free b live

omit [DecidableEq ι] in
theorem BufferKept.freedByExit (h : BufferKept s) : FreedByExit s.driver := by
  intro b user small
  have sameFresh : (canSpiExit s.driver).heap.fresh = s.driver.heap.fresh :=
    (BlockHeap.fresh_freeAt _).trans (BlockHeap.fresh_free _)
  have pointed := h.only b user (sameFresh ▸ small)
  have live : (s.driver.heap.free s.driver.txBuff).Live b :=
    (h.live b pointed).2.free (Nat.ne_of_lt (Nat.lt_of_lt_of_le h.tx user))
  change ((s.driver.heap.free s.driver.txBuff).freeAt s.driver.userBuff).FreedOnce b
  rw [pointed]
  exact live.freedOnce

end steps

/-- Along every run with the exit after it, the pointer is valid, the writes use a live buffer
and every buffer of an open is freed once, exactly if no file is closed. -/
theorem user_buffer_iff {es : List (CallEvent ι)} (admitted : callMachine.Admits (noCall ι) es) :
    (callMachine.Always PointerValid (noCall ι) es ∧
        callMachine.EveryStep WritesLive (noCall ι) es ∧
          FreedByExit (callMachine.run (noCall ι) es).driver) ↔
      callMachine.EveryStep NotClosed (noCall ι) es := by
  have pointer : callMachine.Always PointerValid (noCall ι) es ↔
      callMachine.EveryStep NotClosed (noCall ι) es :=
    always_iff_everyStep (fun _ h b pointed => (h.live b pointed).2) callNext_bufferKept
      notClosed_of_pointerValid (noCall_bufferKept ι) admitted
  refine ⟨fun law => pointer.mp law.1, fun open' => ⟨pointer.mpr open', ?_, ?_⟩⟩
  · refine everyStep_of_everyStep callNext_bufferKept (fun s e h _ _ => ?_)
      (noCall_bufferKept ι) admitted open'
    cases e with
    | statement p k =>
        intro count here
        obtain ⟨b, pointed⟩ := Option.isSome_iff_exists.mp (h.seen p (by rw [here]; rfl))
        exact ⟨b, pointed, (h.live b pointed).2⟩
    | call | complete | signal | close | probe | remove => trivial
  · exact (always_of_everyStep callNext_bufferKept (noCall_bufferKept ι) admitted
      open').last.freedByExit

/-- A second process opens the file too and writes to it. -/
def sharedRun : List (CallEvent Caller) :=
  openedRun ++ [.call .second .openFile] ++ granted .second 3 ++ [.call .second (.write 5)] ++
    granted .second 3

set_option maxRecDepth 8000 in
theorem user_buffer_iff_sharedRun :
    callMachine.Always PointerValid (noCall Caller) sharedRun ∧
      callMachine.EveryStep WritesLive (noCall Caller) sharedRun ∧
        FreedByExit (callMachine.run (noCall Caller) sharedRun).driver := by
  have admitted : callMachine.Admits (noCall Caller) sharedRun := by decide +kernel
  exact (user_buffer_iff admitted).mpr (by decide +kernel)

set_option maxRecDepth 8000 in
theorem user_buffer_refuted :
    ¬ ∀ (ι : Type) [DecidableEq ι] (es : List (CallEvent ι)),
      callMachine.Admits (noCall ι) es →
        callMachine.Always PointerValid (noCall ι) es ∧
          callMachine.EveryStep WritesLive (noCall ι) es ∧
            FreedByExit (callMachine.run (noCall ι) es).driver := by
  intro every
  have law := (every Caller (openedRun ++ [.close]) (by decide +kernel)).1.last
  exact absurd (law 2 (by decide +kernel)) (by decide +kernel)

end Gumstix.CanSpi
