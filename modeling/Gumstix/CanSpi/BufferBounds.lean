import Gumstix.CanSpi.CallSpecs

/-!
# Bounds of the receive buffer

`CMD_SPI_NB_ECH` accepts up to 10000 bytes for a buffer of 4000, a read does not check its
count, and before the first completion `rxbuff` is null.
-/
namespace Gumstix.CanSpi
open Gumstix.Synchronization (Word)
open EventMachine

variable {ι : Type*} [DecidableEq ι]

/-- A transfer that is queued fits into the buffer, and a read copies from it what it holds. -/
structure InBounds (s : CallState ι) (e : CallEvent ι) : Prop where
  queued : ∀ p k, e = .statement p k → Accepts s.driver k (s.phase p) →
    s.driver.transferLen.toNat ≤ spiBuffSize
  copied : ∀ p k count, e = .statement p k → s.phase p = .copying count →
    s.driver.rxbuff.isSome = true ∧ count.toNat ≤ spiBuffSize

/-- The number of samples that has been asked for, and whether a transfer has completed. -/
structure Requests where
  samples : Word
  completed : Bool
  deriving DecidableEq

/-- What a command asks for. -/
def requested (cmd arg samples : Word) : Word :=
  if cmd = cmdSpiStop then 0
  else if cmd = cmdSpiNbEch ∧ 160 ≤ arg ∧ arg ≤ 10000 then arg
  else samples

def watchRequests (_ : CallState ι) : CallEvent ι → Requests → Requests
  | .call _ (.ioctl cmd arg), n => { n with samples := requested cmd arg n.samples }
  | .complete, n => { n with completed := true }
  | .call _ _, n | .statement _ _, n | .signal _, n | .close, n | .probe, n | .remove, n => n

def watchedRequests : EventMachine (CallState ι × Requests) (CallEvent ι) :=
  callMachine.observe watchRequests

/-- After the load nothing has been asked for. -/
def noRequest (ι : Type*) : CallState ι × Requests := (noCall ι, ⟨0, false⟩)

/-- The last number of samples asked for fits when the message is accepted; a read copies no
more than the buffer holds, and after the first completion. -/
def StatementFits (s : CallState ι × Requests) (k : Replies) : Phase → Prop
  | .submitting => Accepts s.1.driver k .submitting → s.2.samples.toNat ≤ spiBuffSize
  | .copying count => s.2.completed = true ∧ count.toNat ≤ spiBuffSize
  | _ => True

def RequestsFit (s : CallState ι × Requests) : CallEvent ι → Prop
  | .statement p k => StatementFits s k (s.1.phase p)
  | _ => True

instance (s : CallState ι × Requests) (k : Replies) : (phase : Phase) →
    Decidable (StatementFits s k phase)
  | .submitting => inferInstanceAs (Decidable (_ → _))
  | .copying _ => inferInstanceAs (Decidable (_ ∧ _))
  | .outside | .unlocking _ | .marking _ | .started _ | .readWaiting _ | .testing _ | .parking _
  | .asleep _ | .woken _ | .readReleasing _ | .finishing _ | .writeWaiting _ | .writing _
  | .writeReleasing _ | .openWaiting | .opening | .openReleasing _ => .isTrue trivial

instance (s : CallState ι × Requests) : (e : CallEvent ι) → Decidable (RequestsFit s e)
  | .statement _ _ => inferInstanceAs (Decidable (StatementFits _ _ _))
  | .call _ _ | .complete | .signal _ | .close | .probe | .remove => .isTrue trivial

/-- The transfer has the length asked for, and its buffer as soon as it may be submitted. -/
structure Requested (s : CallState ι × Requests) : Prop where
  length : s.1.driver.transferLen = s.2.samples
  buffer : (0 < s.1.driver.inFlight ∨ ∃ p, s.1.phase p = .submitting) →
    s.1.driver.transferRxBuf.isSome = true
  received : s.1.driver.rxbuff.isSome = s.2.completed

theorem noRequest_requested (ι : Type*) : Requested (noRequest ι) where
  length := rfl
  buffer := by
    rintro (flying | ⟨p, here⟩)
    · exact absurd flying (Nat.lt_irrefl 0)
    · cases here
  received := rfl

theorem spiIoctl_transferLen (d : Driver) (cmd arg : Word) :
    (spiIoctl d cmd arg).1.transferLen = requested cmd arg d.transferLen := by
  have start : cmdSpiStart ≠ cmdSpiStop ∧ cmdSpiStart ≠ cmdSpiNbEch := by decide
  have number : cmdSpiNbEch ≠ cmdSpiStop ∧ cmdSpiNbEch ≠ cmdSpiFrequency ∧
      cmdSpiNbEch ≠ cmdSpiBitsPerWord := by decide
  have stop : cmdSpiStop ≠ cmdSpiFrequency ∧ cmdSpiStop ≠ cmdSpiBitsPerWord := by decide
  grind [spiIoctl, requested]

/-- A call sets the buffer of the transfer at most. -/
theorem startCall_buffer (d : Driver) (c : Call) :
    (d.transferRxBuf.isSome = true → (startCall d c).1.transferRxBuf.isSome = true) ∧
      (goesTo (startCall d c).2 = .submitting →
        (startCall d c).1.transferRxBuf.isSome = true) := by
  cases c with
  | openFile | write =>
      refine ⟨id, fun submits => ?_⟩
      cases submits
  | read buffIsNull count =>
      constructor
      · intro buffer
        cases buffIsNull <;> exact buffer
      · intro submits
        cases buffIsNull <;> cases submits
  | ioctl cmd arg =>
      simp only [startCall, spiIoctl]
      split_ifs
      · exact ⟨fun _ => rfl, fun _ => rfl⟩
      all_goals
        refine ⟨id, fun submits => ?_⟩
        cases submits

section steps
variable {s : CallState ι × Requests}

theorem call_requested {p : ι} (c : Call) (h : Requested s) :
    Requested (watchedRequests.next s (.call p c)) where
  length := by
    change (s.1.proceed p (startCall s.1.driver c)).driver.transferLen = _
    rw [proceed_driver]
    cases c with
    | ioctl cmd arg =>
        rw [startCall, spiIoctl_transferLen, h.length]
        rfl
    | openFile | write => exact h.length
    | read buffIsNull count => cases buffIsNull <;> exact h.length
  buffer := by
    obtain ⟨rxBuf, len, speed, bits, starts⟩ := startCall_eq s.1.driver c
    change 0 < (s.1.proceed p (startCall s.1.driver c)).driver.inFlight ∨ _ →
      (s.1.proceed p (startCall s.1.driver c)).driver.transferRxBuf.isSome = true
    rw [proceed_driver]
    rintro (flying | ⟨q, here⟩)
    · rw [starts] at flying
      exact (startCall_buffer _ _).1 (h.buffer (.inl flying))
    · change (callNext s.1 (.call p c)).phase q = .submitting at here
      by_cases same : q = p
      · subst same
        rw [callNext, proceed_phase, Function.update_self] at here
        exact (startCall_buffer _ _).2 here
      · rw [call_others c same] at here
        exact (startCall_buffer _ _).1 (h.buffer (.inr ⟨q, here⟩))
  received := by
    obtain ⟨rxBuf, len, speed, bits, starts⟩ := startCall_eq s.1.driver c
    change (s.1.proceed p (startCall s.1.driver c)).driver.rxbuff.isSome = _
    rw [proceed_driver, starts]
    cases c <;> exact h.received

theorem statement_requested {p : ι} {k : Replies} (h : Requested s) :
    Requested (watchedRequests.next s (.statement p k)) := by
  obtain ⟨len, rxBuf, received⟩ := statement_transfer s.1.driver k (s.1.phase p)
  have driver : (watchedRequests.next s (.statement p k)).1.driver =
      (statement s.1.driver k (s.1.phase p)).1 := proceed_driver _
  refine ⟨?_, ?_, ?_⟩
  · rw [driver, len]
    exact h.length
  · rw [driver, rxBuf, statement_inFlight]
    rintro (flying | ⟨q, here⟩)
    · by_cases accepted : Accepts s.1.driver k (s.1.phase p)
      · exact h.buffer (.inr ⟨p, accepted.1⟩)
      · rw [if_neg accepted] at flying
        exact h.buffer (.inl flying)
    · rcases callNext_submitting here with ⟨was, -⟩ | ⟨arg, called⟩
      · exact h.buffer (.inr ⟨q, was⟩)
      · cases called
  · rw [driver, received]
    exact h.received

theorem next_requested (s : CallState ι × Requests) (e : CallEvent ι) (h : Requested s)
    (enabled : watchedRequests.enabled s e) : Requested (watchedRequests.next s e) := by
  have before : ∀ q, (watchedRequests.next s e).1.phase q = .submitting →
      (∀ p c, e ≠ .call p c) → s.1.phase q = .submitting := by
    intro q here notCall
    rcases callNext_submitting here with ⟨was, -⟩ | ⟨arg, called⟩
    · exact was
    · exact absurd called (notCall _ _)
  cases e with
  | call p c => exact call_requested c h
  | statement p k => exact statement_requested h
  | complete =>
      have buffer := h.buffer (.inl enabled)
      exact ⟨h.length, fun _ => buffer, buffer⟩
  | signal | close | probe | remove =>
      refine ⟨h.length, ?_, h.received⟩
      rintro (flying | ⟨q, here⟩)
      · exact h.buffer (.inl flying)
      · exact h.buffer (.inr ⟨q, before q here nofun⟩)

omit [DecidableEq ι] in
theorem inBounds_iff (h : Requested s) (e : CallEvent ι) : InBounds s.1 e ↔ RequestsFit s e := by
  constructor
  · intro law
    cases e with
    | statement p k =>
        change StatementFits s k (s.1.phase p)
        cases here : s.1.phase p with
        | submitting =>
            intro accepted
            rw [← h.length]
            exact law.queued p k rfl (here ▸ accepted)
        | copying count =>
            obtain ⟨received, fits⟩ := law.copied p k count rfl here
            exact ⟨h.received ▸ received, fits⟩
        | _ => trivial
    | call | complete | signal | close | probe | remove => trivial
  · intro fits
    constructor
    · intro p k isStatement accepted
      subst isStatement
      change StatementFits s k (s.1.phase p) at fits
      rw [accepted.1] at fits
      rw [h.length]
      exact fits (accepted.1 ▸ accepted)
    · intro p k count isStatement here
      subst isStatement
      change StatementFits s k (s.1.phase p) at fits
      rw [here] at fits
      exact ⟨h.received.trans fits.1, fits.2⟩

end steps

/-- Along every run the transfers and the copies keep to the buffer, exactly if the number of
samples asked for fits whenever the message is accepted and every read copies after the first
completion no more than the buffer holds. -/
theorem in_bounds_iff {es : List (CallEvent ι)} (admitted : callMachine.Admits (noCall ι) es) :
    callMachine.EveryStep InBounds (noCall ι) es ↔
      watchedRequests.EveryStep RequestsFit (noRequest ι) es :=
  (observe_everyStep watchRequests (noRequest ι) es).symm.trans
    (everyStep_iff_everyStep (fun s e h enabled _ => next_requested s e h enabled)
      (fun _ e h _ => inBounds_iff h e) (noRequest_requested ι)
      ((observe_admits watchRequests _ es).mpr admitted))

/-- A transfer of 160 bytes, which a read copies. -/
def copiedRun : List (CallEvent Caller) :=
  openedRun ++ [.call .first (.ioctl cmdSpiNbEch 160)] ++ startRun .first ++
    [.complete, .call .first (.read false 160)] ++ granted .first 3

set_option maxRecDepth 8000 in
theorem in_bounds_iff_copiedRun :
    callMachine.EveryStep InBounds (noCall Caller) copiedRun := by
  have admitted : callMachine.Admits (noCall Caller) copiedRun := by decide +kernel
  exact (in_bounds_iff admitted).mpr (by decide +kernel)

set_option maxRecDepth 8000 in
theorem in_bounds_refuted :
    ¬ ∀ (ι : Type) [DecidableEq ι] (es : List (CallEvent ι)),
      callMachine.Admits (noCall ι) es → callMachine.EveryStep InBounds (noCall ι) es := by
  intro every
  have law := every Caller ((openedRun ++ [.call .first (.ioctl cmdSpiNbEch 10000),
    .call .first (.ioctl cmdSpiStart 0)]) ++ [.statement .first .granted]) (by decide +kernel)
  have submitted := (everyStep_append.mp law).2.1
  exact absurd (submitted.queued .first .granted rfl (by decide +kernel)) (by decide +kernel)

end Gumstix.CanSpi
