import Gumstix.CanSpi.CallSpecs

/-!
# Re-use of the message

All commands share one message and one transfer, and `CMD_SPI_START` does not test `busy`
before it initialises the message and queues it again.
-/
namespace Gumstix.CanSpi
open Gumstix.Synchronization (Word)
open EventMachine

variable {ι : Type*} [DecidableEq ι]

/-- Commands follow each other; all else interleaves. -/
def commandMachine : EventMachine (CallState ι) (CallEvent ι) := callMachine.assuming OneCommand

instance [Fintype ι] (s : CallState ι) (e : CallEvent ι) : Decidable (commandMachine.enabled s e) :=
  inferInstanceAs (Decidable (_ ∧ _))

/-- No submission is pending when the message is initialised or queued, nor when a command
changes `transfer.len`. -/
structure MessageFree (s : CallState ι) (e : CallEvent ι) : Prop where
  initialised : ∀ p arg, e = .call p (.ioctl cmdSpiStart arg) → s.driver.inFlight = 0
  queued : ∀ p k, e = .statement p k → s.phase p = .submitting → s.driver.inFlight = 0
  resized : ∀ p cmd arg, e = .call p (.ioctl cmd arg) →
    (callNext s e).driver.transferLen ≠ s.driver.transferLen → s.driver.inFlight = 0

/-- Whether `spi_async` has accepted a start since the last completion. -/
def watchTraffic (s : CallState ι) : CallEvent ι → Bool → Bool
  | .statement p k, unanswered => decide (Accepts s.driver k (s.phase p)) || unanswered
  | .complete, _ => false
  | .call _ _, unanswered | .signal _, unanswered | .close, unanswered | .probe, unanswered
  | .remove, unanswered => unanswered

def watchedCommands : EventMachine (CallState ι × Bool) (CallEvent ι) :=
  commandMachine.observe watchTraffic

/-- A start, and a stop or a number of samples that changes the length. -/
def UsesMessage (d : Driver) (cmd arg : Word) : Prop :=
  cmd = cmdSpiStart ∨ (cmd = cmdSpiStop ∧ d.transferLen ≠ 0) ∨
    (cmd = cmdSpiNbEch ∧ 160 ≤ arg ∧ arg ≤ 10000 ∧ d.transferLen ≠ arg)

instance (d : Driver) (cmd arg : Word) : Decidable (UsesMessage d cmd arg) :=
  inferInstanceAs (Decidable (_ ∨ _))

/-- Such a command comes after the completion of the last start. -/
def Answered (s : CallState ι × Bool) : CallEvent ι → Prop
  | .call _ (.ioctl cmd arg) => UsesMessage s.1.driver cmd arg → s.2 = false
  | _ => True

instance (s : CallState ι × Bool) : (e : CallEvent ι) → Decidable (Answered s e)
  | .call _ (.ioctl _ _) => inferInstanceAs (Decidable (_ → _))
  | .call _ .openFile | .call _ (.read _ _) | .call _ (.write _) | .statement _ _ | .complete
  | .signal _ | .close | .probe | .remove => .isTrue trivial

/-- At most one submission is pending, and none while a start is before `spi_async`. -/
structure Traffic (s : CallState ι × Bool) : Prop where
  alone : CommandAlone s.1
  counted : s.1.driver.inFlight = if s.2 then 1 else 0
  free : ∀ p, s.1.phase p = .submitting → s.2 = false

theorem noCall_traffic (ι : Type*) : Traffic (noCall ι, false) where
  alone _ _ inside := nomatch inside
  counted := rfl
  free _ here := nomatch here

/-- The commands that change the length. -/
theorem spiIoctl_resizes (d : Driver) (cmd arg : Word) :
    (spiIoctl d cmd arg).1.transferLen ≠ d.transferLen ↔
      UsesMessage d cmd arg ∧ cmd ≠ cmdSpiStart := by
  have stop : cmdSpiStop ≠ cmdSpiStart := by decide
  have number : cmdSpiNbEch ≠ cmdSpiStart ∧ cmdSpiNbEch ≠ cmdSpiStop ∧
      cmdSpiNbEch ≠ cmdSpiFrequency ∧ cmdSpiNbEch ≠ cmdSpiBitsPerWord := by decide
  grind [spiIoctl, UsesMessage]

section steps
variable {s : CallState ι × Bool}

omit [DecidableEq ι] in
theorem Traffic.inFlight_iff (h : Traffic s) : s.1.driver.inFlight = 0 ↔ s.2 = false := by
  rw [h.counted]
  cases s.2 <;> simp

theorem next_traffic (s : CallState ι × Bool) (e : CallEvent ι) (h : Traffic s)
    (enabled : watchedCommands.enabled s e) (answered : Answered s e) :
    Traffic (watchedCommands.next s e) where
  alone := callNext_commandAlone h.alone enabled.2
  counted := by
    cases e with
    | call p c =>
        obtain ⟨rxBuf, len, speed, bits, starts⟩ := startCall_eq s.1.driver c
        change (s.1.proceed p (startCall s.1.driver c)).driver.inFlight = _
        rw [proceed_driver, starts]
        exact h.counted
    | statement p k =>
        change (s.1.proceed p (statement s.1.driver k (s.1.phase p))).driver.inFlight =
          if decide (Accepts s.1.driver k (s.1.phase p)) || s.2 then 1 else 0
        rw [proceed_driver, statement_inFlight, h.counted]
        by_cases accepted : Accepts s.1.driver k (s.1.phase p)
        · simp [accepted, h.free p accepted.1]
        · simp [accepted]
    | complete =>
        change s.1.driver.inFlight - 1 = 0
        rw [h.counted]
        split <;> rfl
    | signal | close | probe | remove => exact h.counted
  free q submits := by
    rcases callNext_submitting submits with ⟨was, other⟩ | ⟨arg, rfl⟩
    · have free := h.free q was
      cases e with
      | statement p k =>
          have notP : ¬ Accepts s.1.driver k (s.1.phase p) := by
            intro accepted
            refine other (congrArg some (h.alone p q ?_ ?_))
            · rw [accepted.1]
              rfl
            · rw [was]
              rfl
          change (decide (Accepts s.1.driver k (s.1.phase p)) || s.2) = false
          rw [decide_eq_false notP, free]
          rfl
      | complete => rfl
      | call | signal | close | probe | remove => exact free
    · exact answered (.inl rfl)

theorem messageFree_iff (h : Traffic s) (e : CallEvent ι) :
    MessageFree s.1 e ↔ Answered s e := by
  constructor
  · intro law
    cases e with
    | call p c =>
        cases c with
        | ioctl cmd arg =>
            intro uses
            refine h.inFlight_iff.mp ?_
            by_cases start : cmd = cmdSpiStart
            · exact law.initialised p arg (by rw [start])
            · refine law.resized p cmd arg rfl ?_
              change (s.1.proceed p (spiIoctl s.1.driver cmd arg)).driver.transferLen ≠ _
              rw [proceed_driver]
              exact (spiIoctl_resizes _ _ _).mpr ⟨uses, start⟩
        | openFile | read | write => trivial
    | statement | complete | signal | close | probe | remove => trivial
  · intro answered
    constructor
    · intro p arg called
      subst called
      exact h.inFlight_iff.mpr (answered (.inl rfl))
    · intro p k _ here
      exact h.inFlight_iff.mpr (h.free p here)
    · intro p cmd arg called resized
      subst called
      change (s.1.proceed p (spiIoctl s.1.driver cmd arg)).driver.transferLen ≠ _ at resized
      rw [proceed_driver] at resized
      exact h.inFlight_iff.mpr (answered ((spiIoctl_resizes _ _ _).mp resized).1)

end steps

/-- Along every run the message and the length are not touched while a submission is pending,
exactly if every command that uses them comes after the completion of the last start. -/
theorem message_free_iff {es : List (CallEvent ι)}
    (admitted : commandMachine.Admits (noCall ι) es) :
    commandMachine.EveryStep MessageFree (noCall ι) es ↔
      watchedCommands.EveryStep Answered (noCall ι, false) es :=
  (observe_everyStep watchTraffic (noCall ι, false) es).symm.trans
    (everyStep_iff_everyStep next_traffic (fun _ e h _ => messageFree_iff h e) (noCall_traffic ι)
      ((observe_admits watchTraffic _ es).mpr admitted))

/-- A number of samples is set, and two transfers follow each other. -/
def twoTransfers : List (CallEvent Caller) :=
  openedRun ++ [.call .first (.ioctl cmdSpiNbEch 1000)] ++ startRun .first ++ [.complete] ++
    startRun .second

set_option maxRecDepth 8000 in
theorem message_free_iff_twoTransfers :
    commandMachine.EveryStep MessageFree (noCall Caller) twoTransfers := by
  have admitted : commandMachine.Admits (noCall Caller) twoTransfers := by decide +kernel
  exact (message_free_iff admitted).mpr (by decide +kernel)

set_option maxRecDepth 8000 in
theorem message_free_refuted :
    ¬ ∀ (ι : Type) [DecidableEq ι] (es : List (CallEvent ι)),
      commandMachine.Admits (noCall ι) es →
        commandMachine.EveryStep MessageFree (noCall ι) es := by
  intro every
  -- The second start comes before the completion of the first.
  have law := every Caller ((openedRun ++ startRun .first) ++ startRun .first) (by decide +kernel)
  have started := (everyStep_append.mp law).2.1
  exact absurd (started.initialised .first 0 rfl) (by decide +kernel)

end Gumstix.CanSpi
