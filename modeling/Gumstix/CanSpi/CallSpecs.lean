import Gumstix.CanSpi.Calls
import Mathlib.Data.Fintype.Basic

/-!
# What the steps of the CAN SPI calls change

One lemma for each variable of the driver says which statements write it, and one for each
place of a command or a read says how a call gets there.
-/
namespace Gumstix.CanSpi
open Gumstix.Synchronization (Word)
open EventMachine

/-- Where a process is after a statement. -/
def goesTo : Phase ⊕ Int → Phase
  | .inl phase => phase
  | .inr _ => .outside

/-- In `Spi_ioctl`. -/
def Phase.inIoctl : Phase → Bool
  | .submitting | .unlocking _ | .marking _ | .started _ => true
  | _ => false

/-- Between the acceptance of the message and `busy = 1`. -/
def Phase.unmarked : Phase → Bool
  | .unlocking status | .marking status => status = 0
  | _ => false

/-- With `fop_sem` taken. -/
def Phase.holdsSem : Phase → Bool
  | .testing _ | .parking _ | .asleep _ | .woken _ | .copying _ | .readReleasing _ | .writing _
  | .writeReleasing _ | .opening | .openReleasing _ => true
  | _ => false

/-- In `down_interruptible`. -/
def Phase.waiting : Phase → Bool
  | .readWaiting _ | .writeWaiting _ | .openWaiting => true
  | _ => false

/-- Before `up`. -/
def Phase.releasing : Phase → Bool
  | .readReleasing _ | .writeReleasing _ | .openReleasing _ => true
  | _ => false

/-- The process whose call takes the step. -/
def CallEvent.process {ι : Type*} : CallEvent ι → Option ι
  | .call p _ | .statement p _ => some p
  | .complete | .signal _ | .close | .probe | .remove => none

/-- The submission of the message is accepted. -/
def Accepts (d : Driver) (k : Replies) (phase : Phase) : Prop :=
  phase = .submitting ∧ d.spiDevice = true ∧ k.asyncStatus = 0

instance (d : Driver) (k : Replies) (phase : Phase) : Decidable (Accepts d k phase) :=
  inferInstanceAs (Decidable (_ ∧ _))

section specs
variable {ι : Type*} [DecidableEq ι] {s : CallState ι} {d : Driver} {k : Replies} {p : ι}

@[simp] theorem proceed_driver (r : Driver × (Phase ⊕ Int)) : (s.proceed p r).driver = r.1 := by
  rcases r with ⟨driver, phase | ret⟩ <;> rfl

@[simp] theorem proceed_phase (r : Driver × (Phase ⊕ Int)) :
    (s.proceed p r).phase = Function.update s.phase p (goesTo r.2) := by
  rcases r with ⟨driver, phase | ret⟩ <;> rfl

@[simp] theorem wakeUp_inIoctl (phase : Phase) : phase.wakeUp.inIoctl = phase.inIoctl := by
  cases phase <;> rfl

@[simp] theorem wakeUp_unmarked (phase : Phase) : phase.wakeUp.unmarked = phase.unmarked := by
  cases phase <;> rfl

@[simp] theorem wakeUp_holdsSem (phase : Phase) : phase.wakeUp.holdsSem = phase.holdsSem := by
  cases phase <;> rfl

theorem call_others (c : Call) {q : ι} (other : q ≠ p) :
    (callNext s (.call p c)).phase q = s.phase q := by
  rw [callNext, proceed_phase, Function.update_of_ne other]

theorem statement_others (p : ι) (k : Replies) {q : ι} (other : q ≠ p) :
    (callNext s (.statement p k)).phase q = s.phase q := by
  rw [callNext, proceed_phase, Function.update_of_ne other]

theorem statement_own (p : ι) (k : Replies) :
    (callNext s (.statement p k)).phase p = goesTo (statement s.driver k (s.phase p)).2 := by
  rw [callNext, proceed_phase, Function.update_self]

/-- What the first statements of a call keep of the place of the caller, they keep of all. -/
theorem call_keeps {α : Type*} (f : Phase → α) (c : Call)
    (kept : f (goesTo (startCall s.driver c).2) = f (s.phase p)) (q : ι) :
    f ((callNext s (.call p c)).phase q) = f (s.phase q) := by
  by_cases same : q = p
  · subst same
    rw [callNext, proceed_phase, Function.update_self, kept]
  · rw [call_others c same]

theorem signal_keeps {α : Type*} (f : Phase → α)
    (awoken : ∀ phase : Phase, f phase.wakeUp = f phase) (p q : ι) :
    f ((callNext s (.signal p)).phase q) = f (s.phase q) := by
  change f (Function.update s.phase p (s.phase p).wakeUp q) = _
  by_cases same : q = p
  · subst same
    rw [Function.update_self, awoken]
  · rw [Function.update_of_ne same]

/-- A process comes to a place by its own step only, if a wake-up does not lead there. -/
theorem callNext_entered {f : Phase → Bool} (awoken : ∀ phase : Phase, f phase.wakeUp = f phase)
    {e : CallEvent ι} {q : ι} (inside : f ((callNext s e).phase q) = true) :
    (f (s.phase q) = true ∧ e.process ≠ some q) ∨
      (∃ c, e = .call q c ∧ f (goesTo (startCall s.driver c).2) = true) ∨
        ∃ k, e = .statement q k ∧ f (goesTo (statement s.driver k (s.phase q)).2) = true := by
  cases e with
  | call p c =>
      by_cases same : q = p
      · subst same
        rw [callNext, proceed_phase, Function.update_self] at inside
        exact .inr (.inl ⟨c, rfl, inside⟩)
      · rw [call_others c same] at inside
        exact .inl ⟨inside, fun mine => same (Option.some.inj mine).symm⟩
  | statement p k =>
      by_cases same : q = p
      · subst same
        rw [statement_own] at inside
        exact .inr (.inr ⟨k, rfl, inside⟩)
      · rw [statement_others p k same] at inside
        exact .inl ⟨inside, fun mine => same (Option.some.inj mine).symm⟩
  | complete => exact .inl ⟨awoken _ ▸ inside, nofun⟩
  | signal p => exact .inl ⟨(signal_keeps f awoken p q).symm.trans inside, nofun⟩
  | close | probe | remove => exact .inl ⟨inside, nofun⟩

/-- The first statements of a call write the transfer and the settings of the device only. -/
theorem startCall_eq (d : Driver) (c : Call) : ∃ rxBuf len speed bits, (startCall d c).1 =
    { d with
      transferRxBuf := rxBuf, transferLen := len, maxSpeedHz := speed, bitsPerWord := bits } := by
  cases c with
  | openFile | write => exact ⟨_, _, _, _, rfl⟩
  | read buffIsNull count =>
      cases buffIsNull <;> exact ⟨_, _, _, _, rfl⟩
  | ioctl cmd arg =>
      simp only [startCall, spiIoctl]
      split_ifs <;> exact ⟨_, _, _, _, rfl⟩

/-- A call stands before the submission, or before the semaphore, or has returned. -/
theorem startCall_goesTo (d : Driver) (c : Call) :
    (goesTo (startCall d c).2 = .submitting ∧ ∃ arg, c = .ioctl cmdSpiStart arg) ∨
      ((goesTo (startCall d c).2).inIoctl = false ∧
        (goesTo (startCall d c).2).holdsSem = false) := by
  cases c with
  | openFile | write => exact .inr ⟨rfl, rfl⟩
  | read buffIsNull count => cases buffIsNull <;> exact .inr ⟨rfl, rfl⟩
  | ioctl cmd arg =>
      simp only [startCall, spiIoctl]
      split_ifs with start
      · exact .inl ⟨rfl, arg, by rw [start]⟩
      all_goals exact .inr ⟨rfl, rfl⟩

theorem statement_inFlight (d : Driver) (k : Replies) (phase : Phase) :
    (statement d k phase).1.inFlight =
      if Accepts d k phase then d.inFlight + 1 else d.inFlight := by
  cases phase <;> grind [statement, down, up, writeBody, openBody, Accepts, enodev]

theorem statement_transfer (d : Driver) (k : Replies) (phase : Phase) :
    (statement d k phase).1.transferLen = d.transferLen ∧
      (statement d k phase).1.transferRxBuf = d.transferRxBuf ∧
        (statement d k phase).1.rxbuff = d.rxbuff := by
  cases phase <;> grind [statement, down, up, writeBody, openBody]

theorem statement_busy (d : Driver) (k : Replies) (phase : Phase) :
    (statement d k phase).1.busy = if phase = .marking 0 then 1 else d.busy := by
  cases phase <;> grind [statement, down, up, writeBody, openBody]

/-- A statement leads into a command only from the statement before. -/
theorem statement_goesTo_inIoctl (d : Driver) (k : Replies) {phase : Phase}
    (inside : (goesTo (statement d k phase).2).inIoctl = true) : phase.inIoctl = true := by
  cases phase <;> grind [statement, down, goesTo, Phase.inIoctl]

theorem statement_goesTo_submitting (d : Driver) (k : Replies) (phase : Phase) :
    goesTo (statement d k phase).2 ≠ .submitting := by
  cases phase <;> grind [statement, down, goesTo]

theorem unmarked_iff {phase : Phase} :
    phase.unmarked = true ↔ phase = .unlocking 0 ∨ phase = .marking 0 := by
  cases phase <;> simp [Phase.unmarked]

theorem inIoctl_of_unmarked {phase : Phase} (unmarked : phase.unmarked = true) :
    phase.inIoctl = true := by
  cases phase <;> first | rfl | exact unmarked

theorem startCall_unmarked (d : Driver) (c : Call) :
    (goesTo (startCall d c).2).unmarked = false := by
  rcases startCall_goesTo d c with ⟨submits, -⟩ | ⟨outside, -⟩
  · rw [submits]
    rfl
  · by_contra unmarked
    rw [inIoctl_of_unmarked (Bool.not_eq_false _ ▸ unmarked)] at outside
    exact absurd outside (by decide)

/-- What an accepted submission leaves behind until `busy = 1`. -/
theorem statement_goesTo_unmarked (d : Driver) (k : Replies) (phase : Phase) :
    (goesTo (statement d k phase).2).unmarked = true ↔
      Accepts d k phase ∨ phase = .unlocking 0 := by
  cases phase <;> grind [statement, down, goesTo, Phase.unmarked, Accepts, enodev]

/-- What a statement does with the semaphore. -/
inductive SemUse (d : Driver) (k : Replies) (phase : Phase) (r : Driver × (Phase ⊕ Int)) : Prop
  | takes (waits : phase.waiting = true) (free : 0 < d.fopSem) (count : r.1.fopSem = d.fopSem - 1)
      (holds : (goesTo r.2).holdsSem = true)
  | releases (held : phase.releasing = true) (count : r.1.fopSem = d.fopSem + 1)
      (without : (goesTo r.2).holdsSem = false)
  | keeps (count : r.1.fopSem = d.fopSem) (same : (goesTo r.2).holdsSem = phase.holdsSem)
  | interrupted (n : Word) (here : phase = .woken n) (pending : k.signalPending = true)
      (count : r.1.fopSem = d.fopSem) (without : goesTo r.2 = .outside)

theorem statement_semUse (d : Driver) (k : Replies) (phase : Phase) :
    SemUse d k phase (statement d k phase) := by
  have waits : ∀ taken waiting : Phase, waiting.waiting = true → taken.holdsSem = true →
      waiting.holdsSem = false → SemUse d k waiting (down d k taken waiting) := by
    intro taken waiting waits holds without
    rw [down]
    split_ifs with free signal
    · exact .takes waits free rfl holds
    · exact .keeps rfl without.symm
    · exact .keeps rfl rfl
  cases phase with
  | readWaiting | writeWaiting | openWaiting => exact waits _ _ rfl rfl rfl
  | readReleasing | writeReleasing | openReleasing => exact .releases rfl rfl rfl
  | woken count =>
      rw [statement]
      split_ifs with signal
      · exact .interrupted count rfl signal rfl rfl
      · exact .keeps rfl rfl
  | marking status =>
      refine .keeps ?_ rfl
      rw [statement]
      split <;> rfl
  | testing count =>
      refine .keeps rfl ?_
      rw [statement]
      split <;> rfl
  | writing count =>
      refine .keeps ?_ rfl
      rw [statement, writeBody]
      split_ifs <;> rfl
  | opening =>
      refine .keeps ?_ rfl
      rw [statement, openBody]
      split
      · rfl
      · split <;> rfl
  | outside | submitting | unlocking | started | parking | asleep | copying | finishing =>
      exact .keeps rfl rfl

theorem holdsSem_of_releasing {phase : Phase} (releases : phase.releasing = true) :
    phase.holdsSem = true := by
  cases phase <;> first | rfl | exact releases

theorem startCall_holdsSem (d : Driver) (c : Call) :
    (goesTo (startCall d c).2).holdsSem = false := by
  rcases startCall_goesTo d c with ⟨submits, -⟩ | ⟨-, without⟩
  · rw [submits]
    rfl
  · exact without

/-- A process is about to submit because it was, or because its start has been called. -/
theorem callNext_submitting {e : CallEvent ι} {q : ι}
    (submits : (callNext s e).phase q = .submitting) :
    (s.phase q = .submitting ∧ e.process ≠ some q) ∨
      ∃ arg, e = .call q (.ioctl cmdSpiStart arg) := by
  have awoken : ∀ phase : Phase,
      decide (phase.wakeUp = .submitting) = decide (phase = .submitting) := by
    intro phase
    cases phase <;> rfl
  rcases callNext_entered (f := fun phase => decide (phase = .submitting)) awoken
    (decide_eq_true submits) with ⟨was, other⟩ | ⟨c, rfl, starts⟩ | ⟨k, rfl, goes⟩
  · exact .inl ⟨of_decide_eq_true was, other⟩
  · rcases startCall_goesTo s.driver c with ⟨-, arg, rfl⟩ | ⟨outside, -⟩
    · exact .inr ⟨arg, rfl⟩
    · rw [of_decide_eq_true starts] at outside
      exact absurd outside (by decide)
  · exact absurd (of_decide_eq_true goes) (statement_goesTo_submitting _ _ _)

/-- No command starts while another one is in `Spi_ioctl`. -/
def OneCommand (s : CallState ι) : CallEvent ι → Prop
  | .call _ (.ioctl _ _) => ∀ p, (s.phase p).inIoctl = false
  | _ => True

instance [Fintype ι] (s : CallState ι) : (e : CallEvent ι) → Decidable (OneCommand s e)
  | .call _ (.ioctl _ _) => inferInstanceAs (Decidable (∀ _, _))
  | .call _ .openFile | .call _ (.read _ _) | .call _ (.write _) | .statement _ _ | .complete
  | .signal _ | .close | .probe | .remove => .isTrue trivial

/-- At most one process is in `Spi_ioctl`. -/
def CommandAlone (s : CallState ι) : Prop :=
  ∀ p q, (s.phase p).inIoctl = true → (s.phase q).inIoctl = true → p = q

theorem callNext_commandAlone (alone : CommandAlone s) {e : CallEvent ι} (one : OneCommand s e) :
    CommandAlone (callNext s e) := by
  -- Who is in a command was there before, or starts one now that nobody was there.
  have before : ∀ q, ((callNext s e).phase q).inIoctl = true → (s.phase q).inIoctl = true ∨
      (∃ c, e = .call q c) ∧ ∀ r, (s.phase r).inIoctl = false := by
    intro q inside
    rcases callNext_entered wakeUp_inIoctl inside with ⟨was, -⟩ | ⟨c, rfl, starts⟩ | ⟨k, rfl, goes⟩
    · exact .inl was
    · rcases startCall_goesTo s.driver c with ⟨-, arg, rfl⟩ | ⟨outside, -⟩
      · exact .inr ⟨⟨_, rfl⟩, one⟩
      · exact absurd (outside.symm.trans starts) Bool.false_ne_true
    · exact .inl (statement_goesTo_inIoctl _ _ goes)
  intro p q inP inQ
  rcases before p inP, before q inQ with ⟨wasP | ⟨⟨c, rfl⟩, none⟩, wasQ | ⟨⟨c', called⟩, none'⟩⟩
  · exact alone p q wasP wasQ
  · exact absurd ((none' p).symm.trans wasP) Bool.false_ne_true
  · exact absurd ((none q).symm.trans wasQ) Bool.false_ne_true
  · cases called
    rfl

end specs

end Gumstix.CanSpi
