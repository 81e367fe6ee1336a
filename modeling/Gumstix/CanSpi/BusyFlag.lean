import Gumstix.CanSpi.CallSpecs

/-!
# The busy flag

A start sets `busy` after it has submitted the message and released the lock; the completion
clears it, and may come first.
-/
namespace Gumstix.CanSpi
open Gumstix.Synchronization (Word)
open EventMachine

variable {ι : Type*} [DecidableEq ι]

/-- At most one submission is pending after the step. -/
def OneInFlight (s : CallState ι) (e : CallEvent ι) : Prop := (callNext s e).driver.inFlight ≤ 1

/-- The runs in which at most one message is in flight. -/
def singleMachine : EventMachine (CallState ι) (CallEvent ι) := callMachine.assuming OneInFlight

instance (s : CallState ι) (e : CallEvent ι) : Decidable (singleMachine.enabled s e) :=
  inferInstanceAs (Decidable (_ ∧ _ ≤ _))

/-- When no command is in progress, `busy` says whether a message is in flight. -/
def BusyTruthful (s : CallState ι) : Prop :=
  (∀ p, (s.phase p).inIoctl = false) → (s.driver.busy = 1 ↔ 0 < s.driver.inFlight)

/-- No transfer completes between its acceptance and `busy = 1`. -/
def NotOvertaken (s : CallState ι) : CallEvent ι → Prop
  | .complete => ∀ p, (s.phase p).unmarked = false
  | _ => True

instance [Fintype ι] (s : CallState ι) : (e : CallEvent ι) → Decidable (NotOvertaken s e)
  | .complete => inferInstanceAs (Decidable (∀ _, _))
  | .call _ _ | .statement _ _ | .signal _ | .close | .probe | .remove => .isTrue trivial

/-- A message in flight is marked by `busy`, or about to be. -/
structure Marked (s : CallState ι) : Prop where
  single : s.driver.inFlight ≤ 1
  flying : ∀ p, (s.phase p).unmarked = true → 0 < s.driver.inFlight
  busy : s.driver.busy = 1 → 0 < s.driver.inFlight
  marked : 0 < s.driver.inFlight → s.driver.busy = 1 ∨ ∃ p, (s.phase p).unmarked = true

theorem noCall_marked (ι : Type*) : Marked (noCall ι) where
  single := Nat.zero_le 1
  flying _ unmarked := nomatch unmarked
  busy set := absurd set (show ¬ (0 : Word) = 1 by decide)
  marked flying := nomatch flying

section steps
variable {s : CallState ι}

omit [DecidableEq ι] in
theorem Marked.truthful (h : Marked s) : BusyTruthful s := by
  intro outside
  refine ⟨h.busy, fun flying => (h.marked flying).resolve_right ?_⟩
  rintro ⟨p, unmarked⟩
  exact absurd ((outside p).symm.trans (inIoctl_of_unmarked unmarked)) Bool.false_ne_true

omit [DecidableEq ι] in
/-- A step that keeps the flag, the messages in flight and who is about to set the flag. -/
theorem Marked.same (h : Marked s) {t : CallState ι} (busy : t.driver.busy = s.driver.busy)
    (inFlight : t.driver.inFlight = s.driver.inFlight)
    (unmarked : ∀ p, (t.phase p).unmarked = (s.phase p).unmarked) : Marked t := by
  constructor
  · exact inFlight ▸ h.single
  · exact fun p here => inFlight ▸ h.flying p (unmarked p ▸ here)
  · exact fun set => inFlight ▸ h.busy (busy ▸ set)
  · intro flying
    rw [busy]
    refine (h.marked (inFlight ▸ flying)).imp_right ?_
    rintro ⟨p, here⟩
    exact ⟨p, (unmarked p).trans here⟩

theorem call_marked {p : ι} (c : Call) (h : Marked s) (outside : s.phase p = .outside) :
    Marked (callNext s (.call p c)) := by
  obtain ⟨rxBuf, len, speed, bits, starts⟩ := startCall_eq s.driver c
  apply h.same
  · rw [callNext, proceed_driver, starts]
  · rw [callNext, proceed_driver, starts]
  · apply call_keeps
    rw [startCall_unmarked, outside]
    rfl

theorem statement_marked {p : ι} {k : Replies} (h : Marked s)
    (single : OneInFlight s (.statement p k)) : Marked (callNext s (.statement p k)) := by
  have own : ((callNext s (.statement p k)).phase p).unmarked = true ↔
      Accepts s.driver k (s.phase p) ∨ s.phase p = .unlocking 0 := by
    rw [statement_own]
    exact statement_goesTo_unmarked _ _ _
  have inFlight : (callNext s (.statement p k)).driver.inFlight =
      if Accepts s.driver k (s.phase p) then s.driver.inFlight + 1 else s.driver.inFlight := by
    rw [callNext, proceed_driver, statement_inFlight]
  have busy : (callNext s (.statement p k)).driver.busy =
      if s.phase p = .marking 0 then 1 else s.driver.busy := by
    rw [callNext, proceed_driver, statement_busy]
  have flies : 0 < s.driver.inFlight → 0 < (callNext s (.statement p k)).driver.inFlight := by
    intro flying
    rw [inFlight]
    split
    · exact Nat.succ_pos _
    · exact flying
  constructor
  · exact single
  · intro q unmarked
    by_cases same : q = p
    · subst same
      rcases own.mp unmarked with accepted | here
      · rw [inFlight, if_pos accepted]
        exact Nat.succ_pos _
      · exact flies (h.flying q (by rw [here]; rfl))
    · exact flies (h.flying q (statement_others p k same ▸ unmarked))
  · intro set
    rw [busy] at set
    split at set
    · next here => exact flies (h.flying p (by rw [here]; rfl))
    · exact flies (h.busy set)
  · intro flying
    by_cases accepted : Accepts s.driver k (s.phase p)
    · exact .inr ⟨p, own.mpr (.inl accepted)⟩
    · rw [inFlight, if_neg accepted] at flying
      rw [busy]
      rcases h.marked flying with set | ⟨q, unmarked⟩
      · left
        split
        · rfl
        · exact set
      · by_cases same : q = p
        · subst same
          rcases unmarked_iff.mp unmarked with here | here
          · exact .inr ⟨q, own.mpr (.inr here)⟩
          · exact .inl (if_pos here)
        · exact .inr ⟨q, (statement_others p k same).symm ▸ unmarked⟩

theorem next_marked (s : CallState ι) (e : CallEvent ι) (h : Marked s)
    (enabled : singleMachine.enabled s e) (inTime : NotOvertaken s e) :
    Marked (singleMachine.next s e) := by
  cases e with
  | call p c => exact call_marked c h enabled.1.1
  | statement p k => exact statement_marked h enabled.2
  | complete =>
      have landed : s.driver.inFlight - 1 = 0 := by
        have := h.single
        omega
      constructor
      · exact enabled.2
      · intro p unmarked
        rw [show ((singleMachine.next s .complete).phase p).unmarked = false from
          (wakeUp_unmarked _).trans (inTime p)] at unmarked
        exact absurd unmarked Bool.false_ne_true
      · intro set
        exact absurd set (show ¬ (0 : Word) = 1 by decide)
      · intro flying
        exact absurd (landed ▸ flying : 0 < 0) (Nat.lt_irrefl 0)
  | signal p => exact h.same rfl rfl (signal_keeps Phase.unmarked wakeUp_unmarked p)
  | close | probe | remove => exact h.same rfl rfl fun _ => rfl

/-- A start whose message has completed goes on to set `busy`, or has just set it. -/
def Overtaken (s : CallState ι) : Prop :=
  s.driver.inFlight = 0 ∧ ∃ p, (s.phase p).unmarked = true ∨
    (s.driver.busy = 1 ∧ ∃ status, s.phase p = .started status)

omit [DecidableEq ι] in
theorem Overtaken.inIoctl (h : Overtaken s) : ∃ p, (s.phase p).inIoctl = true := by
  obtain ⟨-, p, unmarked | ⟨-, status, here⟩⟩ := h
  · exact ⟨p, inIoctl_of_unmarked unmarked⟩
  · exact ⟨p, by rw [here]; rfl⟩

theorem overtaken_of_missed {e : CallEvent ι} (single : s.driver.inFlight ≤ 1)
    (missed : ¬ NotOvertaken s e) : Overtaken (callNext s e) := by
  cases e with
  | complete =>
      obtain ⟨p, unmarked⟩ := not_forall.mp missed
      refine ⟨Nat.sub_eq_zero_of_le single, p, .inl ?_⟩
      exact (wakeUp_unmarked _).trans (Bool.not_eq_false _ ▸ unmarked)
  | call | statement | signal | close | probe | remove => exact absurd trivial missed

omit [DecidableEq ι] in
/-- A step of others keeps the start overtaken. -/
theorem Overtaken.same (h : Overtaken s) {t : CallState ι} (busy : t.driver.busy = s.driver.busy)
    (inFlight : t.driver.inFlight = s.driver.inFlight)
    (phase : ∀ p, (s.phase p).inIoctl = true → t.phase p = s.phase p) : Overtaken t := by
  obtain ⟨none, p, here⟩ := h
  have kept : t.phase p = s.phase p := by
    refine phase p ?_
    rcases here with unmarked | ⟨-, status, here⟩
    · exact inIoctl_of_unmarked unmarked
    · rw [here]
      rfl
  refine ⟨inFlight.trans none, p, ?_⟩
  rw [kept, busy]
  exact here

theorem overtaken_call {p : ι} (h : Overtaken s) (c : Call) (outside : s.phase p = .outside) :
    Overtaken (callNext s (.call p c)) := by
  obtain ⟨rxBuf, len, speed, bits, starts⟩ := startCall_eq s.driver c
  refine h.same ?_ ?_ fun q inQ => ?_
  · rw [callNext, proceed_driver, starts]
  · rw [callNext, proceed_driver, starts]
  · apply call_others
    rintro rfl
    rw [outside] at inQ
    exact absurd inQ Bool.false_ne_true

/-- The overtaken start goes on to set the flag. -/
theorem overtaken_unmarked {p : ι} (none : s.driver.inFlight = 0)
    (unmarked : (s.phase p).unmarked = true) (k : Replies) :
    Overtaken (callNext s (.statement p k)) := by
  rcases unmarked_iff.mp unmarked with here | here
  · refine ⟨?_, p, .inl ?_⟩
    · rw [callNext, proceed_driver, here]
      exact none
    · rw [statement_own, here]
      rfl
  · refine ⟨?_, p, .inr ⟨?_, 0, ?_⟩⟩
    · rw [callNext, proceed_driver, here]
      exact none
    · rw [callNext, proceed_driver, here]
      rfl
    · rw [statement_own, here]
      rfl

/-- It returns with the flag set and nothing in flight. -/
theorem not_truthful_of_started {p : ι} {status : Int} (alone : CommandAlone s)
    (none : s.driver.inFlight = 0) (set : s.driver.busy = 1) (here : s.phase p = .started status)
    (k : Replies) : ¬ BusyTruthful (callNext s (.statement p k)) := by
  intro law
  have outside : ∀ r, ((callNext s (.statement p k)).phase r).inIoctl = false := by
    intro r
    by_cases same : r = p
    · rw [same, statement_own, here]
      rfl
    · rw [statement_others p k same]
      refine Bool.eq_false_iff.mpr fun inR => same (alone r p inR ?_)
      rw [here]
      rfl
  have flying := (law outside).mp (by rw [callNext, proceed_driver, here]; exact set)
  rw [callNext, proceed_driver, here] at flying
  exact absurd (none ▸ flying : 0 < 0) (Nat.lt_irrefl 0)

/-- A statement of a process that is not in a command. -/
theorem overtaken_statement_outside {p : ι} (h : Overtaken s)
    (outside : ¬ (s.phase p).inIoctl = true) (k : Replies) :
    Overtaken (callNext s (.statement p k)) := by
  have notMarking : s.phase p ≠ .marking 0 := fun here => outside (by rw [here]; rfl)
  have notAccepted : ¬ Accepts s.driver k (s.phase p) :=
    fun accepted => outside (by rw [accepted.1]; rfl)
  refine h.same ?_ ?_ fun q inQ => ?_
  · rw [callNext, proceed_driver, statement_busy, if_neg notMarking]
  · rw [callNext, proceed_driver, statement_inFlight, if_neg notAccepted]
  · apply statement_others
    rintro rfl
    exact outside inQ

theorem overtaken_statement {p : ι} {k : Replies} (h : Overtaken s) (alone : CommandAlone s)
    (law : BusyTruthful (callNext s (.statement p k))) :
    Overtaken (callNext s (.statement p k)) := by
  by_cases inside : (s.phase p).inIoctl = true
  swap
  · exact overtaken_statement_outside h inside k
  obtain ⟨none, q, here⟩ := h
  -- Only one process is in a command, so that the statement is that of the start.
  obtain rfl : q = p := by
    refine alone q p ?_ inside
    rcases here with unmarked | ⟨-, status, here⟩
    · exact inIoctl_of_unmarked unmarked
    · rw [here]
      rfl
  rcases here with unmarked | ⟨set, status, here⟩
  · exact overtaken_unmarked none unmarked k
  · exact absurd law (not_truthful_of_started alone none set here k)

theorem overtaken_signal (h : Overtaken s) (p : ι) : Overtaken (callNext s (.signal p)) := by
  refine h.same rfl rfl fun q inQ => ?_
  change Function.update s.phase p (s.phase p).wakeUp q = _
  by_cases same : q = p
  · subst same
    rw [Function.update_self]
    cases here : s.phase q with
    | asleep count =>
        rw [here] at inQ
        exact absurd inQ Bool.false_ne_true
    | _ => rfl
  · rw [Function.update_of_ne same]

theorem overtaken_remains (h : Overtaken s) (alone : CommandAlone s) {e : CallEvent ι}
    (enabled : callEnabled s e) (law : BusyTruthful (callNext s e)) :
    Overtaken (callNext s e) := by
  cases e with
  | call p c => exact overtaken_call h c enabled.1
  | statement p k => exact overtaken_statement h alone law
  | complete => exact absurd h.1 (Nat.pos_iff_ne_zero.mp enabled)
  | signal p => exact overtaken_signal h p
  | close | probe | remove => exact h.same rfl rfl fun _ _ => rfl

end steps

/-- Along every run with at most one message in flight the flag is truthful if no transfer
completes before its start has set it. When the commands follow each other and the run ends
outside them, the flag is truthful only if none does. -/
theorem busy_truthful {es : List (CallEvent ι)} (admitted : singleMachine.Admits (noCall ι) es) :
    (singleMachine.EveryStep NotOvertaken (noCall ι) es →
        singleMachine.Always BusyTruthful (noCall ι) es) ∧
      (singleMachine.EveryStep OneCommand (noCall ι) es →
        (∀ p, ((singleMachine.run (noCall ι) es).phase p).inIoctl = false) →
          singleMachine.Always BusyTruthful (noCall ι) es →
            singleMachine.EveryStep NotOvertaken (noCall ι) es) := by
  constructor
  · intro inTime
    exact always_mono (fun _ h => h.truthful)
      (always_of_everyStep next_marked (noCall_marked ι) admitted inTime)
  · intro one ended law
    refine everyStep_of_trap_of_kept (T := Overtaken)
      (I := fun s => CommandAlone s ∧ s.driver.inFlight ≤ 1) ?_ ?_ ?_
      ⟨fun _ _ inside => absurd inside Bool.false_ne_true, Nat.zero_le 1⟩ admitted
      (one.and law.everyStep) ?_
    · exact fun s e h enabled law => ⟨callNext_commandAlone h.1 law.1, enabled.2⟩
    · exact fun s e h enabled law missed => overtaken_of_missed h.2 missed
    · exact fun s e h overtaken enabled law => overtaken_remains overtaken h.1 enabled.1 law.2
    · intro overtaken
      obtain ⟨p, inside⟩ := overtaken.inIoctl
      exact absurd ((ended p).symm.trans inside) Bool.false_ne_true

/-- The transfer completes once `busy` is set, and the next start fails. -/
def inTimeRun : List (CallEvent Caller) :=
  openedRun ++ [.call .first (.ioctl cmdSpiStart 0)] ++ granted .first 3 ++ [.complete] ++
    granted .first 1 ++ [.remove] ++ startRun .first

set_option maxRecDepth 8000 in
theorem busy_truthful_inTime :
    singleMachine.Always BusyTruthful (noCall Caller) inTimeRun := by
  have admitted : singleMachine.Admits (noCall Caller) inTimeRun := by decide +kernel
  exact (busy_truthful admitted).1 (by decide +kernel)

/-- The transfer completes right after its submission. -/
def overtakenRun : List (CallEvent Caller) :=
  openedRun ++ [.call .first (.ioctl cmdSpiStart 0)] ++ granted .first 1 ++ [.complete] ++
    granted .first 3

set_option maxRecDepth 8000 in
theorem busy_truthful_refuted :
    ¬ ∀ (ι : Type) [DecidableEq ι] (es : List (CallEvent ι)),
      singleMachine.Admits (noCall ι) es → singleMachine.Always BusyTruthful (noCall ι) es := by
  intro every
  have law := (every Caller overtakenRun (by decide +kernel)).last
  have flying := (law (by decide +kernel)).mp (by decide +kernel)
  exact absurd flying (by decide +kernel)

end Gumstix.CanSpi
