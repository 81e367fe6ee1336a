import Gumstix.CanSpi.CallSpecs

/-!
# The file semaphore

Opens, reads and writes take `fop_sem` and release it before they return, but for a read that
a signal has woken.
-/
namespace Gumstix.CanSpi
open Gumstix.Synchronization (Word)
open EventMachine

/-- In an open, a read or a write. -/
def Phase.inFileCall : Phase → Bool
  | .outside | .submitting | .unlocking _ | .marking _ | .started _ => false
  | _ => true

/-- After `interruptible_sleep_on`. -/
def Phase.afterSleep : Phase → Bool
  | .woken _ => true
  | _ => false

theorem afterSleep_iff {phase : Phase} :
    phase.afterSleep = true ↔ ∃ count, phase = .woken count := by
  cases phase <;> simp [Phase.afterSleep]

theorem inFileCall_of_holdsSem {phase : Phase} (holds : phase.holdsSem = true) :
    phase.inFileCall = true := by
  cases phase <;> first | rfl | exact holds

variable {ι : Type*} [DecidableEq ι]

/-- The count of the semaphore is 1 when no open, read or write is in progress. -/
def SemBalanced (s : CallState ι) : Prop :=
  (∀ p, (s.phase p).inFileCall = false) → s.driver.fopSem = 1

/-- No read finds a signal after its sleep. -/
def NotInterrupted (s : CallState ι) : CallEvent ι → Prop
  | .statement p k => (s.phase p).afterSleep = true → k.signalPending = false
  | _ => True

instance (s : CallState ι) : (e : CallEvent ι) → Decidable (NotInterrupted s e)
  | .statement _ _ => inferInstanceAs (Decidable (_ → _))
  | .call _ _ | .complete | .signal _ | .close | .probe | .remove => .isTrue trivial

/-- One process at most has the semaphore, whose count is 0 then. -/
structure SemExclusive (s : CallState ι) : Prop where
  atMost : s.driver.fopSem ≤ 1
  taken : ∀ p, (s.phase p).holdsSem = true → s.driver.fopSem = 0
  alone : ∀ p q, (s.phase p).holdsSem = true → (s.phase q).holdsSem = true → p = q

theorem noCall_semExclusive (ι : Type*) : SemExclusive (noCall ι) where
  atMost := Nat.le_refl 1
  taken _ holds := nomatch holds
  alone _ _ holds := nomatch holds

section steps
variable {s : CallState ι}

/-- All steps but statements leave the semaphore and its holders alone. -/
theorem callNext_sem {e : CallEvent ι} (enabled : callEnabled s e)
    (notStatement : ∀ p k, e ≠ .statement p k) :
    (callNext s e).driver.fopSem = s.driver.fopSem ∧
      ∀ q, ((callNext s e).phase q).holdsSem = (s.phase q).holdsSem := by
  cases e with
  | call p c =>
      obtain ⟨rxBuf, len, speed, bits, starts⟩ := startCall_eq s.driver c
      constructor
      · rw [callNext, proceed_driver, starts]
      · apply call_keeps
        rw [startCall_holdsSem, enabled.1]
        rfl
  | statement p k => exact absurd rfl (notStatement p k)
  | complete => exact ⟨rfl, fun q => wakeUp_holdsSem _⟩
  | signal p => exact ⟨rfl, signal_keeps Phase.holdsSem wakeUp_holdsSem p⟩
  | close | probe | remove => exact ⟨rfl, fun _ => rfl⟩

omit [DecidableEq ι] in
theorem SemExclusive.same (h : SemExclusive s) {t : CallState ι}
    (count : t.driver.fopSem = s.driver.fopSem)
    (holds : ∀ q, (t.phase q).holdsSem = true → (s.phase q).holdsSem = true) :
    SemExclusive t where
  atMost := count ▸ h.atMost
  taken p held := count ▸ h.taken p (holds p held)
  alone p q heldP heldQ := h.alone p q (holds p heldP) (holds q heldQ)

theorem callNext_semExclusive (s : CallState ι) (e : CallEvent ι) (h : SemExclusive s)
    (enabled : callEnabled s e) : SemExclusive (callNext s e) := by
  by_cases isStatement : ∀ p k, e ≠ .statement p k
  · obtain ⟨count, holds⟩ := callNext_sem enabled isStatement
    exact h.same count fun q held => holds q ▸ held
  · simp only [not_forall, not_not] at isStatement
    obtain ⟨p, k, rfl⟩ := isStatement
    have driver : (callNext s (.statement p k)).driver =
        (statement s.driver k (s.phase p)).1 := proceed_driver _
    have own : (callNext s (.statement p k)).phase p =
        goesTo (statement s.driver k (s.phase p)).2 := by
      rw [statement_own]
    rcases statement_semUse s.driver k (s.phase p) with
      ⟨waits, free, count, holds⟩ | ⟨held, count, without⟩ | ⟨count, same⟩ |
        ⟨n, here, pending, count, without⟩
    · -- The semaphore was free, so that nobody else had it.
      have nobody : ∀ q, q ≠ p → ((callNext s (.statement p k)).phase q).holdsSem = false := by
        intro q other
        rw [statement_others p k other]
        by_contra holding
        exact absurd (h.taken q (Bool.not_eq_false _ ▸ holding)) (Nat.pos_iff_ne_zero.mp free)
      have onlyP : ∀ q, ((callNext s (.statement p k)).phase q).holdsSem = true → q = p := by
        intro q holding
        by_contra other
        exact absurd ((nobody q other).symm.trans holding) Bool.false_ne_true
      have zero : (callNext s (.statement p k)).driver.fopSem = 0 := by
        rw [driver, count]
        exact Nat.sub_eq_zero_of_le h.atMost
      exact ⟨zero ▸ Nat.zero_le 1, fun _ _ => zero, fun q r holdsQ holdsR =>
        (onlyP q holdsQ).trans (onlyP r holdsR).symm⟩
    · have mine := holdsSem_of_releasing held
      have nobody : ∀ q, ((callNext s (.statement p k)).phase q).holdsSem = false := by
        intro q
        by_cases same : q = p
        · rw [same, own, without]
        · rw [statement_others p k same]
          by_contra holding
          exact same (h.alone q p (Bool.not_eq_false _ ▸ holding) mine)
      have one : (callNext s (.statement p k)).driver.fopSem = 1 := by
        rw [driver, count, h.taken p mine]
      exact ⟨one ▸ Nat.le_refl 1,
        fun q holding => absurd ((nobody q).symm.trans holding) Bool.false_ne_true,
        fun q _ holding => absurd ((nobody q).symm.trans holding) Bool.false_ne_true⟩
    · refine h.same (driver ▸ count) fun q held => ?_
      by_cases mine : q = p
      · subst mine
        rwa [own, same] at held
      · rwa [statement_others p k mine] at held
    · refine h.same (driver ▸ count) fun q held => ?_
      by_cases mine : q = p
      · subst mine
        rw [own, without] at held
        exact absurd held Bool.false_ne_true
      · rwa [statement_others p k mine] at held

/-- While the count is 0, some process has the semaphore. -/
structure SemOwned (s : CallState ι) : Prop where
  exclusive : SemExclusive s
  owner : s.driver.fopSem = 0 → ∃ p, (s.phase p).holdsSem = true

theorem noCall_semOwned (ι : Type*) : SemOwned (noCall ι) where
  exclusive := noCall_semExclusive ι
  owner zero := absurd zero Nat.one_ne_zero

omit [DecidableEq ι] in
theorem SemOwned.balanced (h : SemOwned s) : SemBalanced s := by
  intro outside
  have notZero : s.driver.fopSem ≠ 0 := by
    intro zero
    obtain ⟨p, holds⟩ := h.owner zero
    exact absurd ((outside p).symm.trans (inFileCall_of_holdsSem holds)) Bool.false_ne_true
  have := h.exclusive.atMost
  omega

theorem callNext_semOwned (s : CallState ι) (e : CallEvent ι) (h : SemOwned s)
    (enabled : callEnabled s e) (undisturbed : NotInterrupted s e) : SemOwned (callNext s e) := by
  refine ⟨callNext_semExclusive s e h.exclusive enabled, fun zero => ?_⟩
  by_cases isStatement : ∀ p k, e ≠ .statement p k
  · obtain ⟨count, holds⟩ := callNext_sem enabled isStatement
    obtain ⟨p, held⟩ := h.owner (count ▸ zero)
    exact ⟨p, (holds p).trans held⟩
  · simp only [not_forall, not_not] at isStatement
    obtain ⟨p, k, rfl⟩ := isStatement
    rw [callNext, proceed_driver] at zero
    have own : (callNext s (.statement p k)).phase p =
        goesTo (statement s.driver k (s.phase p)).2 := by
      rw [statement_own]
    rcases statement_semUse s.driver k (s.phase p) with
      ⟨-, -, -, holds⟩ | ⟨-, count, -⟩ | ⟨count, same⟩ | ⟨n, here, pending, -, -⟩
    · exact ⟨p, own ▸ holds⟩
    · exact absurd (count.symm.trans zero) (Nat.succ_ne_zero _)
    · obtain ⟨q, held⟩ := h.owner (count.symm.trans zero)
      refine ⟨q, ?_⟩
      by_cases mine : q = p
      · subst mine
        rw [own, same, held]
      · rw [statement_others p k mine, held]
    · exact absurd ((undisturbed (here ▸ rfl)).symm.trans pending) Bool.false_ne_true

/-- The count is 0 and nobody has the semaphore. -/
def SemLost (s : CallState ι) : Prop :=
  s.driver.fopSem = 0 ∧ ∀ p, (s.phase p).holdsSem = false

theorem semLost_of_missed (h : SemExclusive s) {e : CallEvent ι} (missed : ¬ NotInterrupted s e) :
    SemLost (callNext s e) := by
  cases e with
  | statement p k =>
      obtain ⟨slept, pending⟩ := Classical.not_imp.mp missed
      obtain ⟨n, here⟩ := afterSleep_iff.mp slept
      have mine : (s.phase p).holdsSem = true := by
        rw [here]
        rfl
      have leaves : statement s.driver k (s.phase p) = (s.driver, .inr (-eintr)) := by
        rw [here, statement, if_pos (Bool.not_eq_false _ ▸ pending)]
      refine ⟨?_, fun q => ?_⟩
      · rw [callNext, proceed_driver, leaves]
        exact h.taken p mine
      · by_cases same : q = p
        · subst same
          rw [statement_own, leaves]
          rfl
        · rw [statement_others p k same]
          by_contra holding
          exact same (h.alone q p (Bool.not_eq_false _ ▸ holding) mine)
  | call | complete | signal | close | probe | remove => exact absurd trivial missed

/-- No step gives it back. -/
theorem semLost_remains (lost : SemLost s) {e : CallEvent ι} (enabled : callEnabled s e) :
    SemLost (callNext s e) := by
  by_cases isStatement : ∀ p k, e ≠ .statement p k
  · obtain ⟨count, holds⟩ := callNext_sem enabled isStatement
    exact ⟨count.trans lost.1, fun p => (holds p).trans (lost.2 p)⟩
  · simp only [not_forall, not_not] at isStatement
    obtain ⟨p, k, rfl⟩ := isStatement
    have without := lost.2 p
    rcases statement_semUse s.driver k (s.phase p) with
      ⟨-, free, -, -⟩ | ⟨held, -, -⟩ | ⟨count, same⟩ | ⟨n, here, -, -, -⟩
    · exact absurd lost.1 (Nat.pos_iff_ne_zero.mp free)
    · exact absurd (without.symm.trans (holdsSem_of_releasing held)) Bool.false_ne_true
    · refine ⟨?_, fun q => ?_⟩
      · rw [callNext, proceed_driver, count, lost.1]
      · by_cases mine : q = p
        · subst mine
          rw [statement_own, same, without]
        · rw [statement_others p k mine, lost.2]
    · rw [here] at without
      exact absurd without.symm Bool.false_ne_true

end steps

/-- Along every run the semaphore is balanced if no read finds a signal after its sleep. When
the run ends outside opens, reads and writes, it is balanced only if none does. -/
theorem sem_balanced {es : List (CallEvent ι)} (admitted : callMachine.Admits (noCall ι) es) :
    (callMachine.EveryStep NotInterrupted (noCall ι) es →
        callMachine.Always SemBalanced (noCall ι) es) ∧
      ((∀ p, ((callMachine.run (noCall ι) es).phase p).inFileCall = false) →
        callMachine.Always SemBalanced (noCall ι) es →
          callMachine.EveryStep NotInterrupted (noCall ι) es) := by
  constructor
  · intro undisturbed
    exact always_mono (fun _ h => h.balanced)
      (always_of_everyStep callNext_semOwned (noCall_semOwned ι) admitted undisturbed)
  · intro ended law
    refine everyStep_of_trap_of_kept (T := SemLost)
      (fun s e h enabled _ => callNext_semExclusive s e h enabled)
      (fun _ _ h _ _ missed => semLost_of_missed h missed)
      (fun _ _ _ lost enabled _ => semLost_remains lost enabled) (noCall_semExclusive ι) admitted
      law.everyStep ?_
    intro lost
    exact absurd ((law.last ended).symm.trans lost.1) Nat.one_ne_zero

/-- A read sleeps until the transfer has completed and copies the samples. -/
def sleptRun : List (CallEvent Caller) :=
  openedRun ++ startRun .first ++ [.call .first (.read false 160)] ++ granted .first 3 ++
    [.complete] ++ granted .first 4

set_option maxRecDepth 8000 in
theorem sem_balanced_sleptRun : callMachine.Always SemBalanced (noCall Caller) sleptRun := by
  have admitted : callMachine.Admits (noCall Caller) sleptRun := by decide +kernel
  exact (sem_balanced admitted).1 (by decide +kernel)

/-- A signal wakes the read. -/
def interruptedRun : List (CallEvent Caller) :=
  openedRun ++ startRun .first ++ [.call .first (.read false 160)] ++ granted .first 3 ++
    [.signal .first, .statement .first { Replies.granted with signalPending := true }]

set_option maxRecDepth 8000 in
theorem sem_balanced_refuted :
    ¬ ∀ (ι : Type) [DecidableEq ι] (es : List (CallEvent ι)),
      callMachine.Admits (noCall ι) es → callMachine.Always SemBalanced (noCall ι) es := by
  intro every
  have law := (every Caller interruptedRun (by decide +kernel)).last
  exact absurd (law (by decide +kernel)) (by decide +kernel)

end Gumstix.CanSpi
