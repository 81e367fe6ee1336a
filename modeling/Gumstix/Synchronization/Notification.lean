import Gumstix.Synchronization.StateMachine

/-!
# Notification of PPS

Any number of processes read `/dev/synchronization` while interrupts come between the
statements of `Synchronization_read`. The handlers write `m_uiReadKind` and `m_bReadDone`
together; a reader resets them in two statements with the copy between.
-/
namespace Gumstix.Synchronization
open EventMachine

/-- What a read can deliver: a real PPS or one that the relay timer simulates. -/
inductive Notice where
  | ppsDetected
  | ppsSimulated
  deriving DecidableEq, Repr

def Notice.text : Notice → String
  | .ppsDetected => "Pps detected"
  | .ppsSimulated => "Pps simulated"

/-- `strlen` and the terminating zero. -/
def Notice.size (m : Notice) : Nat := m.text.length + 1

/-- The value of `m_uiReadKind`. -/
def Notice.kind : Notice → Word
  | .ppsDetected => 1
  | .ppsSimulated => 2

def noticeOf (readKind : Word) : Option Notice :=
  if readKind = 1 then some .ppsDetected
  else if readKind = 2 then some .ppsSimulated
  else none

@[simp] theorem noticeOf_kind (m : Notice) : noticeOf m.kind = some m := by
  cases m <;> rfl

/-- Before which statement of `Synchronization_read` a process is. -/
inductive ReadPhase where
  | idle
  | testing
  /-- `m_bReadDone` was 0 and the process is about to sleep. -/
  | parking
  | asleep
  | woken
  /-- The reset of `m_bReadDone`. -/
  | resetting
  /-- The test of `m_uiReadKind` and the copy. -/
  | copying
  /-- The reset of `m_uiReadKind`, with the text already in the user's buffer. -/
  | finishing (m : Notice)
  deriving DecidableEq, Repr

/-- The returned value and the text in the buffer. -/
structure ReadReturn where
  ret : Nat
  delivered : Option Notice
  deriving DecidableEq, Repr

def Notice.delivery (m : Notice) : ReadReturn := ⟨m.size, some m⟩

/-- A statement of `Synchronization_read`: the driver and the static `iCopiedBytes` after
it, and where the call goes on or what it returns. No signal is pending, and the result of
the copy, which the function does not look at, is success. -/
def readStatement (d : Driver) (copiedBytes : Nat) :
    ReadPhase → Driver × Nat × (ReadPhase ⊕ ReadReturn)
  | .idle => (d, copiedBytes, .inl .idle)
  | .testing => (d, copiedBytes, .inl (if d.readDone = 0 then .parking else .resetting))
  | .parking => (d, copiedBytes, .inl .asleep)
  | .asleep => (d, copiedBytes, .inl .asleep)
  | .woken => (d, copiedBytes, .inl .resetting)
  | .resetting =>
      (if d.readDone = 1 then { d with readDone := 0 } else d, copiedBytes, .inl .copying)
  | .copying =>
      match noticeOf d.readKind with
      | some m => (d, m.size, .inl (.finishing m))
      | none => (d, copiedBytes, .inr ⟨0, none⟩)
  | .finishing m => ({ d with readKind := 0 }, copiedBytes, .inr ⟨copiedBytes, some m⟩)

def synchronizationPoll (d : Driver) : Word :=
  if d.readDone = 1 then pollin ||| pollrdnorm else 0

/-- What the handling of an event announces to the readers. -/
def noticeFrom (d : Driver) : Event → Option Notice
  | .pps _ => some .ppsDetected
  | .relay _ => if d.driverCurrentState = .gpsOff then some .ppsSimulated else none
  | .ioctl _ _ _ => none

structure NotifyState (ι : Type*) where
  driver : Driver
  copiedBytes : Nat
  phase : ι → ReadPhase
  returned : ι → Option ReadReturn

inductive NotifyEvent (ι : Type*) where
  | start (p : ι)
  | statement (p : ι)
  | driver (e : Event)

def ReadPhase.runnable : ReadPhase → Bool
  | .idle | .asleep => false
  | _ => true

def ReadPhase.wakeUp : ReadPhase → ReadPhase
  | .asleep => .woken
  | phase => phase

section machine
variable {ι : Type*} [DecidableEq ι] (s : NotifyState ι)

/-- After a statement of process `p` its call goes on or returns. -/
def NotifyState.proceed (p : ι) : Driver × Nat × (ReadPhase ⊕ ReadReturn) → NotifyState ι
  | (driver, copiedBytes, .inl phase) =>
      { s with driver, copiedBytes, phase := Function.update s.phase p phase }
  | (driver, copiedBytes, .inr r) =>
      { driver, copiedBytes
        phase := Function.update s.phase p .idle
        returned := Function.update s.returned p (some r) }

def notifyNext : NotifyEvent ι → NotifyState ι
  | .start p => { s with phase := Function.update s.phase p .testing }
  | .statement p => s.proceed p (readStatement s.driver s.copiedBytes (s.phase p))
  | .driver e =>
      { s with
        driver := handle s.driver e
        phase := if (noticeFrom s.driver e).isSome then fun p => (s.phase p).wakeUp else s.phase }

def notifyEnabled : NotifyEvent ι → Prop
  | .start p => s.phase p = .idle
  | .statement p => (s.phase p).runnable = true
  | .driver e => possible s.driver e

def notifyMachine : EventMachine (NotifyState ι) (NotifyEvent ι) := ⟨notifyEnabled, notifyNext⟩

instance : (e : NotifyEvent ι) → Decidable (notifyMachine.enabled s e)
  | .start _ => inferInstanceAs (Decidable (_ = _))
  | .statement _ => inferInstanceAs (Decidable (_ = _))
  | .driver _ => inferInstanceAs (Decidable (possible _ _))

/-- The observer collects what was announced since a read completed, the last first. -/
def watchNotices (e : NotifyEvent ι) (since : List Notice) : List Notice :=
  match e with
  | .start _ => since
  | .statement p =>
      match (readStatement s.driver s.copiedBytes (s.phase p)).2.2 with
      | .inl _ => since
      | .inr _ => []
  | .driver e => (noticeFrom s.driver e).toList ++ since

def noticeMachine : EventMachine (NotifyState ι × List Notice) (NotifyEvent ι) :=
  notifyMachine.observe watchNotices

/-- After the load no process is in a read. -/
def noReader (ι : Type*) (ppsClock relayClock : Word) : NotifyState ι × List Notice :=
  (⟨synchronizationInitialize ppsClock relayClock, 0, fun _ => .idle, fun _ => none⟩, [])

/-- A statement that completes a read delivers a notice from the interrupts handled since
the previous completed read. -/
def DeliversRecent (s : NotifyState ι × List Notice) : NotifyEvent ι → Prop
  | .statement p =>
      ∀ r, (readStatement s.1.driver s.1.copiedBytes (s.1.phase p)).2.2 = .inr r →
        ∃ m ∈ s.2, r = m.delivery
  | .start _ => True
  | .driver _ => True

/-- A read by `p` alone, with the listed events handled before each of its statements. -/
def readAlone (p : ι) (fronts : List (List Event)) : List (NotifyEvent ι) :=
  .start p :: fronts.flatMap fun front => front.map .driver ++ [.statement p]

/-- When poll announces data and no read is in progress, a read by one process delivers a
notice with its four statements, whatever is handled between them. -/
def PollHonoured (s : NotifyState ι × List Notice) : Prop :=
  synchronizationPoll s.1.driver = pollin ||| pollrdnorm → (∀ q, s.1.phase q = .idle) →
    ∀ p (fronts : Fin 4 → List Event), ∃ m : Notice,
      (notifyMachine.run s.1 (readAlone p (List.ofFn fronts))).returned p = some m.delivery

/-- Between the reset of `m_bReadDone` and the reset of `m_uiReadKind`. -/
def ReadPhase.InWindow : ReadPhase → Prop
  | .copying => True
  | .finishing _ => True
  | _ => False

instance : (phase : ReadPhase) → Decidable phase.InWindow
  | .idle | .testing | .parking | .asleep | .woken | .resetting => .isFalse id
  | .copying | .finishing _ => .isTrue trivial

/-- Before the two resets: `m_bReadDone` is still set and no other reader is between them
when a reader takes the notice, and no interrupt has come when it is done with it. -/
def MayReset (s : NotifyState ι) : ReadPhase → Prop
  | .resetting => s.driver.readDone = 1 ∧ ∀ q, ¬ (s.phase q).InWindow
  | .finishing _ => s.driver.readDone = 0
  | _ => True

def ResetsApart (s : NotifyState ι × List Notice) : NotifyEvent ι → Prop
  | .statement p => MayReset s.1 (s.1.phase p)
  | .start _ => True
  | .driver _ => True

instance [Fintype ι] : (phase : ReadPhase) → Decidable (MayReset s phase)
  | .resetting => inferInstanceAs (Decidable (_ ∧ _))
  | .finishing _ => inferInstanceAs (Decidable (_ = _))
  | .idle | .testing | .parking | .asleep | .woken | .copying => .isTrue trivial

instance [Fintype ι] (s : NotifyState ι × List Notice) :
    (e : NotifyEvent ι) → Decidable (ResetsApart s e)
  | .statement _ => inferInstanceAs (Decidable (MayReset _ _))
  | .start _ => .isTrue trivial
  | .driver _ => .isTrue trivial

end machine

/-- The flags of the driver name a notice that has been announced. -/
def Pending (d : Driver) (since : List Notice) : Prop := ∃ m ∈ since, d.readKind = m.kind

theorem handle_notice {d : Driver} {e : Event} {m : Notice} (h : noticeFrom d e = some m) :
    (handle d e).readDone = 1 ∧ (handle d e).readKind = m.kind := by
  cases e with
  | pps r =>
      obtain rfl : .ppsDetected = m := Option.some.inj h
      exact ⟨rfl, rfl⟩
  | relay r =>
      by_cases off : d.driverCurrentState = .gpsOff
      · rw [noticeFrom, if_pos off] at h
        obtain rfl : .ppsSimulated = m := Option.some.inj h
        rw [handle]
        refine relay_cases d r ?_ ?_
        · intro _; exact ⟨rfl, rfl⟩
        · intro on; exact absurd off on
      · rw [noticeFrom, if_neg off] at h
        cases h
  | ioctl cmd arg u => cases h

theorem handle_silent {d : Driver} {e : Event} (h : noticeFrom d e = none) :
    (handle d e).readDone = d.readDone ∧ (handle d e).readKind = d.readKind := by
  cases e with
  | pps r => cases h
  | relay r =>
      have on : d.driverCurrentState ≠ .gpsOff := by
        intro off
        rw [noticeFrom, if_pos off] at h
        cases h
      rw [handle]
      refine relay_cases d r ?_ ?_
      · intro off; exact absurd off on
      · intro _; exact ⟨rfl, rfl⟩
  | ioctl cmd arg u =>
      exact ioctl_cases (P := fun d' => d'.readDone = d.readDone ∧ d'.readKind = d.readKind)
        d cmd arg u ⟨rfl, rfl⟩ (fun _ _ _ => ⟨rfl, rfl⟩) (fun _ => ⟨rfl, rfl⟩)
        (fun _ => ⟨rfl, rfl⟩) fun _ _ => ⟨rfl, rfl⟩

theorem handle_pending {d : Driver} (e : Event) {since : List Notice} (h : Pending d since) :
    Pending (handle d e) ((noticeFrom d e).toList ++ since) := by
  obtain ⟨m, recent, kind⟩ := h
  cases announced : noticeFrom d e with
  | none => exact ⟨m, recent, (handle_silent announced).2.trans kind⟩
  | some m' => exact ⟨m', List.mem_cons_self, (handle_notice announced).2⟩

section protocol
variable {ι : Type*} [DecidableEq ι]

/-- What events of the driver leave as it is for process `p`. -/
structure ReaderUndisturbed (p : ι) (s t : NotifyState ι) : Prop where
  phase : (s.phase p).runnable = true → t.phase p = s.phase p
  copied : t.copiedBytes = s.copiedBytes
  returned : t.returned = s.returned
  done : s.driver.readDone = 1 → t.driver.readDone = 1
  kind : (∃ m : Notice, s.driver.readKind = m.kind) → ∃ m : Notice, t.driver.readKind = m.kind

theorem wakeUp_runnable {phase : ReadPhase} (h : phase.runnable = true) :
    phase.wakeUp = phase := by
  cases phase with
  | asleep => cases h
  | idle | testing | parking | woken | resetting | copying | finishing m => rfl

theorem driver_undisturbed (p : ι) (s : NotifyState ι) (e : Event) :
    ReaderUndisturbed p s (notifyNext s (.driver e)) where
  phase running := by
    rw [notifyNext]
    split_ifs
    · exact wakeUp_runnable running
    · rfl
  copied := rfl
  returned := rfl
  done set := by
    cases announced : noticeFrom s.driver e with
    | none => exact (handle_silent announced).1.trans set
    | some m => exact (handle_notice announced).1
  kind := by
    rintro ⟨m, kind⟩
    cases announced : noticeFrom s.driver e with
    | none => exact ⟨m, (handle_silent announced).2.trans kind⟩
    | some m' => exact ⟨m', (handle_notice announced).2⟩

theorem drivers_undisturbed (p : ι) (s : NotifyState ι) (front : List Event) :
    ReaderUndisturbed p s (notifyMachine.run s (front.map .driver)) := by
  induction front generalizing s with
  | nil => exact ⟨fun _ => rfl, rfl, rfl, id, id⟩
  | cons e front ih =>
      have first := driver_undisturbed p s e
      have rest := ih (notifyNext s (.driver e))
      refine ⟨fun running => ?_, rest.copied.trans first.copied,
        rest.returned.trans first.returned, fun set => rest.done (first.done set),
        fun kind => rest.kind (first.kind kind)⟩
      have same := first.phase running
      exact (rest.phase (by rw [same]; exact running)).trans same

/-- The listed events and then one statement of `p`. -/
def afterFront (p : ι) (s : NotifyState ι) (front : List Event) : NotifyState ι :=
  notifyMachine.run s (front.map .driver ++ [.statement p])

theorem run_readAlone (p : ι) (s : NotifyState ι) (fronts : List (List Event)) :
    notifyMachine.run s (readAlone p fronts) =
      fronts.foldl (afterFront p) (notifyNext s (.start p)) := by
  change notifyMachine.run (notifyNext s (.start p)) _ = _
  generalize notifyNext s (.start p) = t
  induction fronts generalizing t with
  | nil => rfl
  | cons front fronts ih =>
      rw [List.flatMap_cons, run_append, List.foldl_cons, ← ih (afterFront p t front)]
      rfl

section alone
variable {p : ι} {s : NotifyState ι} (front : List Event)

theorem afterFront_eq {phase : ReadPhase} (here : s.phase p = phase)
    (running : phase.runnable = true) : ∃ t, ReaderUndisturbed p s t ∧
      afterFront p s front = t.proceed p (readStatement t.driver t.copiedBytes phase) := by
  have rest := drivers_undisturbed p s front
  refine ⟨_, rest, ?_⟩
  have still := (rest.phase (by rw [here]; exact running)).trans here
  rw [afterFront, run_append, run_cons, run_nil, ← still]
  rfl

theorem afterFront_testing (here : s.phase p = .testing) (done : s.driver.readDone = 1)
    (kind : ∃ m : Notice, s.driver.readKind = m.kind) :
    (afterFront p s front).phase p = .resetting ∧
      ∃ m : Notice, (afterFront p s front).driver.readKind = m.kind := by
  obtain ⟨t, rest, same⟩ := afterFront_eq front here rfl
  have set : t.driver.readDone ≠ 0 := by
    rw [rest.done done]
    decide
  rw [same, readStatement, if_neg set]
  exact ⟨Function.update_self p _ _, rest.kind kind⟩

theorem afterFront_resetting (here : s.phase p = .resetting)
    (kind : ∃ m : Notice, s.driver.readKind = m.kind) :
    (afterFront p s front).phase p = .copying ∧
      ∃ m : Notice, (afterFront p s front).driver.readKind = m.kind := by
  obtain ⟨t, rest, same⟩ := afterFront_eq front here rfl
  rw [same, readStatement]
  refine ⟨Function.update_self p _ _, ?_⟩
  obtain ⟨m, named⟩ := rest.kind kind
  refine ⟨m, ?_⟩
  rw [NotifyState.proceed]
  split_ifs <;> exact named

theorem afterFront_copying (here : s.phase p = .copying)
    (kind : ∃ m : Notice, s.driver.readKind = m.kind) :
    ∃ m, (afterFront p s front).phase p = .finishing m ∧
      (afterFront p s front).copiedBytes = m.size := by
  obtain ⟨t, rest, same⟩ := afterFront_eq front here rfl
  obtain ⟨m, named⟩ := rest.kind kind
  rw [same, readStatement, named, noticeOf_kind]
  exact ⟨m, Function.update_self p _ _, rfl⟩

theorem afterFront_finishing {m : Notice} (here : s.phase p = .finishing m)
    (copied : s.copiedBytes = m.size) :
    (afterFront p s front).returned p = some m.delivery := by
  obtain ⟨t, rest, same⟩ := afterFront_eq front here rfl
  rw [same, readStatement, rest.copied, copied]
  exact Function.update_self p _ _

end alone

/-- When the flags agree a read by one process delivers a notice. -/
theorem pollHonoured_of_kind {s : NotifyState ι × List Notice}
    (agree : s.1.driver.readDone = 1 → ∃ m : Notice, s.1.driver.readKind = m.kind) :
    PollHonoured s := by
  intro announced idle p fronts
  have done : s.1.driver.readDone = 1 := by
    by_contra clear
    rw [synchronizationPoll, if_neg clear] at announced
    exact absurd announced (by decide)
  have started : (notifyNext s.1 (.start p)).phase p = .testing := Function.update_self p _ _
  rw [run_readAlone]
  simp only [List.ofFn_succ, List.ofFn_zero, List.foldl_cons, List.foldl_nil]
  obtain ⟨resetting, kind⟩ := afterFront_testing (fronts 0) started done (agree done)
  obtain ⟨copying, kind⟩ := afterFront_resetting (fronts 1) resetting kind
  obtain ⟨m, finishing, copied⟩ := afterFront_copying (fronts 2) copying kind
  exact ⟨m, afterFront_finishing (fronts 3) finishing copied⟩

end protocol

section invariant
variable {ι : Type*}

/-- What a reader between the two resets relies on. -/
def Relies (s : NotifyState ι × List Notice) : ReadPhase → Prop
  | .copying => Pending s.1.driver s.2
  | .finishing m => m ∈ s.2 ∧ s.1.copiedBytes = m.size
  | _ => True

theorem relies_outside {s : NotifyState ι × List Notice} {phase : ReadPhase}
    (out : ¬ phase.InWindow) : Relies s phase := by
  cases phase with
  | copying | finishing => exact absurd trivial out
  | idle | testing | parking | asleep | woken | resetting => trivial

structure Notifying (s : NotifyState ι × List Notice) : Prop where
  fresh : s.1.driver.readDone = 1 → Pending s.1.driver s.2
  alone : ∀ p q, (s.1.phase p).InWindow → (s.1.phase q).InWindow → p = q
  relies : ∀ p, Relies s (s.1.phase p)

theorem Notifying.others {s : NotifyState ι × List Notice} {p q : ι} (h : Notifying s)
    (window : (s.1.phase p).InWindow) (other : q ≠ p) : ¬ (s.1.phase q).InWindow :=
  fun inside => other (h.alone q p inside window)

theorem noReader_notifying (ppsClock relayClock : Word) :
    Notifying (noReader ι ppsClock relayClock) where
  fresh set := by
    change (0 : Word) = 1 at set
    exact absurd set (by decide)
  alone _ _ window := window.elim
  relies _ := trivial

theorem Notifying.delivers {s : NotifyState ι × List Notice} (h : Notifying s)
    (e : NotifyEvent ι) : DeliversRecent s e := by
  cases e with
  | start | driver => trivial
  | statement p =>
      intro r completes
      have relies := h.relies p
      cases here : s.1.phase p with
      | idle | testing | parking | asleep | woken | resetting =>
          rw [here] at completes
          cases completes
      | copying =>
          rw [here] at completes relies
          obtain ⟨m, -, kind⟩ := relies
          rw [readStatement, kind, noticeOf_kind] at completes
          cases completes
      | finishing m =>
          rw [here] at completes relies
          obtain ⟨recent, copied⟩ := relies
          obtain rfl : _ = r := Sum.inr.inj completes
          exact ⟨m, recent, by rw [copied]; rfl⟩

variable [DecidableEq ι]

/-- Process `p` moves while no other one is between the resets. -/
theorem Notifying.only {s : NotifyState ι} {p : ι} {driver : Driver} {copiedBytes : Nat}
    {phase : ReadPhase} {returned : ι → Option ReadReturn} {since : List Notice}
    (others : ∀ q, q ≠ p → ¬ (s.phase q).InWindow)
    (fresh : driver.readDone = 1 → Pending driver since)
    (own : Relies (⟨driver, copiedBytes, Function.update s.phase p phase, returned⟩, since)
      phase) :
    Notifying (⟨driver, copiedBytes, Function.update s.phase p phase, returned⟩, since) where
  fresh := fresh
  alone q q' window window' := by
    have isP : ∀ r, (Function.update s.phase p phase r).InWindow → r = p := by
      intro r inside
      by_contra other
      rw [Function.update_of_ne other] at inside
      exact others r other inside
    rw [isP q window, isP q' window']
  relies q := by
    change Relies _ (Function.update s.phase p phase q)
    by_cases same : q = p
    · subst same
      rw [Function.update_self]
      exact own
    · rw [Function.update_of_ne same]
      exact relies_outside (others q same)

/-- A process moves outside the window. -/
theorem Notifying.goto {s : NotifyState ι} {since : List Notice} (h : Notifying (s, since)) (p : ι)
    {phase : ReadPhase} (out : ¬ phase.InWindow) :
    Notifying ({ s with phase := Function.update s.phase p phase }, since) := by
  have inside : ∀ q, (Function.update s.phase p phase q).InWindow → (s.phase q).InWindow := by
    intro q window
    by_cases same : q = p
    · subst same
      rw [Function.update_self] at window
      exact absurd window out
    · rwa [Function.update_of_ne same] at window
  refine ⟨h.fresh, fun q q' window window' => h.alone q q' (inside q window) (inside q' window'),
    fun q => ?_⟩
  change Relies _ (Function.update s.phase p phase q)
  by_cases same : q = p
  · subst same
    rw [Function.update_self]
    exact relies_outside out
  · rw [Function.update_of_ne same]
    have before := h.relies q
    cases here : s.phase q with
    | copying | finishing => rwa [here] at before
    | idle | testing | parking | asleep | woken | resetting => trivial

theorem wakeUp_inWindow {phase : ReadPhase} : phase.wakeUp.InWindow ↔ phase.InWindow := by
  cases phase <;> exact Iff.rfl

theorem driver_notifying {s : NotifyState ι} {since : List Notice} (e : Event)
    (h : Notifying (s, since)) : Notifying (noticeMachine.next (s, since) (.driver e)) := by
  have phase : ∀ q, (notifyNext s (.driver e)).phase q = s.phase q ∨
      (notifyNext s (.driver e)).phase q = (s.phase q).wakeUp := by
    intro q
    rw [notifyNext]
    split_ifs
    · exact .inr rfl
    · exact .inl rfl
  have inside : ∀ q, ((notifyNext s (.driver e)).phase q).InWindow ↔ (s.phase q).InWindow := by
    intro q
    rcases phase q with same | woken
    · rw [same]
    · rw [woken, wakeUp_inWindow]
  refine ⟨fun set => ?_, fun q q' window window' =>
    h.alone q q' ((inside q).mp window) ((inside q').mp window'), fun q => ?_⟩
  · cases announced : noticeFrom s.driver e with
    | none =>
        have before := h.fresh ((handle_silent announced).1.symm.trans set)
        exact handle_pending e before
    | some m =>
        refine ⟨m, ?_, (handle_notice announced).2⟩
        change m ∈ (noticeFrom s.driver e).toList ++ since
        rw [announced]
        exact List.mem_cons_self
  · by_cases window : (s.phase q).InWindow
    · have same : (notifyNext s (.driver e)).phase q = s.phase q := by
        rcases phase q with same | woken
        · exact same
        · rw [woken]
          apply wakeUp_runnable
          cases here : s.phase q with
          | copying | finishing => rfl
          | idle | testing | parking | asleep | woken | resetting =>
              rw [here] at window
              exact window.elim
      change Relies _ ((notifyNext s (.driver e)).phase q)
      have before := h.relies q
      rw [same]
      cases here : s.phase q with
      | copying =>
          rw [here] at before
          exact handle_pending e before
      | finishing m =>
          rw [here] at before
          exact ⟨List.mem_append_right _ before.1, before.2⟩
      | idle | testing | parking | asleep | woken | resetting => trivial
    · exact relies_outside (mt (inside q).mp window)

theorem statement_notifying {s : NotifyState ι} {since : List Notice} (p : ι)
    (h : Notifying (s, since)) (apart : MayReset s (s.phase p)) :
    Notifying (noticeMachine.next (s, since) (.statement p)) := by
  change Notifying (s.proceed p (readStatement s.driver s.copiedBytes (s.phase p)),
    watchNotices s (.statement p) since)
  rw [watchNotices]
  have relies := h.relies p
  have others : (s.phase p).InWindow → ∀ q, q ≠ p → ¬ (s.phase q).InWindow :=
    fun window q other => h.others window other
  cases here : s.phase p with
  | idle | parking | asleep | woken => exact h.goto p id
  | testing =>
      apply h.goto p
      split_ifs <;> exact id
  | resetting =>
      rw [here] at apart
      obtain ⟨done, empty⟩ := apart
      have pending : Pending s.driver since := h.fresh done
      simp only [readStatement, if_pos done]
      exact .only (fun q _ => empty q) (fun _ => pending) pending
  | copying =>
      rw [here] at relies others
      obtain ⟨m, recent, kind⟩ : Pending s.driver since := relies
      simp only [readStatement, kind, noticeOf_kind]
      apply Notifying.only (others trivial) h.fresh
      exact ⟨recent, rfl⟩
  | finishing m =>
      rw [here] at apart others
      have clear : s.driver.readDone ≠ 1 := by
        rw [show s.driver.readDone = 0 from apart]
        decide
      exact .only (others trivial) (fun set => absurd set clear) trivial

theorem next_notifying (s : NotifyState ι × List Notice) (e : NotifyEvent ι) (h : Notifying s)
    (apart : ResetsApart s e) : Notifying (noticeMachine.next s e) := by
  cases e with
  | start p => exact h.goto p id
  | statement p => exact statement_notifying p h apart
  | driver e => exact driver_notifying e h

theorem Notifying.pollHonoured {s : NotifyState ι × List Notice} (h : Notifying s) :
    PollHonoured s :=
  pollHonoured_of_kind fun done =>
    let ⟨m, _, kind⟩ := h.fresh done
    ⟨m, kind⟩

/-- What holds in addition when there is no second reader. -/
structure NotifyingOne (s : NotifyState ι × List Notice) : Prop extends Notifying s where
  binary : s.1.driver.readDone = 0 ∨ s.1.driver.readDone = 1
  ready : ∀ p, s.1.phase p = .woken ∨ s.1.phase p = .resetting → s.1.driver.readDone = 1

theorem driver_notifyingOne {s : NotifyState ι} {since : List Notice} (e : Event)
    (h : NotifyingOne (s, since)) : NotifyingOne (noticeMachine.next (s, since) (.driver e)) := by
  refine ⟨driver_notifying e h.toNotifying, ?_, fun p takes => ?_⟩
  · cases announced : noticeFrom s.driver e with
    | none =>
        change (handle s.driver e).readDone = 0 ∨ (handle s.driver e).readDone = 1
        rw [(handle_silent announced).1]
        exact h.binary
    | some m => exact .inr (handle_notice announced).1
  · change (notifyNext s (.driver e)).phase p = .woken ∨
      (notifyNext s (.driver e)).phase p = .resetting at takes
    have still := driver_undisturbed p s e
    by_cases running : (s.phase p).runnable = true
    · rw [still.phase running] at takes
      exact still.done (h.ready p takes)
    · -- Only a sleeper that has been announced something is now before the reset.
      cases announced : noticeFrom s.driver e with
      | some m => exact (handle_notice announced).1
      | none =>
          rw [notifyNext, announced] at takes
          change s.phase p = .woken ∨ s.phase p = .resetting at takes
          rcases takes with here | here <;> exact absurd (by rw [here]; rfl) running

theorem statement_notifyingOne [Subsingleton ι] {s : NotifyState ι} {since : List Notice} (p : ι)
    (h : NotifyingOne (s, since)) (apart : MayReset s (s.phase p)) :
    NotifyingOne (noticeMachine.next (s, since) (.statement p)) := by
  have notifying := statement_notifying p h.toNotifying apart
  have binary : s.driver.readDone = 0 ∨ s.driver.readDone = 1 := h.binary
  have ready := h.ready p
  change Notifying (s.proceed p (readStatement s.driver s.copiedBytes (s.phase p)), _) at notifying
  refine ⟨notifying, ?_, fun q => ?_⟩ <;>
    simp only [noticeMachine, observe_next, notifyMachine, notifyNext]
  · cases here : s.phase p with
    | idle | testing | parking | asleep | woken | finishing => exact binary
    | resetting =>
        simp only [readStatement, NotifyState.proceed]
        split_ifs with set
        · exact .inl rfl
        · exact binary
    | copying =>
        simp only [readStatement]
        cases noticeOf s.driver.readKind <;> exact binary
  · obtain rfl : p = q := Subsingleton.elim p q
    cases here : s.phase p with
    | idle | parking | asleep =>
        simp [readStatement, NotifyState.proceed]
    | testing =>
        simp only [readStatement, NotifyState.proceed, Function.update_self]
        split_ifs with clear
        · simp
        · exact fun _ => binary.resolve_left clear
    | woken => exact fun _ => ready (.inl here)
    | resetting =>
        simp [readStatement, NotifyState.proceed]
    | copying =>
        simp only [readStatement]
        cases noticeOf s.driver.readKind <;> simp [NotifyState.proceed]
    | finishing m =>
        simp [readStatement, NotifyState.proceed]

theorem next_notifyingOne [Subsingleton ι] (s : NotifyState ι × List Notice) (e : NotifyEvent ι)
    (h : NotifyingOne s) (apart : ResetsApart s e) : NotifyingOne (noticeMachine.next s e) := by
  cases e with
  | driver e => exact driver_notifyingOne e h
  | statement p => exact statement_notifyingOne p h apart
  | start p =>
      refine ⟨next_notifying s (.start p) h.toNotifying trivial, h.binary, fun q takes => ?_⟩
      obtain rfl : p = q := Subsingleton.elim p q
      change Function.update s.1.phase p .testing p = _ ∨ Function.update s.1.phase p .testing p = _
        at takes
      simp at takes

/-- With `m_bReadDone` set and no kind a read returns 0. -/
theorem readAlone_without_kind {s : NotifyState ι} (done : s.driver.readDone = 1)
    (kind : s.driver.readKind = 0) (p : ι) :
    (notifyMachine.run s (readAlone p (List.ofFn fun _ : Fin 4 => []))).returned p =
      some ⟨0, none⟩ := by
  have none : noticeOf 0#32 = none := rfl
  simp [readAlone, notifyMachine, notifyNext, NotifyState.proceed, readStatement, done, kind, none]

theorem resetsApart_of_pollHonoured [Subsingleton ι] (s : NotifyState ι × List Notice)
    (e : NotifyEvent ι) (h : NotifyingOne s) (honoured : PollHonoured (noticeMachine.next s e)) :
    ResetsApart s e := by
  cases e with
  | start | driver => trivial
  | statement p =>
      change MayReset s.1 (s.1.phase p)
      cases here : s.1.phase p with
      | idle | testing | parking | asleep | woken | copying => trivial
      | resetting =>
          refine ⟨h.ready p (.inr here), fun q => ?_⟩
          rw [Subsingleton.elim q p, here]
          exact id
      | finishing m =>
          apply h.binary.resolve_right
          intro done
          have after : (noticeMachine.next s (.statement p)).1 = s.1.proceed p
              (readStatement s.1.driver s.1.copiedBytes (.finishing m)) := by
            rw [← here]
            rfl
          have idle : ∀ q, (noticeMachine.next s (.statement p)).1.phase q = .idle := by
            intro q
            rw [after, Subsingleton.elim q p]
            exact Function.update_self p _ _
          have announced : synchronizationPoll (noticeMachine.next s (.statement p)).1.driver =
              pollin ||| pollrdnorm := by
            rw [after]
            exact if_pos done
          obtain ⟨m', delivered⟩ := honoured announced idle p fun _ => []
          have emptied := readAlone_without_kind (s := s.1.proceed p
            (readStatement s.1.driver s.1.copiedBytes (.finishing m))) done rfl p
          rw [after, emptied] at delivered
          cases delivered

/-- Runs whose resets come apart keep the protocol, whatever the number of readers. Where
there is one reader, only these do. -/
theorem notification_kept {ppsClock relayClock : Word} {es : List (NotifyEvent ι)}
    (h : notifyMachine.Admits (noReader ι ppsClock relayClock).1 es) :
    (noticeMachine.EveryStep ResetsApart (noReader ι ppsClock relayClock) es →
        noticeMachine.Always PollHonoured (noReader ι ppsClock relayClock) es ∧
          noticeMachine.EveryStep DeliversRecent (noReader ι ppsClock relayClock) es) ∧
      (Subsingleton ι →
        noticeMachine.Always PollHonoured (noReader ι ppsClock relayClock) es →
          noticeMachine.EveryStep ResetsApart (noReader ι ppsClock relayClock) es) := by
  have start : NotifyingOne (noReader ι ppsClock relayClock) :=
    ⟨noReader_notifying ppsClock relayClock, .inl rfl,
      fun p takes => by cases takes <;> contradiction⟩
  have admitted : noticeMachine.Admits (noReader ι ppsClock relayClock) es :=
    (observe_admits _ _ es).mpr h
  constructor
  · intro apart
    have keep (s : NotifyState ι × List Notice) (e : NotifyEvent ι) (hs : Notifying s)
        (_ : noticeMachine.enabled s e) (apart : ResetsApart s e) :
        Notifying (noticeMachine.next s e) := next_notifying s e hs apart
    constructor
    · have holds := always_of_everyStep keep start.toNotifying admitted apart
      exact always_mono (fun s hs => hs.pollHonoured) holds
    · exact everyStep_of_everyStep keep (fun s e hs _ _ => hs.delivers e) start.toNotifying
        admitted apart
  · intro one honoured
    exact (always_iff_everyStep (fun s hs => hs.toNotifying.pollHonoured)
      (fun s e hs _ apart => next_notifyingOne s e hs apart)
      (fun s e hs _ after => resetsApart_of_pollHonoured s e hs after) start admitted).mp honoured

end invariant

/-- Two readers sleep and are woken by one PPS; the second one goes on after the next PPS. -/
def twoReaders : List (NotifyEvent Bool) :=
  [.start true, .statement true, .statement true, .start false, .statement false,
    .statement false, .driver (edgeEvent 0), .statement true, .statement true, .statement true,
    .statement true, .statement false, .driver (edgeEvent 1), .statement false, .statement false,
    .statement false]

theorem notification_kept_twoReaders :
    noticeMachine.Always PollHonoured (noReader Bool 26000000 26000000) twoReaders ∧
      noticeMachine.EveryStep DeliversRecent (noReader Bool 26000000 26000000) twoReaders := by
  have admitted : notifyMachine.Admits (noReader Bool 26000000 26000000).1 twoReaders := by
    decide +kernel
  exact (notification_kept admitted).1 (by decide +kernel)

/-- The PPS of the next second comes while a reader is between its two resets. -/
def interruptedRead : List (NotifyEvent Unit) :=
  [.driver (edgeEvent 0), .start (), .statement (), .statement (), .driver (edgeEvent 1),
    .statement (), .statement ()]

/-- The read that follows. -/
def emptyRead : List (NotifyEvent Unit) := [.start (), .statement (), .statement ()]

theorem notification_refuted :
    ¬ ∀ (ι : Type) [DecidableEq ι] (ppsClock relayClock : Word) (es : List (NotifyEvent ι)),
      notifyMachine.Admits (noReader ι ppsClock relayClock).1 es →
        noticeMachine.Always PollHonoured (noReader ι ppsClock relayClock) es ∧
          noticeMachine.EveryStep DeliversRecent (noReader ι ppsClock relayClock) es := by
  intro every
  have admitted : notifyMachine.Admits (noReader Unit 26000000 26000000).1
      (interruptedRead ++ (emptyRead ++ [.statement ()])) := by decide +kernel
  have delivers := (every Unit _ _ _ admitted).2
  rw [everyStep_append, everyStep_append] at delivers
  obtain ⟨m, -, returned⟩ := delivers.2.2.1 ⟨0, none⟩ (by decide +kernel)
  cases returned

end Gumstix.Synchronization
