import Gumstix.CanSpi.FileSemaphore

/-!
# Reads and completed transfers

A completion clears `running`, and a read that finds it 0 copies at once. The submission of a
start and the last statement of a read set it, the latter after the copy and without the
semaphore.
-/
namespace Gumstix.CanSpi
open Gumstix.Synchronization (Word)
open EventMachine

variable {ι : Type*} [DecidableEq ι]

/-- No signal comes. -/
def NoSignal (_ : CallState ι) : CallEvent ι → Prop
  | .signal _ => False
  | .statement _ k => k.signalPending = false
  | _ => True

instance (s : CallState ι) : (e : CallEvent ι) → Decidable (NoSignal s e)
  | .signal _ => .isFalse not_false
  | .statement _ _ => inferInstanceAs (Decidable (_ = _))
  | .call _ _ | .complete | .close | .probe | .remove => .isTrue trivial

def quietMachine : EventMachine (CallState ι) (CallEvent ι) := callMachine.assuming NoSignal

instance (s : CallState ι) (e : CallEvent ι) : Decidable (quietMachine.enabled s e) :=
  inferInstanceAs (Decidable (_ ∧ _))

/-- Whether a transfer has completed since the last copy of a read, and whether `running` has
been written since the load. -/
structure TransferNotes where
  unread : Bool
  written : Bool
  deriving DecidableEq

def watchStatement (phase : Phase) (n : TransferNotes) : TransferNotes :=
  match phase with
  | .copying _ => { n with unread := false }
  | .started _ | .finishing _ => { n with written := true }
  | _ => n

def watchTransfers (s : CallState ι) : CallEvent ι → TransferNotes → TransferNotes
  | .statement p _, n => watchStatement (s.phase p) n
  | .complete, _ => ⟨true, true⟩
  | .call _ _, n | .signal _, n | .close, n | .probe, n | .remove, n => n

def watchedTransfers : EventMachine (CallState ι × TransferNotes) (CallEvent ι) :=
  quietMachine.observe watchTransfers

/-- After the load no transfer has completed. -/
def noTransfer (ι : Type*) : CallState ι × TransferNotes := (noCall ι, ⟨false, false⟩)

/-- A read that copies finds a transfer that no read has copied. -/
def CopiesNew (s : CallState ι × TransferNotes) : CallEvent ι → Prop
  | .statement p _ => ∀ count, s.1.phase p = .copying count → s.2.unread = true
  | _ => True

/-- No read sleeps while a transfer is unread. -/
def NoneMissed (s : CallState ι × TransferNotes) : Prop :=
  ∀ p count, s.1.phase p = .asleep count → s.2.unread = false

/-- Where a process is in a read: about to sleep or asleep, between its decision and the copy,
or between the copy and `running = 1`. -/
inductive ReadPlace where
  | elsewhere
  | sleeping
  | taking
  | returning
  deriving DecidableEq

def Phase.readPlace : Phase → ReadPlace
  | .parking _ | .asleep _ => .sleeping
  | .woken _ | .copying _ => .taking
  | .readReleasing _ | .finishing _ => .returning
  | _ => .elsewhere

/-- The next statement may hide a completion that comes before it. -/
def Phase.deaf : Phase → Bool
  | .parking _ | .readReleasing _ | .finishing _ => true
  | _ => false

/-- A read tests `running` once it has been written and while no other read is about to set it;
a start sets it while every transfer is read or a read is about to copy. -/
def StatementInOrder (s : CallState ι × TransferNotes) : Phase → Prop
  | .testing _ => s.2.written = true ∧ ∀ q, (s.1.phase q).readPlace ≠ .returning
  | .started _ => s.2.unread = true → ∃ q, (s.1.phase q).readPlace = .taking
  | _ => True

/-- No transfer completes between the test and the sleep of a read, nor between its copy and
its `running = 1`. -/
def InOrder (s : CallState ι × TransferNotes) : CallEvent ι → Prop
  | .statement p _ => StatementInOrder s (s.1.phase p)
  | .complete => ∀ q, (s.1.phase q).deaf = false
  | _ => True

instance [Fintype ι] (s : CallState ι × TransferNotes) :
    (phase : Phase) → Decidable (StatementInOrder s phase)
  | .testing _ => inferInstanceAs (Decidable (_ ∧ ∀ _, _))
  | .started _ => inferInstanceAs (Decidable (_ → ∃ _, _))
  | .outside | .submitting | .unlocking _ | .marking _ | .readWaiting _ | .parking _ | .asleep _
  | .woken _ | .copying _ | .readReleasing _ | .finishing _ | .writeWaiting _ | .writing _
  | .writeReleasing _ | .openWaiting | .opening | .openReleasing _ => .isTrue trivial

instance [Fintype ι] (s : CallState ι × TransferNotes) :
    (e : CallEvent ι) → Decidable (InOrder s e)
  | .statement _ _ => inferInstanceAs (Decidable (StatementInOrder _ _))
  | .complete => inferInstanceAs (Decidable (∀ _, _))
  | .call _ _ | .signal _ | .close | .probe | .remove => .isTrue trivial

/-- What the place of a read tells about the last transfer. -/
def PlaceFact (unread : Bool) : ReadPlace → Prop
  | .elsewhere => True
  | .sleeping | .returning => unread = false
  | .taking => unread = true

/-- A read that will copy or has just copied makes `running` unimportant; otherwise it tells
whether a transfer is unread. -/
structure Followed (s : CallState ι × TransferNotes) : Prop where
  exclusive : SemExclusive s.1
  place : ∀ p, PlaceFact s.2.unread (s.1.phase p).readPlace
  flag : s.2.written = true →
    (∀ p, (s.1.phase p).readPlace ≠ .taking ∧ (s.1.phase p).readPlace ≠ .returning) →
      (s.1.driver.running = 0 ↔ s.2.unread = true)

theorem noTransfer_followed (ι : Type*) : Followed (noTransfer ι) where
  exclusive := noCall_semExclusive ι
  place _ := trivial
  flag written := nomatch written

/-- Which statements write `running`. -/
theorem statement_running (d : Driver) (k : Replies) {phase : Phase}
    (other : ∀ status, phase ≠ .started status ∧ phase ≠ .finishing status) :
    (statement d k phase).1.running = d.running := by
  cases phase <;> grind [statement, down, up, writeBody, openBody]

/-- Which statements move a read to another place. -/
theorem statement_readPlace (d : Driver) (k : Replies) {phase : Phase}
    (noSignal : k.signalPending = false) (notTest : ∀ count, phase ≠ .testing count)
    (notCopy : ∀ count, phase ≠ .copying count)
    (notLast : ∀ status, phase ≠ .finishing status) :
    (goesTo (statement d k phase).2).readPlace = phase.readPlace := by
  cases phase <;> grind [statement, down, goesTo, Phase.readPlace]

theorem startCall_readPlace (d : Driver) (c : Call) :
    (goesTo (startCall d c).2).readPlace = .elsewhere := by
  cases c with
  | openFile | write => rfl
  | read buffIsNull count => cases buffIsNull <;> rfl
  | ioctl cmd arg =>
      simp only [startCall, spiIoctl]
      split_ifs <;> rfl

theorem holdsSem_of_taking {phase : Phase} (takes : phase.readPlace = .taking) :
    phase.holdsSem = true := by
  cases phase <;> first | rfl | exact nomatch takes

section steps
variable {s : CallState ι × TransferNotes}

omit [DecidableEq ι] in
theorem Followed.same (h : Followed s) {t : CallState ι × TransferNotes}
    (exclusive : SemExclusive t.1) (running : t.1.driver.running = s.1.driver.running)
    (notes : t.2 = s.2) (places : ∀ q, (t.1.phase q).readPlace = (s.1.phase q).readPlace) :
    Followed t where
  exclusive := exclusive
  place p := by
    rw [notes, places]
    exact h.place p
  flag written none := by
    rw [notes] at written ⊢
    rw [running]
    exact h.flag written fun p => places p ▸ none p

omit [DecidableEq ι] in
/-- A read that tests in order learns whether a transfer is unread. -/
theorem Followed.test_iff (h : Followed s) {p : ι} {count : Word}
    (here : s.1.phase p = .testing count) (inOrder : StatementInOrder s (.testing count)) :
    s.1.driver.running = 0 ↔ s.2.unread = true := by
  refine h.flag inOrder.1 fun q => ⟨fun takes => ?_, inOrder.2 q⟩
  have same := h.exclusive.alone q p (holdsSem_of_taking takes) (by rw [here]; rfl)
  rw [same, here] at takes
  cases takes

/-- Only the place of the process that makes the statement changes. -/
theorem statement_placeFact {p : ι} {k : Replies} {unread : Bool}
    (own : PlaceFact unread (goesTo (statement s.1.driver k (s.1.phase p)).2).readPlace)
    (others : ∀ q, q ≠ p → PlaceFact unread (s.1.phase q).readPlace) (q : ι) :
    PlaceFact unread ((callNext s.1 (.statement p k)).phase q).readPlace := by
  by_cases same : q = p
  · rw [same, statement_own]
    exact own
  · rw [statement_others p k same]
    exact others q same

theorem statement_driver (s : CallState ι) (p : ι) (k : Replies) :
    (callNext s (.statement p k)).driver = (statement s.driver k (s.phase p)).1 :=
  proceed_driver _

/-- A test decides by what `running` tells of the transfer. -/
theorem testing_followed {p : ι} {k : Replies} {count : Word} (h : Followed s)
    (exclusive : SemExclusive (callNext s.1 (.statement p k)))
    (here : s.1.phase p = .testing count) (inOrder : StatementInOrder s (.testing count)) :
    Followed (callNext s.1 (.statement p k), s.2) := by
  have told := h.test_iff here inOrder
  refine ⟨exclusive, statement_placeFact ?_ fun q _ => h.place q, fun _ _ => ?_⟩
  · rw [here]
    by_cases clear : s.1.driver.running = 0
    · rw [statement, if_pos clear]
      exact told.mp clear
    · rw [statement, if_neg clear]
      exact Bool.eq_false_iff.mpr fun unread => clear (told.mpr unread)
  · rw [statement_driver, here]
    exact told

/-- A copy reads the transfer; no other read holds the semaphore to take it. -/
theorem copying_followed {p : ι} {k : Replies} {count : Word} (h : Followed s)
    (exclusive : SemExclusive (callNext s.1 (.statement p k)))
    (here : s.1.phase p = .copying count) :
    Followed (callNext s.1 (.statement p k), { s.2 with unread := false }) := by
  refine ⟨exclusive, statement_placeFact ?_ fun q other => ?_, fun _ none => ?_⟩
  · rw [here]
    exact rfl
  · cases place : (s.1.phase q).readPlace with
    | elsewhere => trivial
    | sleeping | returning => rfl
    | taking =>
        refine absurd (h.exclusive.alone q p (holdsSem_of_taking place) ?_) other
        rw [here]
        rfl
  · have returns : ((callNext s.1 (.statement p k)).phase p).readPlace = .returning := by
      rw [statement_own, here]
      rfl
    exact absurd returns (none p).2

/-- The last statement of a read sets `running`, and its transfer has been read. -/
theorem finishing_followed {p : ι} {k : Replies} {status : Int} (h : Followed s)
    (exclusive : SemExclusive (callNext s.1 (.statement p k)))
    (here : s.1.phase p = .finishing status) :
    Followed (callNext s.1 (.statement p k), { s.2 with written := true }) := by
  have read : s.2.unread = false := by
    have place := h.place p
    rw [here] at place
    exact place
  refine ⟨exclusive, statement_placeFact ?_ fun q _ => h.place q, fun _ _ => ?_⟩
  · rw [here]
    trivial
  · rw [statement_driver, here]
    exact iff_of_false (show ¬ (1 : Word) = 0 by decide) (Bool.eq_false_iff.mp read)

/-- A start sets `running`; if a transfer is unread, another process is about to copy it. -/
theorem started_followed {p : ι} {k : Replies} {status : Int} (h : Followed s)
    (exclusive : SemExclusive (callNext s.1 (.statement p k)))
    (here : s.1.phase p = .started status) (inOrder : StatementInOrder s (.started status)) :
    Followed (callNext s.1 (.statement p k), { s.2 with written := true }) := by
  refine ⟨exclusive, statement_placeFact ?_ fun q _ => h.place q, fun _ none => ?_⟩
  · rw [here]
    trivial
  · rw [statement_driver, here]
    refine iff_of_false (show ¬ (1 : Word) = 0 by decide) fun unread => ?_
    obtain ⟨q, takes⟩ := inOrder unread
    have other : q ≠ p := by
      rintro rfl
      rw [here] at takes
      cases takes
    exact (none q).1 ((congrArg Phase.readPlace (statement_others p k other)).trans takes)

/-- The other statements keep `running` and the places. -/
theorem statement_places {p : ι} {k : Replies} (noSignal : k.signalPending = false)
    (notTest : ∀ count, s.1.phase p ≠ .testing count)
    (notCopy : ∀ count, s.1.phase p ≠ .copying count)
    (notLast : ∀ status, s.1.phase p ≠ .finishing status) (q : ι) :
    ((callNext s.1 (.statement p k)).phase q).readPlace = (s.1.phase q).readPlace := by
  by_cases same : q = p
  · rw [same, statement_own]
    exact statement_readPlace _ _ noSignal notTest notCopy notLast
  · rw [statement_others p k same]

theorem statement_followed {p : ι} {k : Replies} (h : Followed s)
    (exclusive : SemExclusive (callNext s.1 (.statement p k)))
    (noSignal : k.signalPending = false) (inOrder : StatementInOrder s (s.1.phase p)) :
    Followed (callNext s.1 (.statement p k), watchStatement (s.1.phase p) s.2) := by
  cases here : s.1.phase p with
  | testing count => exact testing_followed h exclusive here (here ▸ inOrder)
  | copying count => exact copying_followed h exclusive here
  | finishing status => exact finishing_followed h exclusive here
  | started status => exact started_followed h exclusive here (here ▸ inOrder)
  | _ =>
      refine h.same exclusive ?_ rfl
        (statement_places noSignal (by rw [here]; simp) (by rw [here]; simp) (by rw [here]; simp))
      rw [statement_driver]
      exact statement_running _ _ (by rw [here]; simp)

theorem next_followed (s : CallState ι × TransferNotes) (e : CallEvent ι) (h : Followed s)
    (enabled : watchedTransfers.enabled s e) (inOrder : InOrder s e) :
    Followed (watchedTransfers.next s e) := by
  have exclusive := callNext_semExclusive s.1 e h.exclusive enabled.1
  cases e with
  | call p c =>
      obtain ⟨rxBuf, len, speed, bits, starts⟩ := startCall_eq s.1.driver c
      refine h.same exclusive ?_ rfl fun q => ?_
      · change (s.1.proceed p (startCall s.1.driver c)).driver.running = _
        rw [proceed_driver, starts]
      · refine call_keeps Phase.readPlace c ?_ q
        rw [startCall_readPlace, enabled.1.1]
        rfl
  | statement p k => exact statement_followed h exclusive enabled.2 inOrder
  | complete =>
      refine ⟨exclusive, fun q => ?_, fun _ _ => iff_of_true rfl rfl⟩
      have hears := inOrder q
      change PlaceFact true (s.1.phase q).wakeUp.readPlace
      cases here : s.1.phase q with
      | parking | readReleasing | finishing =>
          rw [here] at hears
          exact absurd hears.symm Bool.false_ne_true
      | woken | copying | asleep => exact rfl
      | _ => trivial
  | signal p => exact absurd enabled.2 not_false
  | close | probe | remove => exact h.same exclusive rfl rfl fun _ => rfl

end steps

/-- Along every run without signals whose tests, starts and completions come in order, a read
copies only a transfer that no read has copied, and none sleeps while a transfer is unread. -/
theorem reads_follow {es : List (CallEvent ι)} (admitted : quietMachine.Admits (noCall ι) es)
    (inOrder : watchedTransfers.EveryStep InOrder (noTransfer ι) es) :
    watchedTransfers.EveryStep CopiesNew (noTransfer ι) es ∧
      watchedTransfers.Always NoneMissed (noTransfer ι) es := by
  have observed := (observe_admits watchTransfers (noTransfer ι) es).mpr admitted
  constructor
  · refine everyStep_of_everyStep next_followed (fun s e h _ _ => ?_) (noTransfer_followed ι)
      observed inOrder
    cases e with
    | statement p k =>
        intro count here
        have place := h.place p
        rw [here] at place
        exact place
    | call | complete | signal | close | probe | remove => trivial
  · refine always_mono (fun s h p count here => ?_)
      (always_of_everyStep next_followed (noTransfer_followed ι) observed inOrder)
    have place := h.place p
    rw [here] at place
    exact place

set_option maxRecDepth 8000 in
theorem reads_follow_sleptRun :
    watchedTransfers.EveryStep CopiesNew (noTransfer Caller) sleptRun ∧
      watchedTransfers.Always NoneMissed (noTransfer Caller) sleptRun := by
  have admitted : quietMachine.Admits (noCall Caller) sleptRun := by decide +kernel
  exact reads_follow admitted (by decide +kernel)

/-- A second process starts the next transfer while the first returns from its read; the
transfer completes before `running = 1`, and the first reads again. -/
def hiddenRun : List (CallEvent Caller) :=
  openedRun ++ startRun .first ++ [.complete, .call .first (.read false 160)] ++
    granted .first 3 ++ startRun .second ++ [.complete] ++ granted .first 2 ++
    [.call .first (.read false 160)] ++ granted .first 3

set_option maxRecDepth 8000 in
theorem reads_follow_refuted :
    ¬ ∀ (ι : Type) [DecidableEq ι] (es : List (CallEvent ι)),
      quietMachine.Admits (noCall ι) es →
        watchedTransfers.EveryStep CopiesNew (noTransfer ι) es ∧
          watchedTransfers.Always NoneMissed (noTransfer ι) es := by
  intro every
  have law := (every Caller hiddenRun (by decide +kernel)).2.last
  exact absurd (law .first 160 (by decide +kernel)) (by decide +kernel)

end Gumstix.CanSpi
