import Gumstix.Gpio.Calls

/-!
# Interrupt events between the handler and the reader

An event is what the handler of a GPIO leaves in `bDone` once the interrupt has been
requested. It is to stay until a read consumes it or the interrupt is set up anew. The
observer keeps track of the events that should still be there.
-/
namespace Gumstix.Gpio
open Gumstix.Synchronization (Word pollin pollrdnorm)
open EventMachine

/-- For each GPIO, whether its interrupt has been requested since the last `SET_INTERRUPT` or
`FREE_INTERRUPT` on it began, and whether an event handled since then is not yet consumed. -/
structure Seen where
  armed : Minor → Bool
  pending : Minor → Bool

namespace Seen
variable (m : Seen) (g : Minor)

def reset : Seen := ⟨Function.update m.armed g false, Function.update m.pending g false⟩
def request : Seen := { m with armed := Function.update m.armed g true }
def handled : Seen := { m with pending := Function.update m.pending g (m.pending g || m.armed g) }
def consume : Seen := { m with pending := Function.update m.pending g false }

end Seen

def watchStatement (k : Replies) (m : Seen) : UserPhase → Seen
  | .setting g _ .requesting => if k.irq = 0 then m.request g else m
  | .reading g .clearing => m.consume g
  | _ => m

def watchEvents (s : UserState) (e : UserEvent) (m : Seen) : Seen :=
  match e with
  | .call (.setInterrupt g _) => m.reset g
  | .call (.freeInterrupt g) => m.reset g
  | .call _ => m
  | .statement k _ => watchStatement k m s.phase
  | .flag g _ _ => m.handled g
  | .wake _ => m
  | .signal => m

def watchedCalls : EventMachine (UserState × Seen) UserEvent := userMachine.observe watchEvents

/-- Every event that should be there is in `bDone`, and `Gpio_poll` reports it. -/
def EventsKept (s : UserState × Seen) : Prop :=
  ∀ g, s.2.pending g = true → (s.1.driver.attributes g).done = 1 ∧
    gpioPoll (s.1.driver.attributes g) = pollin ||| pollrdnorm

/-- A poll of a GPIO with such an event returns that it can be read. -/
def PollReports (s : UserState × Seen) (e : UserEvent) : Prop :=
  ∀ g k signalPending, e = .statement k signalPending → s.1.phase = .polling g →
    s.2.pending g = true →
      (userNext s.1 e).returned = some (.poll (pollin ||| pollrdnorm))

def ClearsNothing (m : Seen) : UserPhase → Prop
  | .setting g _ .clearing => m.pending g = false
  | _ => True

/-- When `SET_INTERRUPT` clears `bDone`, its GPIO has had no interrupt since `request_irq`. -/
def NothingToLose (s : UserState × Seen) : UserEvent → Prop
  | .statement _ _ => ClearsNothing s.2 s.1.phase
  | _ => True

instance (m : Seen) : (phase : UserPhase) → Decidable (ClearsNothing m phase)
  | .setting _ _ .clearing => inferInstanceAs (Decidable (_ = _))
  | .setting _ _ .releasing | .setting _ _ .triggering | .setting _ _ .requesting
  | .outside | .reading _ _ | .polling _ | .freeing _ _ => .isTrue trivial

instance (s : UserState × Seen) : (e : UserEvent) → Decidable (NothingToLose s e)
  | .statement _ _ => inferInstanceAs (Decidable (ClearsNothing _ _))
  | .call _ | .flag _ _ _ | .wake _ | .signal => .isTrue trivial

structure Tracked (d : GpioDriver) (m : Seen) : Prop where
  requested : ∀ g, m.pending g = true → m.armed g = true
  done : ∀ g, m.pending g = true → (d.attributes g).done = 1
  mode : ∀ g, m.armed g = true → (d.attributes g).mode = itMode

/-- What holds at the statements of the calls that set up an interrupt or poll. -/
def CallTracked (d : GpioDriver) (m : Seen) : UserPhase → Prop
  | .setting g _ .releasing => m.armed g = false
  | .setting g _ .triggering => m.armed g = false ∧ (d.attributes g).mode = itMode
  | .setting g _ .requesting => m.armed g = false ∧ (d.attributes g).mode = itMode
  | .setting _ _ .clearing => True
  | .freeing g _ => m.armed g = false
  | .polling g => (d.attributes g).mode = itMode
  | .reading _ _ => True
  | .outside => True

def WatchedTracked (s : UserState × Seen) : Prop :=
  Tracked s.1.driver s.2 ∧ CallTracked s.1.driver s.2 s.1.phase

section flags
variable {ι : Type*} [DecidableEq ι] {flags : ι → Bool} {i j : ι} {b : Bool}

theorem flag_cleared : Function.update flags i false j = true ↔ j ≠ i ∧ flags j = true := by
  by_cases same : j = i
  · subst same
    simp
  · simp [same]

theorem flag_set : Function.update flags i b j = true ↔
    (j = i ∧ b = true) ∨ (j ≠ i ∧ flags j = true) := by
  by_cases same : j = i
  · subst same
    simp
  · simp [same]

end flags

section tracked
variable {d d' : GpioDriver} {m : Seen} {g : Minor}

theorem Tracked.eventsKept {s : UserState × Seen} (t : Tracked s.1.driver s.2) : EventsKept s := by
  intro g pending
  have isSet := t.done g pending
  refine ⟨isSet, ?_⟩
  rw [gpioPoll, if_pos (t.mode g (t.requested g pending)), doneMask, isSet]
  decide

/-- Changes of the driver that take no event and no mode of an armed GPIO. -/
theorem Tracked.change (t : Tracked d m)
    (done : ∀ h, m.pending h = true → (d.attributes h).done = 1 → (d'.attributes h).done = 1)
    (mode : ∀ h, m.armed h = true → (d.attributes h).mode = itMode →
      (d'.attributes h).mode = itMode) : Tracked d' m :=
  ⟨t.requested, fun h pending => done h pending (t.done h pending),
    fun h armed => mode h armed (t.mode h armed)⟩

theorem Tracked.attribute (t : Tracked d m) {f : GpioAttributes → GpioAttributes}
    (done : ∀ a, (f a).done = a.done) (mode : ∀ a, (f a).mode = a.mode) :
    Tracked (d.attribute g f) m :=
  t.change (fun h _ isSet => (attribute_field d g h GpioAttributes.done done).trans isSet)
    (fun h _ inMode => (attribute_field d g h GpioAttributes.mode mode).trans inMode)

theorem Tracked.kernel (t : Tracked d m) (g : Minor) (f : Pin → Pin) :
    Tracked (d.kernel g f) m := ⟨t.requested, t.done, t.mode⟩

/-- A GPIO that is not armed may change in any way. -/
theorem Tracked.disarmed (t : Tracked d m) (disarmed : m.armed g = false)
    (f : GpioAttributes → GpioAttributes) : Tracked (d.attribute g f) m := by
  have elsewhere : ∀ h, m.armed h = true →
      (d.attribute g f).attributes h = d.attributes h := by
    intro h armed
    refine Function.update_of_ne ?_ _ _
    rintro rfl
    exact absurd (armed.symm.trans disarmed) (by decide)
  refine t.change (fun h pending isSet => ?_) (fun h armed inMode => ?_)
  · rw [elsewhere h (t.requested h pending)]
    exact isSet
  · rw [elsewhere h armed]
    exact inMode

theorem Tracked.reset (t : Tracked d m) (g : Minor) : Tracked d (m.reset g) where
  requested h pending := by
    obtain ⟨other, pending⟩ := flag_cleared.mp pending
    exact flag_cleared.mpr ⟨other, t.requested h pending⟩
  done h pending := t.done h (flag_cleared.mp pending).2
  mode h armed := t.mode h (flag_cleared.mp armed).2

theorem Tracked.request (t : Tracked d m) (inMode : (d.attributes g).mode = itMode) :
    Tracked d (m.request g) where
  requested h pending := by
    by_cases same : h = g
    · exact flag_set.mpr (.inl ⟨same, rfl⟩)
    · exact flag_set.mpr (.inr ⟨same, t.requested h pending⟩)
  done := t.done
  mode h armed := by
    rcases flag_set.mp armed with ⟨rfl, -⟩ | ⟨-, armed⟩
    · exact inMode
    · exact t.mode h armed

/-- The read takes the event of its GPIO. -/
theorem Tracked.consume (t : Tracked d m) (g : Minor) :
    Tracked (d.attribute g fun a => { a with done := 0 }) (m.consume g) where
  requested h pending := t.requested h (flag_cleared.mp pending).2
  done h pending := by
    obtain ⟨other, pending⟩ := flag_cleared.mp pending
    rw [attribute_attributes, Function.update_of_ne other]
    exact t.done h pending
  mode h armed := (attribute_field d g h GpioAttributes.mode
    (f := fun a => { a with done := 0 }) fun _ => rfl).trans (t.mode h armed)

theorem gpioIrqHandler_mode (d : GpioDriver) (g : Minor)
    (gdData : Synchronization.GeoDatationData) (level : Word) (h : Minor) :
    ((gpioIrqHandler d g gdData level).attributes h).mode = (d.attributes h).mode :=
  attribute_field d g h GpioAttributes.mode fun _ => by rfl

theorem Tracked.handled (t : Tracked d m) (g : Minor)
    (gdData : Synchronization.GeoDatationData) (level : Word) :
    Tracked (gpioIrqHandler d g gdData level) (m.handled g) where
  requested h pending := by
    rcases flag_set.mp pending with ⟨rfl, pending⟩ | ⟨-, pending⟩
    · rcases Bool.or_eq_true_iff.mp pending with pending | armed
      · exact t.requested h pending
      · exact armed
    · exact t.requested h pending
  done h pending := by
    rcases flag_set.mp pending with ⟨rfl, -⟩ | ⟨-, pending⟩
    · rw [gpioIrqHandler, attribute_attributes, Function.update_self]
    · exact gpioIrqHandler_keeps_done d g h gdData level (t.done h pending)
  mode h armed := (gpioIrqHandler_mode d g gdData level h).trans (t.mode h armed)

theorem CallTracked.change {m' : Seen} {phase : UserPhase} (c : CallTracked d m phase)
    (armed : m'.armed = m.armed)
    (mode : ∀ h, (d'.attributes h).mode = (d.attributes h).mode) : CallTracked d' m' phase := by
  cases phase with
  | setting g arg step =>
      cases step with
      | releasing => exact (congrFun armed g).trans c
      | triggering => exact ⟨(congrFun armed g).trans c.1, (mode g).trans c.2⟩
      | requesting => exact ⟨(congrFun armed g).trans c.1, (mode g).trans c.2⟩
      | clearing => trivial
  | freeing g step => exact (congrFun armed g).trans c
  | polling g => exact (mode g).trans c
  | reading | outside => trivial

theorem CallTracked.wakeUp {phase : UserPhase} (c : CallTracked d m phase) :
    CallTracked d m phase.wakeUp := by
  cases phase with
  | reading => trivial
  | setting | freeing | polling | outside => exact c

end tracked

section steps
variable {s : UserState} {d : GpioDriver} {m : Seen} {g : Minor}

theorem startCall_tracked (t : Tracked s.driver m) (c : UserCall) :
    WatchedTracked (startCall s c, watchEvents s (.call c) m) := by
  cases c with
  | read g size =>
      unfold startCall
      dsimp only
      split
      · exact ⟨t, trivial⟩
      · exact ⟨t, trivial⟩
  | poll g =>
      unfold startCall
      dsimp only
      split
      · next inMode => exact ⟨t, inMode⟩
      · exact ⟨t, trivial⟩
  | setInterrupt g arg =>
      unfold startCall
      dsimp only
      split
      · exact ⟨t.reset g, trivial⟩
      · exact ⟨t.reset g, Function.update_self _ _ _⟩
  | freeInterrupt g =>
      unfold startCall
      dsimp only
      split
      · exact ⟨t.reset g, trivial⟩
      · exact ⟨t.reset g, Function.update_self _ _ _⟩

/-- A statement of a call and what it goes on with. -/
theorem proceed_tracked {φ ρ : Type} {goOn : φ → UserPhase} {ret : ρ → Returned}
    {o : GpioDriver × (φ ⊕ ρ)} (t : Tracked o.1 m)
    (c : ∀ phase, o.2 = .inl phase → CallTracked o.1 m (goOn phase)) :
    WatchedTracked (s.proceed goOn ret o, m) := by
  obtain ⟨d, phase | r⟩ := o
  · exact ⟨t, c phase rfl⟩
  · exact ⟨t, trivial⟩

theorem readStatement_tracked (t : Tracked d m) (k : Replies) (signalPending : Bool)
    (phase : ReadPhase) :
    Tracked (readStatement d g k signalPending phase).1
      (watchStatement k m (.reading g phase)) := by
  cases phase with
  | sampling =>
      simp only [readStatement, watchStatement]
      exact t.attribute (fun _ => rfl) fun _ => rfl
  | clearing => exact t.consume g
  | idle | asleep | testing | parking | woken | copying => exact t

theorem setInterruptRelease_tracked (t : Tracked d m) (disarmed : m.armed g = false)
    (k : Replies) : Tracked (setInterruptRelease d g k) m := by
  unfold setInterruptRelease
  split
  · exact t.kernel g _
  · exact (t.kernel g _).disarmed disarmed _

theorem setStatement_tracked (t : Tracked d m) {arg : Word} {phase : SetPhase}
    (c : CallTracked d m (.setting g arg phase)) (k : Replies)
    (nothing : phase = .clearing → m.pending g = false) :
    WatchedTracked (s.proceed (.setting g arg) .ioctl (setStatement d g k arg phase),
      watchStatement k m (.setting g arg phase)) := by
  cases phase with
  | releasing =>
      apply proceed_tracked (setInterruptRelease_tracked t c k)
      rintro _ ⟨⟩
      exact ⟨c, setInterruptRelease_mode d g k⟩
  | triggering =>
      simp only [setStatement, watchStatement]
      have triggered : Tracked (d.attribute g fun a => { a with triggerMode := arg }) m :=
        t.attribute (fun _ => rfl) fun _ => rfl
      apply proceed_tracked triggered
      rintro _ ⟨⟩
      refine ⟨c.1, ?_⟩
      rw [attribute_attributes, Function.update_self]
      exact c.2
  | requesting =>
      simp only [setStatement, watchStatement]
      by_cases granted : k.irq = 0
      · rw [if_pos granted, if_neg (not_not.mpr granted)]
        apply proceed_tracked ((t.kernel g fun p => p.requestIrq k).request c.2)
        rintro _ ⟨⟩
        trivial
      · rw [if_neg granted, if_pos granted]
        exact proceed_tracked (t.kernel g fun p => p.requestIrq k) nofun
  | clearing =>
      simp only [setStatement, watchStatement]
      refine proceed_tracked (t.change (fun h pending isSet => ?_) fun h _ inMode => ?_) nofun
        <;> dsimp only
      · have other : h ≠ g := by
          rintro rfl
          exact absurd (pending.symm.trans (nothing rfl)) (by decide)
        rwa [attribute_attributes, Function.update_of_ne other]
      · refine (attribute_field d g h GpioAttributes.mode ?_).trans inMode
        exact fun _ => rfl

theorem freeStatement_tracked (t : Tracked d m) {phase : FreePhase} (disarmed : m.armed g = false)
    (k : Replies) :
    WatchedTracked (s.proceed (.freeing g) .ioctl (freeStatement d g k phase), m) := by
  refine proceed_tracked ?_ fun _ _ => disarmed
  cases phase with
  | releasing => exact t.kernel g fun p => p.freeIrq k
  | booking =>
      simp only [freeStatement]
      exact (t.kernel g _).disarmed disarmed _
  | setting =>
      simp only [freeStatement]
      exact t.disarmed disarmed _
  | waking => exact t

theorem nextStatement_tracked (t : WatchedTracked (s, m)) (k : Replies) (signalPending : Bool)
    (nothing : NothingToLose (s, m) (.statement k signalPending)) :
    WatchedTracked (nextStatement s k signalPending, watchStatement k m s.phase) := by
  have ⟨driver, call⟩ := t
  change ClearsNothing m s.phase at nothing
  unfold nextStatement
  dsimp only at call ⊢
  split
  · next here =>
      rw [here]
      exact t
  · next g phase here =>
      rw [here]
      exact proceed_tracked (readStatement_tracked driver k signalPending phase) fun _ _ => trivial
  · next g here =>
      rw [here]
      exact ⟨driver, trivial⟩
  · next g arg phase here =>
      rw [here] at call nothing ⊢
      apply setStatement_tracked driver call k
      rintro rfl
      exact nothing
  · next g phase here =>
      rw [here] at call ⊢
      exact freeStatement_tracked driver call k

theorem watched_step {s : UserState × Seen} (t : WatchedTracked s) {e : UserEvent}
    (nothing : NothingToLose s e) : WatchedTracked (watchedCalls.next s e) := by
  cases e with
  | call c => exact startCall_tracked t.1 c
  | statement k signalPending => exact nextStatement_tracked t k signalPending nothing
  | flag g gdData level =>
      exact ⟨t.1.handled g gdData level,
        t.2.change rfl (gpioIrqHandler_mode s.1.driver g gdData level)⟩
  | wake g => exact ⟨t.1, t.2.wakeUp⟩
  | signal => exact ⟨t.1, t.2.wakeUp⟩

/-- An event that is there when `bDone` is cleared is lost. -/
theorem nothingToLose_of_kept {s : UserState × Seen} {e : UserEvent}
    (kept : EventsKept (watchedCalls.next s e)) : NothingToLose s e := by
  obtain ⟨s, m⟩ := s
  cases e with
  | statement k signalPending =>
      change EventsKept (nextStatement s k signalPending, watchStatement k m s.phase) at kept
      change ClearsNothing m s.phase
      unfold nextStatement at kept
      split at kept
      · next here => rw [here]; trivial
      · next here => rw [here]; trivial
      · next here => rw [here]; trivial
      · next g arg phase here =>
          rw [here] at kept ⊢
          cases phase with
          | clearing =>
              apply Bool.eq_false_iff.mpr
              intro pending
              have cleared :
                  ((s.driver.attribute g fun a => { a with done := 0 }).attributes g).done = 0 := by
                rw [attribute_attributes, Function.update_self]
              exact absurd (cleared.symm.trans (kept g pending).1) (by decide)
          | releasing | triggering | requesting => trivial
      · next here => rw [here]; trivial
  | call | flag | wake | signal => trivial

theorem pollReports_of_tracked {s : UserState × Seen} (t : WatchedTracked s) (e : UserEvent) :
    PollReports s e := by
  rintro g k signalPending rfl here pending
  have reports : (userNext s.1 (.statement k signalPending)).returned =
      some (.poll (doneMask (s.1.driver.attributes g))) := by
    unfold userNext nextStatement
    rw [here]
    rfl
  rw [reports, doneMask, t.1.done g pending]
  rfl

end steps

/-- The state from which the calls are watched; the driver is in any state. -/
def watchedFrom (driver : GpioDriver) : UserState × Seen :=
  (noCall driver, ⟨fun _ => false, fun _ => false⟩)

/-- Along every run of calls and interrupts no event is lost, and polls report all of them,
exactly if no interrupt comes between `request_irq` and the clearing of `bDone`. -/
theorem events_kept_iff {driver : GpioDriver} {es : List UserEvent}
    (admitted : watchedCalls.Admits (watchedFrom driver) es) :
    watchedCalls.Always EventsKept (watchedFrom driver) es ∧
        watchedCalls.EveryStep PollReports (watchedFrom driver) es ↔
      watchedCalls.EveryStep NothingToLose (watchedFrom driver) es := by
  have start : WatchedTracked (watchedFrom driver) := ⟨⟨nofun, nofun, nofun⟩, trivial⟩
  have kept := always_iff_everyStep (fun _ t => t.1.eventsKept)
    (fun _ _ t _ nothing => watched_step t nothing)
    (fun _ _ _ _ kept => nothingToLose_of_kept kept) start admitted
  refine ⟨fun law => kept.mp law.1, fun nothing => ⟨kept.mpr nothing, ?_⟩⟩
  exact everyStep_of_everyStep (fun _ _ t _ nothing => watched_step t nothing)
    (fun _ e t _ _ => pollReports_of_tracked t e) start admitted nothing

/-- GPIO 10 is opened for reading. -/
def openedForReading : List GpioEvent := [.openFile 10 1 (.granted 0)]

def openedGpio : GpioDriver := gpioMachine.run (gpioInitialize fun _ => 0) openedForReading

def nextOne : UserEvent := .statement (.granted 1) false

/-- `SET_INTERRUPT` up to the request of the interrupt. -/
def requestedRun : List UserEvent :=
  [.call (.setInterrupt 10 irqfTriggerRising), nextOne, nextOne, nextOne]

/-- One interrupt, with its wake-up. -/
def interruptOn10 : List UserEvent :=
  [.flag 10 initialAttributes.lastItGDData 1, .wake 10]

/-- The interrupt comes after `SET_INTERRUPT`; a poll reports it and a read consumes it. -/
def consumedRun : List UserEvent :=
  requestedRun ++ [nextOne] ++ interruptOn10 ++
    [.call (.poll 10), nextOne, .call (.read 10 2), nextOne, nextOne, nextOne]

theorem events_kept_iff_consumedRun :
    watchedCalls.Always EventsKept (watchedFrom openedGpio) consumedRun ∧
      watchedCalls.EveryStep PollReports (watchedFrom openedGpio) consumedRun := by
  have admitted : watchedCalls.Admits (watchedFrom openedGpio) consumedRun :=
    (observe_admits _ _ _).mpr (by decide +kernel)
  exact (events_kept_iff admitted).mpr (by decide +kernel)

theorem events_kept_refuted :
    ¬ ∀ (mux : Word → BitVec 16) (driver : GpioDriver) (es : List UserEvent),
      gpioMachine.Reachable (gpioInitialize mux) driver →
        watchedCalls.Admits (watchedFrom driver) es →
          watchedCalls.Always EventsKept (watchedFrom driver) es := by
  intro every
  have opened : gpioMachine.Admits (gpioInitialize fun _ => 0) openedForReading := by
    decide +kernel
  have admitted : watchedCalls.Admits (watchedFrom openedGpio)
      (requestedRun ++ interruptOn10 ++ [nextOne]) :=
    (observe_admits _ _ _).mpr (by decide +kernel)
  -- The interrupt comes before `SET_INTERRUPT` clears `bDone`.
  have law := (every _ _ _ (.run opened) admitted).last 10 (by decide +kernel)
  exact absurd law.1 (by decide +kernel)

end Gumstix.Gpio
