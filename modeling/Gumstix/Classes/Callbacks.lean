import Gumstix.Classes.GpioEventThread

/-!
# Callbacks and event threads

The first callback that is registered launches an `OnGpioEvent` thread, and the call that
removes the last one clears `m_bThreadRunning` and joins `m_oThreadEvent`. The thread is
launched in a local variable of that name, so that the member never owns one.
-/
namespace Gumstix.Classes
open Gumstix.Synchronization (Word GeoDatationData)
open Gumstix.Gpio
open EventMachine

def allEvents : Word := 500
def eventCgpioEvent : Word := 530

def errCgpioRegisterCallbackThreadManaging : Int := 4201
def errCgpioRegisterCallbackRegistering : Int := 4202
def errCgpioRegisterCallbackSpecifiedEvent : Int := 4203
def errCgpioRegisterCallbackWrongMode : Int := 4204
def errCgpioUnregisterCallbackNoCallback : Int := 4251
def errCgpioUnregisterCallbackUnregistering : Int := 4252
def errCgpioUnregisterCallbackSpecifiedEvent : Int := 4253
def errCgpioUnregisterCallbackWrongMode : Int := 4254
def errCgpioUnregisterAllCallbacksNoCallback : Int := 4301
def errCgpioUnregisterAllCallbacksSpecifiedEvent : Int := 4303
def errCgpioUnregisterAllCallbacksWrongMode : Int := 4304

def ThreadPhase.isEnded : ThreadPhase → Bool
  | .ended => true
  | _ => false

/-- The calls of the user. A registration says whether the signal has connected the
function, an unregistration which connection it names. -/
inductive CallbackCall where
  | registerCallback (eventId : Word) (connected : Bool)
  | unregisterCallback (eventId : Word) (fctId : Nat)
  | unregisterAllCallbacks (eventId : Word)
  | destruct
  deriving DecidableEq

/-- Before which statement of a call the user's thread is, with the value it will return. -/
inductive CallbackPhase where
  | outside (returned : Option Int)
  /-- `m_bThreadRunning = true` -/
  | starting
  /-- `boost::thread m_oThreadEvent (…)` -/
  | launching
  /-- `m_bThreadRunning = false` -/
  | stopping (ret : Int)
  /-- `m_oThreadEvent.join ()` -/
  | joining (ret : Int)
  deriving DecidableEq

/-- `slots` are the connections of `m_oSigOnGpioEvent`; a thread that does not exist counts
as ended. `threadEvent` is the thread that the member `m_oThreadEvent` owns. -/
structure CallbackState where
  driver : GpioDriver
  threadRunning : Bool
  slots : List Nat
  nextFctId : Nat
  threads : Nat → ThreadPhase
  launched : Nat
  threadEvent : Option Nat
  phase : CallbackPhase
  destructing : Bool

inductive CallbackEvent where
  | call (c : CallbackCall)
  | statement
  | thread (i : Nat) (k : Replies) (signalPending : Bool)
  | interrupt (g : Minor) (gdData : GeoDatationData) (level : Word)

section machine
variable (o : CGpio) (s : CallbackState)

def CallbackState.leave (ret : Int) : CallbackState := { s with phase := .outside (some ret) }

/-- `RegisterCallback` up to the launch of the thread; the user parameters are left out. -/
def registerCallback (eventId : Word) (connected : Bool) : CallbackState :=
  if o.mode = ioMode then s.leave (-errCgpioRegisterCallbackWrongMode)
  else if s.slots.length = 0 ∧ s.threadRunning then
    { s with phase := .stopping (-errCgpioRegisterCallbackThreadManaging) }
  else if eventId = eventCgpioEvent then
    if connected then
      { s with
        slots := s.nextFctId :: s.slots
        nextFctId := s.nextFctId + 1
        phase := if s.slots.length = 0 then .starting else .outside (some 0) }
    else s.leave (-errCgpioRegisterCallbackRegistering)
  else s.leave (-errCgpioRegisterCallbackSpecifiedEvent)

/-- `UnregisterCallback` up to the end of the thread. -/
def unregisterCallback (eventId : Word) (fctId : Nat) : CallbackState :=
  if o.mode = ioMode then s.leave (-errCgpioUnregisterCallbackWrongMode)
  else if eventId = eventCgpioEvent then
    if s.slots.length = 0 then s.leave (-errCgpioUnregisterCallbackNoCallback)
    else
      let slots := s.slots.erase fctId
      if s.slots.length = slots.length + 1 then
        { s with
          slots := slots
          phase := if slots.length = 0 then .stopping 0 else .outside (some 0) }
      else { s with slots := slots }.leave (-errCgpioUnregisterCallbackUnregistering)
  else s.leave (-errCgpioUnregisterCallbackSpecifiedEvent)

/-- `UnregisterAllCallbacks` up to the end of the thread. The signal has no slots after
`disconnect_all_slots`, so that the test that follows it always succeeds. -/
def unregisterAllCallbacks (eventId : Word) : CallbackState :=
  if o.mode = ioMode then s.leave (-errCgpioUnregisterAllCallbacksWrongMode)
  else if eventId = allEvents ∨ eventId = eventCgpioEvent then
    if s.slots.length = 0 then s.leave (-errCgpioUnregisterAllCallbacksNoCallback)
    else { s with slots := [], phase := .stopping 0 }
  else s.leave (-errCgpioUnregisterAllCallbacksSpecifiedEvent)

def startCallback : CallbackCall → CallbackState
  | .registerCallback eventId connected => registerCallback o s eventId connected
  | .unregisterCallback eventId fctId => unregisterCallback o s eventId fctId
  | .unregisterAllCallbacks eventId => unregisterAllCallbacks o s eventId
  | .destruct => unregisterAllCallbacks o { s with destructing := true } allEvents

def callbackStatement : CallbackState :=
  match s.phase with
  | .outside _ => s
  | .starting => { s with threadRunning := true, phase := .launching }
  -- The new thread is owned by the local variable, which ends here and detaches it.
  | .launching =>
      { s with
        threads := Function.update s.threads s.launched .polling
        launched := s.launched + 1
        phase := .outside (some 0) }
  | .stopping ret => { s with threadRunning := false, phase := .joining ret }
  | .joining ret => s.leave ret

/-- A step of an event thread. On an object that is not open, poll only waits. -/
def eventThreadStep (t : ThreadState) (k : Replies) (signalPending : Bool) : ThreadState :=
  match o.fd with
  | some minor => threadStep minor t k signalPending
  | none =>
      match t.phase with
      | .polling | .calling _ _ => { t with phase := loopTest t.threadRunning }
      | .reading _ | .requesting _ | .ended => t

/-- What thread number `i` works on. -/
def CallbackState.thread (i : Nat) : ThreadState := ⟨s.driver, s.threads i, s.threadRunning⟩

def callbackNext : CallbackEvent → CallbackState
  | .call c => startCallback o s c
  | .statement => callbackStatement s
  | .thread i k signalPending =>
      let t := eventThreadStep o (s.thread i) k signalPending
      { s with driver := t.driver, threads := Function.update s.threads i t.phase }
  | .interrupt g gdData level =>
      { s with
        driver := gpioIrqHandler s.driver g gdData level
        threads := fun i => (s.threads i).wakeUp }

/-- The join waits for the thread that the member owns, if there is one. -/
def CallbackState.goesOn : CallbackPhase → Prop
  | .outside _ => False
  | .joining _ => ∀ i ∈ s.threadEvent, (s.threads i).isEnded = true
  | .starting | .launching | .stopping _ => True

def callbackEnabled : CallbackEvent → Prop
  | .call _ => (∃ returned, s.phase = .outside returned) ∧ s.destructing = false
  | .statement => s.goesOn s.phase
  | .thread i _ _ => (s.threads i).runnable = true
  | .interrupt g _ _ => 0 < (s.driver.pins g).interrupts

def callbackMachine : EventMachine CallbackState CallbackEvent := ⟨callbackEnabled, callbackNext o⟩

instance : (phase : CallbackPhase) → Decidable (∃ returned, phase = .outside returned)
  | .outside returned => .isTrue ⟨returned, rfl⟩
  | .starting | .launching | .stopping _ | .joining _ => .isFalse nofun

instance : (phase : CallbackPhase) → Decidable (s.goesOn phase)
  | .outside _ => .isFalse id
  | .joining _ => inferInstanceAs (Decidable (∀ _ ∈ _, _))
  | .starting | .launching | .stopping _ => .isTrue trivial

instance : (e : CallbackEvent) → Decidable ((callbackMachine o).enabled s e)
  | .call _ => inferInstanceAs (Decidable (_ ∧ _))
  | .statement => inferInstanceAs (Decidable (s.goesOn _))
  | .thread _ _ _ => inferInstanceAs (Decidable (_ = _))
  | .interrupt _ _ _ => inferInstanceAs (Decidable (_ < _))

/-- The next step of an event thread is the test of `m_bThreadRunning`. -/
def loopTests (d : GpioDriver) : ThreadPhase → Bool
  | .calling _ _ => true
  | .polling => o.fd.all fun minor => gpioPoll (d.attributes minor) = 0
  | _ => false

/-- The observer marks the threads that have found `m_bThreadRunning` cleared. -/
def watchTests (e : CallbackEvent) (tested : Nat → Bool) : Nat → Bool :=
  match e with
  | .thread i _ _ =>
      if loopTests o s.driver (s.threads i) ∧ s.threadRunning = false then
        Function.update tested i true
      else tested
  | _ => tested

end machine

def watchedCallbacks (o : CGpio) : EventMachine (CallbackState × (Nat → Bool)) CallbackEvent :=
  (callbackMachine o).observe (watchTests o)

/-- At most one event thread runs, and none while no callback is connected, the calls in
progress apart. -/
structure OneEventThread (s : CallbackState) : Prop where
  one : ∀ i j, (s.threads i).isEnded = false → (s.threads j).isEnded = false → i = j
  none : (∃ returned, s.phase = .outside returned) → s.slots = [] →
    ∀ i, (s.threads i).isEnded = true

def AllTested (s : CallbackState × (Nat → Bool)) : CallbackPhase → Prop
  | .joining _ => ∀ i < s.1.launched, s.2 i = true
  | _ => True

/-- When a call joins the member, every thread launched so far has found the flag cleared. -/
def JoinsTested (s : CallbackState × (Nat → Bool)) : CallbackEvent → Prop
  | .statement => AllTested s s.1.phase
  | _ => True

instance (s : CallbackState × (Nat → Bool)) :
    (phase : CallbackPhase) → Decidable (AllTested s phase)
  | .joining _ => inferInstanceAs (Decidable (∀ _ < _, _))
  | .outside _ | .starting | .launching | .stopping _ => .isTrue trivial

instance (s : CallbackState × (Nat → Bool)) : (e : CallbackEvent) → Decidable (JoinsTested s e)
  | .statement => inferInstanceAs (Decidable (AllTested s _))
  | .call _ | .thread _ _ _ | .interrupt _ _ _ => .isTrue trivial

/-- A new object: no callback, no thread. -/
def newObject (d : GpioDriver) : CallbackState × (Nat → Bool) :=
  (⟨d, false, [], 0, fun _ => .ended, 0, none, .outside none, false⟩, fun _ => false)

section threads
variable {o : CGpio} {t : ThreadState} {k : Replies} {signalPending : Bool}

theorem loopTest_isEnded (threadRunning : Bool) :
    (loopTest threadRunning).isEnded = !threadRunning := by
  cases threadRunning <;> rfl

theorem threadStep_isEnded (minor : Minor) (runs : t.phase.isEnded = false) :
    (threadStep minor t k signalPending).phase.isEnded = true ↔
      (t.phase = .polling ∧ gpioPoll (t.driver.attributes minor) = 0 ∨
        ∃ r gdData, t.phase = .calling r gdData) ∧ t.threadRunning = false := by
  unfold threadStep
  cases here : t.phase with
  | ended =>
      rw [here] at runs
      cases runs
  | calling r gdData => simp [loopTest_isEnded]
  | requesting r => simp [ThreadPhase.isEnded]
  | reading phase =>
      dsimp only
      split <;> simp [ThreadPhase.isEnded]
  | polling =>
      dsimp only
      by_cases silent : gpioPoll (t.driver.attributes minor) = 0
      · simp [silent, loopTest_isEnded]
      · rw [if_pos silent]
        split <;> simpa [ThreadPhase.isEnded] using fun zero => absurd zero silent

/-- A thread ends by the test of the cleared flag and in no other way. -/
theorem eventThreadStep_isEnded (runs : t.phase.isEnded = false) :
    (eventThreadStep o t k signalPending).phase.isEnded = true ↔
      loopTests o t.driver t.phase = true ∧ t.threadRunning = false := by
  unfold eventThreadStep loopTests
  cases o.fd with
  | some minor =>
      rw [threadStep_isEnded minor runs]
      cases t.phase <;> simp
  | none =>
      cases here : t.phase with
      | polling | calling => simp [loopTest_isEnded]
      | reading | requesting => simp [here, ThreadPhase.isEnded]
      | ended =>
          rw [here] at runs
          cases runs

theorem runnable_isEnded {phase : ThreadPhase} (runs : phase.runnable = true) :
    phase.isEnded = false := by
  cases phase with
  | ended => cases runs
  | polling | reading | requesting | calling => rfl

theorem wakeUp_isEnded (phase : ThreadPhase) : phase.wakeUp.isEnded = phase.isEnded := by
  cases phase <;> rfl

end threads

def CallbackState.AllEnded (s : CallbackState) : Prop := ∀ i, (s.threads i).isEnded = true

/-- What holds by where the user's thread is. -/
def AtCall (s : CallbackState) : CallbackPhase → Prop
  | .outside _ => s.slots = [] → s.threadRunning = false ∧ s.AllEnded
  | .starting => s.slots ≠ [] ∧ s.AllEnded
  | .launching => s.slots ≠ [] ∧ s.AllEnded
  | .stopping _ => s.slots = []
  | .joining _ => s.slots = [] ∧ s.threadRunning = false

structure EventThreads (s : CallbackState × (Nat → Bool)) : Prop where
  one : ∀ i j, (s.1.threads i).isEnded = false → (s.1.threads j).isEnded = false → i = j
  unlaunched : ∀ i, s.1.launched ≤ i → (s.1.threads i).isEnded = true
  tested : ∀ i, s.2 i = true ↔ i < s.1.launched ∧ (s.1.threads i).isEnded = true
  place : AtCall s.1 s.1.phase

theorem EventThreads.oneEventThread {s : CallbackState × (Nat → Bool)} (h : EventThreads s) :
    OneEventThread s.1 where
  one := h.one
  none := by
    rintro ⟨returned, outside⟩ empty
    have place := h.place
    rw [outside] at place
    exact (place empty).2

theorem newObject_eventThreads (d : GpioDriver) : EventThreads (newObject d) where
  one _ _ runs := nomatch runs
  unlaunched _ _ := rfl
  tested i := by
    constructor
    · exact nofun
    · exact fun launched => absurd launched.1 (Nat.not_lt_zero i)
  place _ := ⟨rfl, fun _ => rfl⟩

section calls
variable {o : CGpio} {s : CallbackState}

/-- A call up to its first write of the flag leaves the threads alone. -/
structure SameThreads (s s' : CallbackState) : Prop where
  threads : s'.threads = s.threads
  launched : s'.launched = s.launched

theorem startCallback_sameThreads (c : CallbackCall) : SameThreads s (startCallback o s c) := by
  cases c with
  | registerCallback eventId connected =>
      unfold startCallback registerCallback
      dsimp only
      split_ifs <;> exact ⟨rfl, rfl⟩
  | unregisterCallback eventId fctId =>
      unfold startCallback unregisterCallback
      dsimp only
      split_ifs <;> exact ⟨rfl, rfl⟩
  | unregisterAllCallbacks eventId =>
      unfold startCallback unregisterAllCallbacks
      dsimp only
      split_ifs <;> exact ⟨rfl, rfl⟩
  | destruct =>
      unfold startCallback unregisterAllCallbacks
      dsimp only
      split_ifs <;> exact ⟨rfl, rfl⟩

variable (quiet : s.slots = [] → s.threadRunning = false ∧ s.AllEnded)
include quiet

theorem registerCallback_atCall (eventId : Word) (connected : Bool) :
    AtCall (registerCallback o s eventId connected)
      (registerCallback o s eventId connected).phase := by
  unfold registerCallback
  split_ifs with _ running _ _ first
  · exact quiet
  · exact List.eq_nil_of_length_eq_zero running.1
  · exact ⟨List.cons_ne_nil _ _, (quiet (List.eq_nil_of_length_eq_zero first)).2⟩
  · exact nofun
  · exact quiet
  · exact quiet

theorem unregisterCallback_atCall (eventId : Word) (fctId : Nat) :
    AtCall (unregisterCallback o s eventId fctId) (unregisterCallback o s eventId fctId).phase := by
  unfold unregisterCallback
  dsimp only
  split_ifs with _ _ empty removed last
  · exact quiet
  · exact quiet
  · exact List.eq_nil_of_length_eq_zero last
  · exact fun none => absurd (congrArg List.length none) last
  · have absent : fctId ∉ s.slots := by
      intro present
      rw [List.length_erase_of_mem present] at removed
      omega
    exact fun none => absurd (List.erase_of_not_mem absent ▸ congrArg List.length none) empty
  · exact quiet

theorem unregisterAllCallbacks_atCall (eventId : Word) :
    AtCall (unregisterAllCallbacks o s eventId) (unregisterAllCallbacks o s eventId).phase := by
  unfold unregisterAllCallbacks
  split_ifs
  · exact quiet
  · exact quiet
  · rfl
  · exact quiet

theorem startCallback_atCall (c : CallbackCall) :
    AtCall (startCallback o s c) (startCallback o s c).phase := by
  cases c with
  | registerCallback eventId connected => exact registerCallback_atCall quiet eventId connected
  | unregisterCallback eventId fctId => exact unregisterCallback_atCall quiet eventId fctId
  | unregisterAllCallbacks eventId => exact unregisterAllCallbacks_atCall quiet eventId
  | destruct => exact unregisterAllCallbacks_atCall (s := { s with destructing := true }) quiet _

end calls

section steps
variable {o : CGpio} {s : CallbackState} {tested : Nat → Bool}

theorem call_eventThreads (c : CallbackCall) (h : EventThreads (s, tested))
    (outside : ∃ returned, s.phase = .outside returned) :
    EventThreads ((watchedCallbacks o).next (s, tested) (.call c)) := by
  obtain ⟨threads, launched⟩ := startCallback_sameThreads (o := o) (s := s) c
  obtain ⟨returned, outside⟩ := outside
  have quiet : AtCall s (.outside returned) := outside ▸ h.place
  change EventThreads (startCallback o s c, tested)
  refine ⟨?_, ?_, ?_, startCallback_atCall quiet c⟩
  · rw [threads]
    exact h.one
  · rw [threads, launched]
    exact h.unlaunched
  · rw [threads, launched]
    exact h.tested

theorem statement_eventThreads (h : EventThreads (s, tested))
    (allTested : AllTested (s, tested) s.phase) :
    EventThreads ((watchedCallbacks o).next (s, tested) .statement) := by
  change EventThreads (callbackStatement s, tested)
  have place : AtCall s s.phase := h.place
  unfold callbackStatement
  cases here : s.phase with
  | outside returned => exact h
  | starting =>
      rw [here] at place
      exact ⟨h.one, h.unlaunched, h.tested, place⟩
  | stopping ret =>
      rw [here] at place
      exact ⟨h.one, h.unlaunched, h.tested, place, rfl⟩
  | joining ret =>
      rw [here] at place allTested
      refine ⟨h.one, h.unlaunched, h.tested, fun _ => ⟨place.2, fun i => ?_⟩⟩
      by_cases launched : i < s.launched
      · exact ((h.tested i).mp (allTested i launched)).2
      · exact h.unlaunched i (not_lt.mp launched)
  | launching =>
      rw [here] at place
      obtain ⟨connected, ended⟩ := place
      have other : ∀ i, i ≠ s.launched →
          Function.update s.threads s.launched ThreadPhase.polling i = s.threads i :=
        fun i new => Function.update_of_ne new _ _
      have runs : ∀ i, (Function.update s.threads s.launched ThreadPhase.polling i).isEnded =
          false → i = s.launched := by
        intro i runs
        by_contra new
        rw [other i new, ended i] at runs
        cases runs
      constructor
      · intro i j hi hj
        exact (runs i hi).trans (runs j hj).symm
      · intro i above
        dsimp only at above ⊢
        rw [other i (by omega)]
        exact ended i
      · intro i
        dsimp only
        by_cases new : i = s.launched
        · subst new
          have before : tested s.launched ≠ true :=
            fun found => absurd ((h.tested _).mp found).1 (lt_irrefl _)
          rw [Function.update_self]
          exact iff_of_false before fun now => nomatch now.2
        · rw [other i new, h.tested i]
          have old : i < s.launched ↔ i < s.launched + 1 := by omega
          exact and_congr_left fun _ => old
      · intro none
        exact absurd none connected

theorem interrupt_eventThreads (g : Minor) (gdData : GeoDatationData) (level : Word)
    (h : EventThreads (s, tested)) :
    EventThreads ((watchedCallbacks o).next (s, tested) (.interrupt g gdData level)) := by
  have same : ∀ i, ((s.threads i).wakeUp).isEnded = (s.threads i).isEnded :=
    fun i => wakeUp_isEnded _
  have place : AtCall s s.phase := h.place
  constructor
  · intro i j hi hj
    exact h.one i j ((same i).symm.trans hi) ((same j).symm.trans hj)
  · intro i above
    exact (same i).trans (h.unlaunched i above)
  · intro i
    change tested i = true ↔ i < s.launched ∧ ((s.threads i).wakeUp).isEnded = true
    rw [same]
    exact h.tested i
  · change AtCall (callbackNext o s (.interrupt g gdData level)) s.phase
    cases here : s.phase with
    | outside returned =>
        rw [here] at place
        exact fun none => ⟨(place none).1, fun i => (same i).trans ((place none).2 i)⟩
    | starting | launching =>
        rw [here] at place
        exact ⟨place.1, fun i => (same i).trans (place.2 i)⟩
    | stopping | joining =>
        rw [here] at place
        exact place

theorem thread_eventThreads (i : Nat) (k : Replies) (signalPending : Bool)
    (h : EventThreads (s, tested)) (runs : (s.threads i).runnable = true) :
    EventThreads ((watchedCallbacks o).next (s, tested) (.thread i k signalPending)) := by
  have running : (s.threads i).isEnded = false := runnable_isEnded runs
  have launched : i < s.launched := by
    by_contra above
    rw [h.unlaunched i (not_lt.mp above)] at running
    cases running
  have place : AtCall s s.phase := h.place
  have notAll : ¬ s.AllEnded := fun all => nomatch (all i).symm.trans running
  have ends : (eventThreadStep o (s.thread i) k signalPending).phase.isEnded = true ↔
      loopTests o s.driver (s.threads i) = true ∧ (s.thread i).threadRunning = false :=
    eventThreadStep_isEnded running
  set t := eventThreadStep o (s.thread i) k signalPending
  have before : ∀ j, (Function.update s.threads i t.phase j).isEnded = false →
      (s.threads j).isEnded = false := by
    intro j after
    by_cases same : j = i
    · rw [same, running]
    · rwa [Function.update_of_ne same] at after
  constructor
  · intro j j' hj hj'
    exact h.one j j' (before j hj) (before j' hj')
  · intro j above
    change (Function.update s.threads i t.phase j).isEnded = true
    have above' : s.launched ≤ j := above
    rw [Function.update_of_ne (by omega)]
    exact h.unlaunched j above'
  · intro j
    change watchTests o s (.thread i k signalPending) tested j = true ↔
      j < s.launched ∧ (Function.update s.threads i t.phase j).isEnded = true
    rw [watchTests]
    by_cases same : j = i
    · subst same
      rw [Function.update_self, ends]
      have untested : tested j ≠ true :=
        fun found => nomatch ((h.tested j).mp found).2.symm.trans running
      split_ifs with test
      · rw [Function.update_self]
        exact iff_of_true rfl ⟨launched, test⟩
      · exact iff_of_false untested fun now => test now.2
    · rw [Function.update_of_ne same, ← h.tested j]
      split_ifs with test
      · rw [Function.update_of_ne same]
      · rfl
  · change AtCall (callbackNext o s (.thread i k signalPending)) s.phase
    cases here : s.phase with
    | outside returned =>
        rw [here] at place
        exact fun none => absurd (place none).2 notAll
    | starting | launching =>
        rw [here] at place
        exact absurd place.2 notAll
    | stopping | joining =>
        rw [here] at place
        exact place

theorem next_eventThreads (s : CallbackState × (Nat → Bool)) (e : CallbackEvent)
    (h : EventThreads s) (enabled : (watchedCallbacks o).enabled s e) (joins : JoinsTested s e) :
    EventThreads ((watchedCallbacks o).next s e) := by
  cases e with
  | call c => exact call_eventThreads c h enabled.1
  | statement => exact statement_eventThreads h joins
  | thread i k signalPending => exact thread_eventThreads i k signalPending h enabled
  | interrupt g gdData level => exact interrupt_eventThreads g gdData level h

/-- A call that returns from the join while a thread runs leaves it without a callback. -/
theorem joinsTested_of_oneEventThread (s : CallbackState × (Nat → Bool)) (e : CallbackEvent)
    (h : EventThreads s) (law : OneEventThread ((watchedCallbacks o).next s e).1) :
    JoinsTested s e := by
  cases e with
  | call | thread | interrupt => trivial
  | statement =>
      change AllTested s s.1.phase
      have place := h.place
      cases here : s.1.phase with
      | outside | starting | launching | stopping => trivial
      | joining ret =>
          rw [here] at place
          change OneEventThread (callbackStatement s.1) at law
          rw [callbackStatement, here] at law
          have ended := law.none ⟨some ret, rfl⟩ place.1
          exact fun i launched => (h.tested i).mpr ⟨launched, ended i⟩

end steps

/-- Along every run of an object's calls and its threads at most one thread runs, and none
after the last callback is removed, exactly if every thread has tested the cleared flag
before the join that should wait for it. -/
theorem one_event_thread_iff {o : CGpio} {d : GpioDriver} {es : List CallbackEvent}
    (admitted : (callbackMachine o).Admits (newObject d).1 es) :
    (watchedCallbacks o).Always (fun s => OneEventThread s.1) (newObject d) es ↔
      (watchedCallbacks o).EveryStep JoinsTested (newObject d) es :=
  always_iff_everyStep (fun _ h => h.oneEventThread) next_eventThreads
    (fun s e h _ law => joinsTested_of_oneEventThread s e h law) (newObject_eventThreads d)
    ((observe_admits _ _ es).mpr admitted)

def registerEvent : CallbackEvent := .call (.registerCallback eventCgpioEvent true)

/-- A callback is registered and its thread launched; the thread polls once. -/
def registeredRun : List CallbackEvent :=
  [registerEvent, .statement, .statement, .thread 0 (.granted 0) false]

/-- The callback is removed, and the thread tests the flag before the join. -/
def joinedRun : List CallbackEvent :=
  registeredRun ++ [.call (.unregisterCallback eventCgpioEvent 0), .statement,
    .thread 0 (.granted 0) false, .statement, registerEvent, .statement, .statement]

set_option maxRecDepth 8000 in
theorem one_event_thread_iff_joinedRun :
    (watchedCallbacks openedForEvents.2.1).Always (fun s => OneEventThread s.1)
      (newObject openedForEvents.2.2) joinedRun := by
  have admitted : (callbackMachine openedForEvents.2.1).Admits
      (newObject openedForEvents.2.2).1 joinedRun := by decide +kernel
  exact (one_event_thread_iff admitted).mpr (by decide +kernel)

/-- The callback is removed and registered again while the thread still polls. -/
def overlappingRun : List CallbackEvent :=
  registeredRun ++ [.call (.unregisterCallback eventCgpioEvent 0), .statement, .statement,
    registerEvent, .statement, .statement]

set_option maxRecDepth 8000 in
theorem one_event_thread_refuted :
    ¬ ∀ (memory : Vector Word maxGpioNb) (devicePath following : List Byte) (activeEvent : Word)
      (k : OpenReplies) (d d' : GpioDriver) (o : CGpio),
      cgpioOpen (cgpioInterrupt memory devicePath activeEvent) d following k = (0, o, d') →
        ∀ es : List CallbackEvent, (callbackMachine o).Admits (newObject d').1 es →
          (watchedCallbacks o).Always (fun s => OneEventThread s.1) (newObject d') es := by
  intro every
  have ret : openedForEvents.1 = 0 := by decide +kernel
  have opened : openedForEvents = (0, openedForEvents.2.1, openedForEvents.2.2) :=
    Prod.ext ret rfl
  have admitted : (callbackMachine openedForEvents.2.1).Admits
      (newObject openedForEvents.2.2).1 overlappingRun := by decide +kernel
  have law := (every _ _ _ _ _ _ _ _ opened overlappingRun admitted).last
  have both := law.one 0 1 (by decide +kernel) (by decide +kernel)
  exact absurd both (by decide)

end Gumstix.Classes
