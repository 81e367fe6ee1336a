import Gumstix.Synchronization.StateMachine

/-!
# Unloading the synchronization driver

`Synchronization_cleanup` statement by statement, with interrupts between the statements. Each
timer is released before its handler is unregistered, and the relay timer is stopped only in
`STATE_Gps_Off`.
-/
namespace Gumstix.Synchronization
open EventMachine

inductive TimerId where
  | pps
  | relay
  deriving DecidableEq, Repr

structure TimerStatus where
  counting : Bool
  registered : Bool
  released : Bool
  deriving DecidableEq, Repr

/-- The statements of `Synchronization_cleanup`. -/
inductive CleanupStatement where
  | stopThread
  | stopPpsTimer
  | stopRelayTimerIfOff
  | freeTimer (t : TimerId)
  | freeIrq (t : TimerId)
  | restorePpsTimerMux
  | freeGpsGpio
  | restoreGpsGpioMux
  | removeProcEntry
  | destroyDevice
  | destroyClass
  | deleteCdev
  | unregisterChrdevRegion
  deriving DecidableEq, Repr

/-- What precedes the test for a running relay timer. -/
def releasePps : List CleanupStatement :=
  [.stopThread, .stopPpsTimer, .freeTimer .pps, .freeIrq .pps, .restorePpsTimerMux]

/-- What follows the release of the relay timer. -/
def releaseRest : List CleanupStatement :=
  [.freeIrq .relay, .freeGpsGpio, .restoreGpsGpioMux, .removeProcEntry, .destroyDevice,
    .destroyClass, .deleteCdev, .unregisterChrdevRegion]

def synchronizationCleanup : List CleanupStatement :=
  releasePps ++ .stopRelayTimerIfOff :: .freeTimer .relay :: releaseRest

/-- The driver, its timers and the statements left. -/
structure Unload where
  driver : Driver
  pps : TimerStatus
  relay : TimerStatus
  left : List CleanupStatement
  deriving DecidableEq, Repr

def Unload.timer (s : Unload) : TimerId → TimerStatus
  | .pps => s.pps
  | .relay => s.relay

def Unload.setTimer (s : Unload) (t : TimerId) (status : TimerStatus) : Unload :=
  match t with
  | .pps => { s with pps := status }
  | .relay => { s with relay := status }

/-- A loaded driver: the capture timer runs, the relay timer as the driver commanded it, and both
handlers are registered. -/
def unloading (d : Driver) : Unload where
  driver := d
  pps := ⟨true, true, false⟩
  relay := ⟨d.relayTimer.started, true, false⟩
  left := synchronizationCleanup

/-- `omap_dm_timer_free` may or may not stop the timer it releases. -/
def executeStatement (freeStops : Bool) (s : Unload) : CleanupStatement → Unload
  | .stopPpsTimer => s.setTimer .pps { s.pps with counting := false }
  | .stopRelayTimerIfOff =>
      if s.driver.driverCurrentState = .gpsOff then
        s.setTimer .relay { s.relay with counting := false }
      else s
  | .freeTimer t => s.setTimer t { s.timer t with
      counting := (s.timer t).counting && !freeStops
      released := true }
  | .freeIrq t => s.setTimer t { s.timer t with registered := false }
  | .stopThread | .restorePpsTimerMux | .freeGpsGpio | .restoreGpsGpioMux | .removeProcEntry
  | .destroyDevice | .destroyClass | .deleteCdev | .unregisterChrdevRegion => s

inductive UnloadEvent where
  | statement
  | pps (r : PpsReads)
  | relay (r : RelayReads)
  deriving DecidableEq, Repr

/-- An interrupt is taken while its handler is registered; an overflow needs a counting timer. -/
def unloadEnabled (s : Unload) : UnloadEvent → Prop
  | .statement => s.left ≠ []
  | .pps _ => s.pps.registered = true
  | .relay _ => s.relay.registered = true ∧ s.relay.counting = true

instance (s : Unload) : (e : UnloadEvent) → Decidable (unloadEnabled s e)
  | .statement => inferInstanceAs (Decidable (¬ _))
  | .pps _ => inferInstanceAs (Decidable (_ = true))
  | .relay _ => inferInstanceAs (Decidable (_ ∧ _))

/-- The capture handler can still launch the relay timer. -/
def unloadNext (freeStops : Bool) (s : Unload) : UnloadEvent → Unload
  | .statement => match s.left with
    | [] => s
    | statement :: left => { executeStatement freeStops s statement with left := left }
  | .pps r => { s with
      driver := ppsTimerIrqHandler s.driver r
      relay := { s.relay with counting := s.relay.counting || decide (Launches s.driver) } }
  | .relay r => { s with driver := relayTimerIrqHandler s.driver r }

def unloadMachine (freeStops : Bool) : EventMachine Unload UnloadEvent :=
  ⟨unloadEnabled, unloadNext freeStops⟩

instance (freeStops : Bool) (s : Unload) (e : UnloadEvent) :
    Decidable ((unloadMachine freeStops).enabled s e) :=
  inferInstanceAs (Decidable (unloadEnabled s e))

/-- A timer is released only when it has been stopped and its handler unregistered, and no handler
runs on a released timer. -/
def SafeStep (s : Unload) : UnloadEvent → Prop
  | .statement => ∀ t, s.left.head? = some (.freeTimer t) →
      (s.timer t).counting = false ∧ (s.timer t).registered = false
  | .pps _ => s.pps.released = false
  | .relay _ => s.relay.released = false

def NoReleasedTimerCounts (s : Unload) : Prop :=
  ∀ t, (s.timer t).released = true → (s.timer t).counting = false

structure SafeUnload (freeStops : Bool) (s : Unload) (es : List UnloadEvent) : Prop where
  steps : (unloadMachine freeStops).EveryStep SafeStep s es
  states : (unloadMachine freeStops).Always NoReleasedTimerCounts s es

/-- The capture timer is still to be released, and its handler is registered. -/
structure PpsToRelease (s : Unload) : Prop where
  left : ∃ front after, s.left = front ++ .freeTimer .pps :: after ∧
    front <:+ [.stopThread, .stopPpsTimer]
  registered : s.pps.registered = true

theorem unloading_ppsToRelease (d : Driver) : PpsToRelease (unloading d) where
  left := ⟨[.stopThread, .stopPpsTimer], _, rfl, List.suffix_rfl⟩
  registered := rfl

theorem ppsToRelease_step (freeStops : Bool) {s : Unload} {e : UnloadEvent}
    (h : PpsToRelease s) (safe : SafeStep s e) : PpsToRelease (unloadNext freeStops s e) := by
  cases e with
  | statement =>
      obtain ⟨front, after, left, early⟩ := h.left
      cases front with
      | nil =>
          have unregistered := (safe .pps (by rw [left]; rfl)).2
          rw [Unload.timer, h.registered] at unregistered
          exact absurd unregistered (by decide)
      | cons statement front =>
          have next : unloadNext freeStops s .statement =
              { executeStatement freeStops s statement with
                left := front ++ .freeTimer .pps :: after } := by
            unfold unloadNext
            rw [left]
            rfl
          rw [next]
          refine ⟨⟨front, after, rfl, (List.suffix_cons _ _).trans early⟩, ?_⟩
          have first := early.subset List.mem_cons_self
          rcases List.mem_pair.mp first with rfl | rfl
          · exact h.registered
          · exact h.registered
  | pps r => exact ⟨h.left, h.registered⟩
  | relay r => exact ⟨h.left, h.registered⟩

/-- From no state, and with no interrupts between its statements, does the unload release both
timers safely: when it releases the capture timer, the handler is still registered. -/
theorem cleanup_never_safe (freeStops : Bool) {d : Driver} {es : List UnloadEvent}
    (done : ((unloadMachine freeStops).run (unloading d) es).left = []) :
    ¬ SafeUnload freeStops (unloading d) es := by
  intro safe
  have kept : PpsToRelease ((unloadMachine freeStops).run (unloading d) es) :=
    safe.steps.kept (fun _ _ => ppsToRelease_step freeStops) (unloading_ppsToRelease d)
  obtain ⟨front, after, left, -⟩ := kept.left
  rw [done] at left
  exact absurd left.symm (List.append_ne_nil_of_right_ne_nil _ (List.cons_ne_nil _ _))

theorem cleanup_never_safe_launched :
    ¬ SafeUnload true (unloading launched) (List.replicate 15 .statement) :=
  cleanup_never_safe true (by decide +kernel)

/-- Unloaded right after the launch, the driver releases both timers with their handlers
registered, and the relay timer while it counts. -/
theorem cleanup_safe_refuted :
    ¬ ∀ (freeStops : Bool) (ppsClock relayClock : Word) (d : Driver) (es : List UnloadEvent),
      Reachable ppsClock relayClock d → (unloadMachine freeStops).Admits (unloading d) es →
        ((unloadMachine freeStops).run (unloading d) es).left = [] →
          SafeUnload freeStops (unloading d) es := by
  intro every
  have safe := every true _ _ launched (List.replicate 15 .statement) launched_reachable
    (by decide +kernel) (by decide +kernel)
  exact absurd (safe.steps.2.2.1 .pps rfl).2 (by decide)

/-- Where the unload stands with the relay timer, and what is known of it there. -/
inductive RelayPhase (s : Unload) : Prop
  | untested (front : List CleanupStatement)
      (left : s.left = front ++ .stopRelayTimerIfOff :: .freeTimer .relay :: releaseRest)
      (early : front <:+ releasePps)
      (hooked : .freeIrq .pps ∈ front ∨ s.pps.registered = false)
      (commanded : s.relay.counting = s.driver.relayTimer.started)
  | tested (left : s.left = .freeTimer .relay :: releaseRest)
      (unhooked : s.pps.registered = false)
      (missed : s.relay.counting = true ↔ s.driver.driverCurrentState = .switchGpsToOff)
  | released (left : s.left <:+ releaseRest)

theorem unloading_relayPhase (d : Driver) : RelayPhase (unloading d) :=
  .untested releasePps rfl List.suffix_rfl (.inl (by decide)) rfl

theorem untested_statement (freeStops : Bool) {s : Unload} {statement : CleanupStatement}
    {front : List CleanupStatement}
    (left : s.left = statement :: front ++
      .stopRelayTimerIfOff :: .freeTimer .relay :: releaseRest)
    (early : statement :: front <:+ releasePps)
    (hooked : .freeIrq .pps ∈ statement :: front ∨ s.pps.registered = false)
    (commanded : s.relay.counting = s.driver.relayTimer.started) :
    RelayPhase (unloadNext freeStops s .statement) := by
  have next : unloadNext freeStops s .statement =
      { executeStatement freeStops s statement with
        left := front ++ .stopRelayTimerIfOff :: .freeTimer .relay :: releaseRest } := by
    unfold unloadNext
    rw [left]
    rfl
  have later := (List.suffix_cons statement front).trans early
  have others : statement ≠ .freeIrq .pps → .freeIrq .pps ∈ front ∨ s.pps.registered = false :=
    fun other => hooked.imp_left fun still => (List.mem_cons.mp still).resolve_left other.symm
  rw [next]
  have first := early.subset List.mem_cons_self
  simp only [releasePps, List.mem_cons, List.not_mem_nil, or_false] at first
  rcases first with rfl | rfl | rfl | rfl | rfl
  · exact .untested front rfl later (others (by decide)) commanded
  · exact .untested front rfl later (others (by decide)) commanded
  · exact .untested front rfl later (others (by decide)) commanded
  · exact .untested front rfl later (.inr rfl) commanded
  · exact .untested front rfl later (others (by decide)) commanded

theorem test_statement (freeStops : Bool) {s : Unload} (consistent : Consistent s.driver)
    (left : s.left = .stopRelayTimerIfOff :: .freeTimer .relay :: releaseRest)
    (unhooked : s.pps.registered = false)
    (commanded : s.relay.counting = s.driver.relayTimer.started) :
    RelayPhase (unloadNext freeStops s .statement) := by
  have next : unloadNext freeStops s .statement =
      { executeStatement freeStops s .stopRelayTimerIfOff with
        left := .freeTimer .relay :: releaseRest } := by
    unfold unloadNext
    rw [left]
  rw [next, executeStatement]
  by_cases off : s.driver.driverCurrentState = .gpsOff
  · rw [if_pos off]
    refine .tested rfl unhooked ⟨fun counting => absurd counting Bool.false_ne_true, ?_⟩
    intro switch
    exact absurd (off.symm.trans switch) (by decide)
  · rw [if_neg off]
    refine .tested rfl unhooked ?_
    change s.relay.counting = true ↔ _
    rw [commanded, consistent.relay]
    exact or_iff_left off

theorem relayPhase_step (freeStops : Bool) {s : Unload} {e : UnloadEvent}
    (consistent : Consistent s.driver) (h : RelayPhase s) (enabled : unloadEnabled s e) :
    RelayPhase (unloadNext freeStops s e) := by
  cases h with
  | untested front left early hooked commanded =>
      cases e with
      | statement =>
          cases front with
          | nil =>
              exact test_statement freeStops consistent left
                (hooked.resolve_left List.not_mem_nil) commanded
          | cons statement front =>
              exact untested_statement freeStops left early hooked commanded
      | pps r =>
          refine .untested front left early hooked ?_
          change (s.relay.counting || decide (Launches s.driver)) = _
          rw [commanded]
          exact (pps_relayStarted s.driver r).symm
      | relay r =>
          refine .untested front left early hooked ?_
          exact commanded.trans (relay_relayStarted s.driver r).symm
  | tested left unhooked missed =>
      cases e with
      | statement =>
          apply RelayPhase.released
          unfold unloadNext
          rw [left]
      | pps r => exact absurd (unhooked.symm.trans enabled) (by decide)
      | relay r =>
          refine .tested left unhooked ?_
          change _ ↔ (relayTimerIrqHandler s.driver r).driverCurrentState = _
          rw [relay_driverCurrentState]
          exact missed
  | released left =>
      apply RelayPhase.released
      cases e with
      | statement =>
          unfold unloadNext
          cases rest : s.left with
          | nil => exact absurd rest enabled
          | cons statement rest' => exact (List.suffix_cons _ _).trans (rest ▸ left)
      | pps r => exact left
      | relay r => exact left

theorem executeStatement_driver (freeStops : Bool) (s : Unload) (statement : CleanupStatement) :
    (executeStatement freeStops s statement).driver = s.driver := by
  cases statement with
  | freeTimer t | freeIrq t => cases t <;> rfl
  | stopRelayTimerIfOff =>
      rw [executeStatement]
      split <;> rfl
  | stopPpsTimer | stopThread | restorePpsTimerMux | freeGpsGpio | restoreGpsGpioMux
  | removeProcEntry | destroyDevice | destroyClass | deleteCdev | unregisterChrdevRegion => rfl

theorem unload_consistent (freeStops : Bool) {s : Unload} (e : UnloadEvent)
    (h : Consistent s.driver) : Consistent (unloadNext freeStops s e).driver := by
  cases e with
  | statement =>
      unfold unloadNext
      cases s.left with
      | nil => exact h
      | cons statement left =>
          change Consistent (executeStatement freeStops s statement).driver
          rw [executeStatement_driver]
          exact h
  | pps r => exact pps_consistent r h
  | relay r => exact relay_consistent r h

/-- The relay timer is released while it counts exactly in the second between its launch and
`STATE_Gps_Off`, whatever interrupts precede its release. -/
theorem relay_released_counting_iff (freeStops : Bool) {ppsClock relayClock : Word} {d : Driver}
    (reachable : Reachable ppsClock relayClock d) {es : List UnloadEvent}
    (admitted : (unloadMachine freeStops).Admits (unloading d) es)
    (next : ((unloadMachine freeStops).run (unloading d) es).left.head? =
      some (.freeTimer .relay)) :
    ((unloadMachine freeStops).run (unloading d) es).relay.counting = true ↔
      ((unloadMachine freeStops).run (unloading d) es).driver.driverCurrentState =
        .switchGpsToOff := by
  have kept := kept_by_run (I := fun s => Consistent s.driver ∧ RelayPhase s)
    (fun s e h enabled => ⟨unload_consistent freeStops e h.1,
      relayPhase_step freeStops h.1 h.2 enabled⟩)
    ⟨reachable.consistent, unloading_relayPhase d⟩ admitted
  generalize (unloadMachine freeStops).run (unloading d) es = s at kept next ⊢
  cases kept.2 with
  | untested front left early =>
      rw [left] at next
      cases front with
      | nil => exact absurd (Option.some.inj next) (by decide)
      | cons statement front =>
          have first := early.subset List.mem_cons_self
          rw [Option.some.inj next] at first
          exact absurd first (by decide)
  | tested left unhooked missed => exact missed
  | released left =>
      have first := left.subset (List.mem_of_mem_head? next)
      exact absurd first (by decide)

end Gumstix.Synchronization
