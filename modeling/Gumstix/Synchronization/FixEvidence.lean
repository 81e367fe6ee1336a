import Gumstix.Synchronization.StateMachine

/-!
# Evidence for a fixed GPS

The driver enters and leaves `STATE_Gps_Fixed` by an indicator that counts valid PPS up
and invalid ones down, without an upper bound. The observer remembers which PPS were
valid, the last one first.
-/
namespace Gumstix.Synchronization
open EventMachine

/-- A record has been supplied since the previous interrupt, and its quality is 1 or 2. -/
def ValidPps (d : Driver) : Prop := d.dataSupplied = 1 ∧ d.gpsTemporaryData.valid

instance (d : Driver) : Decidable (ValidPps d) := inferInstanceAs (Decidable (_ ∧ _))

def watchPps (d : Driver) (e : Event) (validities : List Bool) : List Bool :=
  match e with
  | .pps _ => decide (ValidPps d) :: validities
  | .relay _ => validities
  | .ioctl _ _ _ => validities

def ppsHistoryMachine : EventMachine (Driver × List Bool) Event := driverMachine.observe watchPps

/-- A believed fix rests on a valid PPS among the last ones. -/
def FixedOnEvidence (s : Driver × List Bool) : Prop :=
  s.1.driverCurrentState = .gpsFixed ∨ s.1.driverCurrentState = .switchGpsToOff →
    true ∈ s.2.take quartzDriftNumber

/-- An invalid PPS in `STATE_Gps_Fixed` after as many invalid ones as evidence lasts finds the
indicator low enough to leave the state. -/
def IndicatorSpent (s : Driver × List Bool) : Event → Prop
  | .pps _ => s.1.driverCurrentState = .gpsFixed → ¬ ValidPps s.1 →
      true ∉ s.2.take (quartzDriftNumber - 1) → s.1.timerDriftCounter.toNat ≤ quartzDriftNumber
  | .relay _ => True
  | .ioctl _ _ _ => True

instance (s : Driver × List Bool) : (e : Event) → Decidable (IndicatorSpent s e)
  | .pps _ => inferInstanceAs (Decidable (_ → _ → _ → _))
  | .relay _ => .isTrue trivial
  | .ioctl _ _ _ => .isTrue trivial

section indicator
variable {d : Driver}

/-- After the upload the official record is the supplied one. -/
theorem quartzErrorValid_upload : quartzErrorValid (uploadSupplied d) ↔ ValidPps d := by
  unfold quartzErrorValid uploadSupplied ValidPps
  constructor
  · rintro ⟨supplied, temporary, -⟩
    exact ⟨supplied, temporary⟩
  · rintro ⟨supplied, temporary⟩
    refine ⟨supplied, temporary, ?_⟩
    rw [if_pos supplied]
    exact temporary

theorem ppsDriftCounter_invalid (invalid : ¬ ValidPps d) :
    (ppsDriftCounter d).toNat = d.timerDriftCounter.toNat - 1 := by
  unfold ppsDriftCounter driftCounterAfter
  rw [if_neg (mt quartzErrorValid_upload.mp invalid)]
  change (if 0 < d.timerDriftCounter then d.timerDriftCounter - 1
    else d.timerDriftCounter).toNat = _
  split <;> bv_omega

/-- A PPS leaves the driver believing in a fix exactly if the indicator is then high enough. -/
theorem ppsNextState_believes : ppsNextState d = .gpsFixed ∨ ppsNextState d = .switchGpsToOff ↔
    Tracking d ∧ quartzDriftNumber ≤ (ppsDriftCounter d).toNat := by
  unfold ppsNextState Tracking
  cases d.driverCurrentState with
  | initialization | switchGpsToOff | gpsOff => simp
  | waitForGpsFixed =>
      dsimp only
      split_ifs with low
      · simp [Nat.not_le.mpr low]
      · simp [Nat.not_lt.mp low]
  | gpsFixed =>
      dsimp only
      split_ifs with low allowed
      · simp [Nat.not_le.mpr low]
      · simp [Nat.not_lt.mp low]
      · simp [Nat.not_lt.mp low]

end indicator

section runs
variable {d : Driver} {validities : List Bool}

theorem mem_take_cons {b : Bool} : true ∈ (b :: validities).take quartzDriftNumber ↔
    b = true ∨ true ∈ validities.take (quartzDriftNumber - 1) := by
  rw [List.take_succ_cons, List.mem_cons]
  exact or_congr_left eq_comm

theorem FixedOnEvidence.transport {d' : Driver} (h : FixedOnEvidence (d, validities))
    (state : d'.driverCurrentState = d.driverCurrentState) : FixedOnEvidence (d', validities) := by
  intro believes
  dsimp only at believes
  rw [state] at believes
  exact h believes

theorem pps_fixedOnEvidence (consistent : Consistent d) (r : PpsReads)
    (spent : IndicatorSpent (d, validities) (.pps r)) :
    FixedOnEvidence (ppsHistoryMachine.next (d, validities) (.pps r)) := by
  intro believes
  change (ppsTimerIrqHandler d r).driverCurrentState = _ ∨
    (ppsTimerIrqHandler d r).driverCurrentState = _ at believes
  rw [pps_driverCurrentState, ppsNextState_believes] at believes
  obtain ⟨tracking, high⟩ := believes
  change true ∈ (decide (ValidPps d) :: validities).take quartzDriftNumber
  rw [mem_take_cons, decide_eq_true_eq]
  by_cases valid : ValidPps d
  · exact .inl valid
  · rw [ppsDriftCounter_invalid valid] at high
    have fixed : d.driverCurrentState = .gpsFixed := by
      apply tracking.resolve_left
      intro wait
      have low := consistent.waitDrift wait
      omega
    refine .inr (by_contra fun missing => ?_)
    have used : d.timerDriftCounter.toNat ≤ 16 := spent fixed valid missing
    have above : 16 ≤ d.timerDriftCounter.toNat - 1 := high
    omega

theorem indicatorSpent_of_evidence (r : PpsReads)
    (evidence : FixedOnEvidence (ppsHistoryMachine.next (d, validities) (.pps r))) :
    IndicatorSpent (d, validities) (.pps r) := by
  intro fixed invalid missing
  by_contra above
  have high : quartzDriftNumber ≤ (ppsDriftCounter d).toNat := by
    rw [ppsDriftCounter_invalid invalid]
    exact Nat.le_sub_one_of_lt (not_le.mp above)
  have believes := ppsNextState_believes.mpr ⟨.inr fixed, high⟩
  rw [← pps_driverCurrentState d r] at believes
  have recent : true ∈ (decide (ValidPps d) :: validities).take quartzDriftNumber :=
    evidence believes
  rw [mem_take_cons, decide_eq_true_eq] at recent
  exact recent.elim invalid missing

/-- Along every run after the load the driver believes in a fix on recent evidence only,
exactly if each invalid PPS that ends the evidence finds the indicator at most 16. -/
theorem fixed_on_evidence_iff {ppsClock relayClock : Word} {es : List Event}
    (admitted : driverMachine.Admits (synchronizationInitialize ppsClock relayClock) es) :
    ppsHistoryMachine.Always FixedOnEvidence
        (synchronizationInitialize ppsClock relayClock, []) es ↔
      ppsHistoryMachine.EveryStep IndicatorSpent
        (synchronizationInitialize ppsClock relayClock, []) es := by
  refine always_iff_everyStep (I := fun s => Consistent s.1 ∧ FixedOnEvidence s)
    (fun _ h => h.2) ?_ ?_ ?_ ((observe_admits _ _ es).mpr admitted)
  · rintro ⟨d, validities⟩ e ⟨consistent, evidence⟩ - spent
    refine ⟨handle_consistent e consistent, ?_⟩
    cases e with
    | pps r => exact pps_fixedOnEvidence consistent r spent
    | relay r => exact evidence.transport (relay_driverCurrentState d r)
    | ioctl cmd arg u => exact evidence.transport (ioctl_sameRun d cmd arg u).state
  · rintro ⟨d, validities⟩ e - - evidence
    cases e with
    | pps r => exact indicatorSpent_of_evidence r evidence
    | relay | ioctl => trivial
  · refine ⟨initialize_consistent ppsClock relayClock, ?_⟩
    rintro (fixed | switch)
    · exact nomatch fixed
    · exact nomatch switch

end runs

set_option maxRecDepth 4000 in
theorem fixed_on_evidence_iff_launchRun :
    ppsHistoryMachine.Always FixedOnEvidence (loaded26, []) launchRun :=
  (fixed_on_evidence_iff launchRun_admitted).mpr (by decide +kernel)

/-- Thirty-three seconds with a valid record each, then sixteen without. -/
def longFixRun : List Event :=
  edgeEvent 0 ::
    ((List.range 33).flatMap fun k => [supplyEvent (fixRecord k), edgeEvent (k + 1)]) ++
    (List.range 16).map fun k => edgeEvent (34 + k)

set_option maxRecDepth 8000 in
theorem fixed_on_evidence_refuted :
    ¬ ∀ (ppsClock relayClock : Word) (es : List Event),
      driverMachine.Admits (synchronizationInitialize ppsClock relayClock) es →
        ppsHistoryMachine.Always FixedOnEvidence
          (synchronizationInitialize ppsClock relayClock, []) es := by
  intro every
  have admitted : driverMachine.Admits loaded26 longFixRun := by decide +kernel
  have evidence := (every _ _ _ admitted).last
  have fixed : (ppsHistoryMachine.run (loaded26, []) longFixRun).1.driverCurrentState = .gpsFixed :=
    by decide +kernel
  exact absurd (evidence (.inl fixed)) (by decide +kernel)

end Gumstix.Synchronization
