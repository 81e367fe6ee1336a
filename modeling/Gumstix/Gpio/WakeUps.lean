import Gumstix.Gpio.Events

/-!
# Wake-ups of a sleeping reader

`Gpio_read` tests `bDone` and then calls `interruptible_sleep_on`, which tests nothing. A
reader that falls asleep after the wake-up of its event sleeps until another one.
-/
namespace Gumstix.Gpio
open Gumstix.Synchronization (Word)
open EventMachine

/-- The reader of a GPIO sleeps, its event is there, and no handler has a wake-up to make. -/
def LostWakeUp (s : UserState) : Prop :=
  ∃ g, s.phase = .reading g .asleep ∧ (s.driver.attributes g).done = 1 ∧
    ∀ h, s.handling h = false

def SleepsSafely (s : UserState) : UserPhase → Prop
  | .reading g .parking => (s.driver.attributes g).done ≠ 1 ∨ ∃ h, s.handling h = true
  | _ => True

/-- A reader falls asleep without its event, or with a wake-up still to come. -/
def ParksSafely (s : UserState) : UserEvent → Prop
  | .statement _ _ => SleepsSafely s s.phase
  | _ => True

instance (s : UserState) : (phase : UserPhase) → Decidable (SleepsSafely s phase)
  | .reading _ .parking => inferInstanceAs (Decidable (_ ∨ _))
  | .reading _ .idle | .reading _ .sampling | .reading _ .testing | .reading _ .asleep
  | .reading _ .woken | .reading _ .clearing | .reading _ .copying
  | .outside | .polling _ | .setting _ _ _ | .freeing _ _ => .isTrue trivial

instance (s : UserState) : (e : UserEvent) → Decidable (ParksSafely s e)
  | .statement _ _ => inferInstanceAs (Decidable (SleepsSafely _ _))
  | .call _ | .flag _ _ _ | .wake _ | .signal => .isTrue trivial

section steps
variable {s : UserState} {g : Minor}

theorem readChecks_awake {a : GpioAttributes} {size : Nat} :
    readChecks a size ≠ .ok .asleep := by
  unfold readChecks
  split_ifs <;> exact nofun

theorem startCall_awake (c : UserCall) : (startCall s c).phase ≠ .reading g .asleep := by
  cases c with
  | read minor size =>
      unfold startCall
      dsimp only
      split
      · next ok =>
          rintro ⟨⟩
          exact readChecks_awake ok
      · exact nofun
  | poll | setInterrupt | freeInterrupt =>
      unfold startCall
      dsimp only
      split <;> exact nofun

theorem wakeUp_awake (phase : UserPhase) : phase.wakeUp ≠ .reading g .asleep := by
  cases phase with
  | reading minor phase => cases phase <;> exact nofun
  | outside | polling | setting | freeing => exact nofun

theorem readStatement_sleeps {d : GpioDriver} {k : Replies} {signalPending : Bool}
    {phase : ReadPhase} (sleeps : (readStatement d g k signalPending phase).2 = .inl .asleep) :
    phase = .parking ∨ phase = .asleep := by
  cases phase with
  | parking => exact .inl rfl
  | asleep => exact .inr rfl
  | testing =>
      rw [readStatement] at sleeps
      split_ifs at sleeps <;> cases sleeps
  | woken =>
      rw [readStatement] at sleeps
      split_ifs at sleeps
      cases sleeps
  | idle | sampling | clearing | copying => cases sleeps

/-- The one statement that puts a process to sleep. -/
theorem parking_of_asleep {k : Replies} {signalPending : Bool} (runs : s.phase.runnable = true)
    (asleep : (nextStatement s k signalPending).phase = .reading g .asleep) :
    s.phase = .reading g .parking := by
  unfold nextStatement at asleep
  split at asleep
  · next here => exact nomatch here.symm.trans asleep
  · next minor phase here =>
      rw [here] at runs ⊢
      rcases proceed_goesOn asleep with ⟨next, goesOn, same⟩ | left
      · obtain ⟨rfl, rfl⟩ := UserPhase.reading.inj same
        rcases readStatement_sleeps goesOn with rfl | rfl
        · rfl
        · exact nomatch runs
      · exact nomatch left
  · exact nomatch asleep
  · rcases proceed_goesOn asleep with ⟨_, _, same⟩ | left
    · exact nomatch same
    · exact nomatch left
  · rcases proceed_goesOn asleep with ⟨_, _, same⟩ | left
    · exact nomatch same
    · exact nomatch left

theorem parking_of_missed {phase : UserPhase} (missed : ¬ SleepsSafely s phase) :
    ∃ g, phase = .reading g .parking := by
  cases phase with
  | reading g phase =>
      cases phase with
      | parking => exact ⟨g, rfl⟩
      | idle | sampling | testing | asleep | woken | clearing | copying =>
          exact absurd trivial missed
  | outside | polling | setting | freeing => exact absurd trivial missed

theorem nextStatement_parks (parking : s.phase = .reading g .parking) (k : Replies)
    (signalPending : Bool) : nextStatement s k signalPending = { s with
      phase := .reading g .asleep } := by
  unfold nextStatement
  rw [parking]
  rfl

theorem lostWakeUp_of_parking {k : Replies} {signalPending : Bool}
    (parking : s.phase = .reading g .parking) :
    LostWakeUp (nextStatement s k signalPending) ↔ ¬ SleepsSafely s s.phase := by
  rw [nextStatement_parks parking, parking]
  constructor
  · rintro ⟨_, ⟨⟩, isSet, quiet⟩ safe
    rcases safe with unset | ⟨h, handling⟩
    · exact unset isSet
    · exact absurd ((quiet h).symm.trans handling) (by decide)
  · intro missed
    obtain ⟨isSet, quiet⟩ := not_or.mp missed
    exact ⟨g, rfl, not_not.mp isSet, fun h => Bool.eq_false_iff.mpr fun handling =>
      quiet ⟨h, handling⟩⟩

/-- A wake-up is lost when a reader falls asleep, or never. -/
theorem lostWakeUp_next {e : UserEvent} (enabled : userEnabled s e) :
    LostWakeUp (userNext s e) ↔ ¬ ParksSafely s e := by
  cases e with
  | call c =>
      refine iff_of_false ?_ (not_not.mpr trivial)
      exact fun ⟨_, asleep, _⟩ => startCall_awake c asleep
  | statement k signalPending =>
      constructor
      · intro lost
        have ⟨g, asleep, _⟩ := lost
        exact (lostWakeUp_of_parking (parking_of_asleep enabled.1 asleep)).mp lost
      · intro missed
        obtain ⟨g, parking⟩ := parking_of_missed missed
        exact (lostWakeUp_of_parking parking).mpr missed
  | flag g gdData level =>
      refine iff_of_false ?_ (not_not.mpr trivial)
      rintro ⟨_, -, -, quiet⟩
      have handling : (userNext s (.flag g gdData level)).handling g = true := by
        simp only [userNext, Function.update_self]
      exact absurd ((quiet g).symm.trans handling) (by decide)
  | wake g =>
      refine iff_of_false ?_ (not_not.mpr trivial)
      exact fun ⟨_, asleep, _⟩ => wakeUp_awake s.phase asleep
  | signal =>
      refine iff_of_false ?_ (not_not.mpr trivial)
      exact fun ⟨_, asleep, _⟩ => wakeUp_awake s.phase asleep

end steps

/-- Along every run of calls and interrupts no reader is left asleep with its event there,
exactly if none falls asleep when its event is there and all wake-ups have been made. -/
theorem no_lost_wakeUp_iff {driver : GpioDriver} {es : List UserEvent}
    (admitted : userMachine.Admits (noCall driver) es) :
    userMachine.Always (fun s => ¬ LostWakeUp s) (noCall driver) es ↔
      userMachine.EveryStep ParksSafely (noCall driver) es := by
  refine always_iff_everyStep (I := fun s => ¬ LostWakeUp s) (fun _ fine => fine) ?_ ?_ ?_ admitted
  · exact fun _ _ _ enabled safe lost => (lostWakeUp_next enabled).mp lost safe
  · exact fun _ _ _ enabled fine => not_not.mp (mt (lostWakeUp_next enabled).mpr fine)
  · exact fun ⟨_, asleep, _⟩ => nomatch asleep

/-- The interrupt of GPIO 10 is set up, and a read finds `bDone` clear. -/
def testedRun : List UserEvent :=
  requestedRun ++ [nextOne, .call (.read 10 2), nextOne]

/-- The reader falls asleep, an interrupt wakes it, and the read returns. -/
def sleptRun : List UserEvent :=
  testedRun ++ [nextOne] ++ interruptOn10 ++ [nextOne, nextOne, nextOne, nextOne]

theorem no_lost_wakeUp_iff_sleptRun :
    userMachine.Always (fun s => ¬ LostWakeUp s) (noCall openedGpio) sleptRun := by
  have admitted : userMachine.Admits (noCall openedGpio) sleptRun := by decide +kernel
  exact (no_lost_wakeUp_iff admitted).mpr (by decide +kernel)

theorem no_lost_wakeUp_refuted :
    ¬ ∀ (mux : Word → BitVec 16) (driver : GpioDriver) (es : List UserEvent),
      gpioMachine.Reachable (gpioInitialize mux) driver →
        userMachine.Admits (noCall driver) es →
          userMachine.Always (fun s => ¬ LostWakeUp s) (noCall driver) es := by
  intro every
  have opened : gpioMachine.Admits (gpioInitialize fun _ => 0) openedForReading := by
    decide +kernel
  -- The interrupt comes between the test of `bDone` and the sleep.
  have admitted : userMachine.Admits (noCall openedGpio)
      (testedRun ++ interruptOn10 ++ [nextOne]) := by decide +kernel
  refine (every _ _ _ (.run opened) admitted).last ⟨10, ?_⟩
  decide +kernel

end Gumstix.Gpio
