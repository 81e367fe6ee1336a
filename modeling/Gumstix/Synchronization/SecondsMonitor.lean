import Gumstix.Synchronization.State

/-!
# The seconds monitor

A thread samples the official seconds every 0.8 seconds and is to print an error when they have
gone back, or forward by more than one.
-/
namespace Gumstix.Synchronization

/-- What the thread prints. -/
inductive MonitorMessage where
  | launched
  | dataSupplied
  | synchronizationError (previousSecond currentSecond : Word)
  | stopped
  deriving DecidableEq, Repr

/-- One round of the loop; the two parts of its test are joined with `&&`. -/
def monitorSample (previousSecond currentSecond : Word) : List MonitorMessage :=
  if currentSecond < previousSecond ∧ currentSecond - previousSecond < 1 then
    [.synchronizationError previousSecond currentSecond]
  else []

/-- The loop over the samples taken until the thread is stopped, with the messages of each. -/
def monitorLoop : Word → List Word → List (List MonitorMessage)
  | _, [] => []
  | previousSecond, currentSecond :: samples =>
      monitorSample previousSecond currentSecond :: monitorLoop currentSecond samples

/-- The returned value and the messages of the thread, which may be stopped while it still waits
for data. -/
def secondsIncrementsVerificationFunction (stoppedWaiting : Bool) (samples : List Word) :
    Int × List MonitorMessage :=
  (0, .launched :: (if stoppedWaiting then []
    else .dataSupplied :: (monitorLoop 0 samples).flatten) ++ [.stopped])

/-- From the second sample on, an error is printed at exactly those samples that have gone back,
or forward by more than one. -/
def DetectsJumps (samples : List Word) : Prop :=
  ∀ i previous current, samples[i]? = some previous → samples[i + 1]? = some current →
    ((monitorLoop 0 samples)[i + 1]? = some [.synchronizationError previous current] ↔
      current < previous ∨ previous.toNat + 1 < current.toNat)

/-- Each sample is the one before it, or the second after it. -/
def SteadySeconds (samples : List Word) : Prop :=
  ∀ i previous current, samples[i]? = some previous → samples[i + 1]? = some current →
    current = previous ∨ current.toNat = previous.toNat + 1

/-- No difference of two words is below 1 but that of equal ones. -/
theorem monitorSample_silent (previous current : Word) : monitorSample previous current = [] := by
  apply if_neg
  rintro ⟨back, small⟩
  bv_omega

theorem monitorLoop_silent (previous : Word) (samples : List Word) :
    monitorLoop previous samples = samples.map fun _ => [] := by
  induction samples generalizing previous with
  | nil => rfl
  | cons current samples ih => rw [monitorLoop, monitorSample_silent, ih, List.map_cons]

/-- The thread prints the same messages whatever it samples. -/
theorem verification_messages (samples : List Word) :
    secondsIncrementsVerificationFunction false samples =
      (0, [.launched, .dataSupplied, .stopped]) := by
  rw [secondsIncrementsVerificationFunction, monitorLoop_silent]
  simp

/-- The monitor is right about those sequences of samples in which there is nothing to print. -/
theorem detectsJumps_iff (samples : List Word) : DetectsJumps samples ↔ SteadySeconds samples := by
  have silent : ∀ i previous current, samples[i + 1]? = some current →
      ¬ (monitorLoop 0 samples)[i + 1]? = some [.synchronizationError previous current] := by
    intro i previous current sampled printed
    rw [monitorLoop_silent, List.getElem?_map, sampled] at printed
    exact absurd (Option.some.inj printed) (List.cons_ne_nil _ _).symm
  constructor
  · intro detects i previous current first second
    have steady := mt (detects i previous current first second).mpr (silent i _ _ second)
    bv_omega
  · intro steady i previous current first second
    refine iff_of_false (silent i previous current second) ?_
    have := steady i previous current first second
    bv_omega

/-- A second is skipped between the samples 5 and 7. -/
theorem detectsJumps_refuted : ¬ ∀ samples : List Word, DetectsJumps samples := by
  intro every
  have printed := (every [5, 7] 0 5 7 rfl rfl).mpr (by decide)
  exact absurd printed (by decide)

end Gumstix.Synchronization
