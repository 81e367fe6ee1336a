import Gumstix.CanSpi.State
import Gumstix.Library.EventMachine

/-!
# Calls of the CAN SPI driver

The machine of the driver's files: any number of processes take the statements of their
calls in turn, transfers complete, signals come, and the SPI device may come and go.
-/
namespace Gumstix.CanSpi
open Gumstix.Synchronization (Word)
open EventMachine

structure CallState (ι : Type*) where
  driver : Driver
  phase : ι → Phase
  returned : ι → Option Int

inductive CallEvent (ι : Type*) where
  | call (p : ι) (c : Call)
  | statement (p : ι) (k : Replies)
  | complete
  | signal (p : ι)
  | close
  | probe
  | remove
  deriving DecidableEq

/-- A sleeping read is woken by a completion and by a signal. -/
def Phase.wakeUp : Phase → Phase
  | .asleep count => .woken count
  | phase => phase

/-- In a call and not asleep. -/
def Phase.runnable : Phase → Bool
  | .outside | .asleep _ => false
  | _ => true

section machine
variable {ι : Type*} [DecidableEq ι] (s : CallState ι)

/-- After a statement of process `p` its call goes on or returns. -/
def CallState.proceed (p : ι) : Driver × (Phase ⊕ Int) → CallState ι
  | (driver, .inl phase) => { s with driver, phase := Function.update s.phase p phase }
  | (driver, .inr ret) =>
      { driver
        phase := Function.update s.phase p .outside
        returned := Function.update s.returned p (some ret) }

def callNext : CallEvent ι → CallState ι
  | .call p c => s.proceed p (startCall s.driver c)
  | .statement p k => s.proceed p (statement s.driver k (s.phase p))
  | .complete =>
      { s with
        driver := completionHandler s.driver
        phase := fun p => (s.phase p).wakeUp }
  | .signal p => { s with phase := Function.update s.phase p (s.phase p).wakeUp }
  | .close => { s with driver := closeFile s.driver }
  | .probe => { s with driver := { s.driver with spiDevice := true } }
  | .remove => { s with driver := { s.driver with spiDevice := false } }

/-- All calls but an open work on an open file. -/
def Call.onFile (d : Driver) : Call → Prop
  | .openFile => True
  | .read _ _ | .write _ | .ioctl _ _ => 0 < d.openFiles

instance (d : Driver) : (c : Call) → Decidable (c.onFile d)
  | .openFile => .isTrue trivial
  | .read _ _ | .write _ | .ioctl _ _ => inferInstanceAs (Decidable (_ < _))

/-- A process takes the spinlock when it is free; the probe and the remove take it too. -/
def callEnabled : CallEvent ι → Prop
  | .call p c => s.phase p = .outside ∧ c.onFile s.driver
  | .statement p _ =>
      (s.phase p).runnable = true ∧ (s.phase p = .submitting → s.driver.spiLocked = false)
  | .complete => 0 < s.driver.inFlight
  | .signal _ => True
  | .close => 0 < s.driver.openFiles
  | .probe => s.driver.spiLocked = false
  | .remove => s.driver.spiLocked = false

def callMachine : EventMachine (CallState ι) (CallEvent ι) := ⟨callEnabled, callNext⟩

instance : (e : CallEvent ι) → Decidable (callMachine.enabled s e)
  | .call _ _ => inferInstanceAs (Decidable (_ ∧ _))
  | .statement _ _ => inferInstanceAs (Decidable (_ ∧ _))
  | .complete => inferInstanceAs (Decidable (_ < _))
  | .signal _ => .isTrue trivial
  | .close => inferInstanceAs (Decidable (_ < _))
  | .probe => inferInstanceAs (Decidable (_ = _))
  | .remove => inferInstanceAs (Decidable (_ = _))

end machine

/-- After the load no process is in a call. -/
def noCall (ι : Type*) : CallState ι := ⟨canSpiInit, fun _ => .outside, fun _ => none⟩

inductive Caller where
  | first
  | second
  deriving DecidableEq

instance : Fintype Caller := ⟨{.first, .second}, by rintro (_ | _) <;> simp⟩

/-- Statements of a process in which nothing fails. -/
def granted (p : Caller) (n : Nat) : List (CallEvent Caller) :=
  List.replicate n (.statement p .granted)

/-- The device is there and the first process opens the file. -/
def openedRun : List (CallEvent Caller) :=
  [.probe, .call .first .openFile] ++ granted .first 3

/-- A start, from its call to its return. -/
def startRun (p : Caller) : List (CallEvent Caller) :=
  .call p (.ioctl cmdSpiStart 0) :: granted p 4

end Gumstix.CanSpi
