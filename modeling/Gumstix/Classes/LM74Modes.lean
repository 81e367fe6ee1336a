import Gumstix.Classes.LM74

/-!
# Mode commands of the LM74

`SetContConvMode` and `SetShutdownMode` send their mode through an ioctl of the spike driver. The
driver keeps the result of the transfer in `status` and returns `retval`, which stays 0.
-/
namespace Gumstix.Classes.LM74
open Gumstix.Synchronization (Word)
open Gumstix.Spike

def errSpikeDriverIoctl : Int := 6001

/-- A message that has been given to `spi_sync`, and what it has returned. -/
structure SpiMessage where
  bytes : List Byte
  status : Word
  deriving DecidableEq

section driver
variable (d : SpikeDriver) (k : SpikeReplies)

/-- The messages of `transfer`. -/
def transferMessages (command : List Byte) : List SpiMessage :=
  if k.spiInterrupted then []
  else if d.spiDevice then [⟨command, k.spiSync⟩]
  else []

/-- The messages of `spike_do_one_lm74_config_message`. -/
def configMessages (mode : Word) : List SpiMessage :=
  if mode ≠ shutdownMode ∧ mode ≠ contconvMode then []
  else transferMessages d k [0, 0, 0, mode.setWidth 8]

/-- The messages of `spike_ioctl`. -/
def ioctlMessages (cmd arg : Word) : List SpiMessage :=
  if cmd = lm74IoctlSetMode then configMessages d k arg else []

end driver

/-- `fd` is the number of a descriptor of the spike driver, or what `open` has returned for an
error. -/
structure Lm74 where
  fd : Word
  deriving DecidableEq

section methods
variable (o : Lm74) (d : SpikeDriver) (k : SpikeReplies)

/-- The body that the two methods share. -/
def setMode (mode : Word) : Int × SpikeDriver :=
  if 0 < o.fd.toInt then
    let out := spikeIoctl d k lm74IoctlSetMode mode
    if out.ret < 0 then (-errSpikeDriverIoctl, out.driver) else (0, out.driver)
  else (-errSpikeDriverOpen, d)

def setContConvMode : Int × SpikeDriver := setMode o d k contconvMode

def setShutdownMode : Int × SpikeDriver := setMode o d k shutdownMode

/-- The messages that a method has given to `spi_sync`. -/
def setModeMessages (mode : Word) : List SpiMessage :=
  if 0 < o.fd.toInt then ioctlMessages d k lm74IoctlSetMode mode else []

end methods

inductive ModeCommand where
  | contConv
  | shutdown
  deriving DecidableEq

def ModeCommand.mode : ModeCommand → Word
  | .contConv => contconvMode
  | .shutdown => shutdownMode

def ModeCommand.call (c : ModeCommand) (o : Lm74) (d : SpikeDriver) (k : SpikeReplies) :
    Int × SpikeDriver :=
  match c with
  | .contConv => setContConvMode o d k
  | .shutdown => setShutdownMode o d k

/-- The command returns 0 exactly if a message with its mode has been transferred. -/
def ModeReported (c : ModeCommand) (o : Lm74) (d : SpikeDriver) (k : SpikeReplies) : Prop :=
  (c.call o d k).1 = 0 ↔ ∃ m ∈ setModeMessages o d k c.mode,
    m.bytes = [0, 0, 0, c.mode.setWidth 8] ∧ m.status = 0

/-- Nothing is sent through descriptor 0; through another one the transfer succeeds. -/
def NothingToReport (o : Lm74) (d : SpikeDriver) (k : SpikeReplies) : Prop :=
  o.fd = 0 ∨ TransferSucceeds d k

instance (o : Lm74) (d : SpikeDriver) (k : SpikeReplies) : Decidable (NothingToReport o d k) :=
  inferInstanceAs (Decidable (_ ∨ _))

section sent
variable (d : SpikeDriver) (k : SpikeReplies)

/-- A transfer returns 0 exactly if its message has been sent with status 0. -/
theorem transferMessages_iff (command : List Byte) :
    (∃ m ∈ transferMessages d k command, m.bytes = command ∧ m.status = 0) ↔
      (transfer d k command).2 = 0 := by
  have zero : k.spiSync = 0 ↔ k.spiSync.toInt = 0 := (BitVec.toInt_inj (y := 0#32)).symm
  unfold transferMessages transfer
  split_ifs with interrupted device
  · exact iff_of_false nofun (show -erestartsys ≠ 0 by decide)
  · simp only [List.mem_singleton, exists_eq_left, true_and]
    exact zero
  · exact iff_of_false nofun (show -enodev ≠ 0 by decide)

/-- The message of a command carries its mode. -/
theorem configMessages_mode (c : ModeCommand) :
    configMessages d k c.mode = transferMessages d k [0, 0, 0, c.mode.setWidth 8] := by
  cases c
  · exact if_neg fun invalid => invalid.2 rfl
  · exact if_neg fun invalid => invalid.1 rfl

/-- The ioctl for the mode returns 0 whatever comes of the transfer. -/
theorem spikeIoctl_setMode_ret (arg : Word) : (spikeIoctl d k lm74IoctlSetMode arg).ret = 0 := by
  rw [spikeIoctl, if_pos rfl]

end sent

section report
variable (c : ModeCommand) {o : Lm74} (d : SpikeDriver) (k : SpikeReplies)

theorem call_ret : (c.call o d k).1 = if 0 < o.fd.toInt then 0 else -errSpikeDriverOpen := by
  have body : c.call o d k = setMode o d k c.mode := by cases c <;> rfl
  rw [body, setMode]
  split
  · dsimp only
    rw [spikeIoctl_setMode_ret, if_neg (lt_irrefl 0)]
  · rfl

theorem setModeMessages_iff (sends : 0 < o.fd.toInt) :
    (∃ m ∈ setModeMessages o d k c.mode,
      m.bytes = [0, 0, 0, c.mode.setWidth 8] ∧ m.status = 0) ↔ TransferSucceeds d k := by
  rw [setModeMessages, if_pos sends, ioctlMessages, if_pos rfl, configMessages_mode]
  exact (transferMessages_iff d k _).trans (transfer_status_eq_zero d k _)

/-- Whatever calls have led to the state of the driver, a mode command reports what has happened
exactly if nothing has gone wrong. -/
theorem mode_reported_iff (opened : 0 ≤ o.fd.toInt) :
    ModeReported c o d k ↔ NothingToReport o d k := by
  rw [ModeReported, NothingToReport, call_ret]
  by_cases zero : o.fd = 0
  · have silent : ¬ 0 < o.fd.toInt := by
      rw [zero]
      decide
    rw [if_neg silent, setModeMessages, if_neg silent]
    exact iff_of_true (iff_of_false (by decide) nofun) (.inl zero)
  · have sends : 0 < o.fd.toInt := by
      refine lt_of_le_of_ne opened fun none => zero ?_
      exact BitVec.toInt_inj.mp none.symm
    rw [if_pos sends, setModeMessages_iff c d k sends, or_iff_right zero]
    exact ⟨fun same => same.mp rfl, fun succeeds => iff_of_true rfl succeeds⟩

end report

theorem mode_reported_iff_sensorThere :
    ModeReported .contConv ⟨3⟩ sensorThere (.granted [0, 0, 0, 0]) :=
  (mode_reported_iff .contConv (o := ⟨3⟩) sensorThere (.granted [0, 0, 0, 0]) (by decide)).mpr
    (by decide)

/-- `spi_sync` returns an input/output error. -/
theorem mode_reported_refuted :
    ¬ ∀ (c : ModeCommand) (o : Lm74) (d : SpikeDriver) (k : SpikeReplies),
      spikeMachine.Reachable spikeInit d → 0 ≤ o.fd.toInt → ModeReported c o d k := by
  intro every
  have reported := every .shutdown ⟨3⟩ sensorThere { SpikeReplies.granted [] with spiSync := -5 }
    sensorThere_reachable (by decide)
  rw [ModeReported, call_ret, setModeMessages_iff _ _ _ (by decide)] at reported
  exact absurd (reported.mp (by decide)) (by decide)

end Gumstix.Classes.LM74
