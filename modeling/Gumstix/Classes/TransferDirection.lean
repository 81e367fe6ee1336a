import Gumstix.Classes.CGPIO

/-!
# Transfers in both directions

A `CGPIO` object in Input/Output mode and the driver keep a direction each. The object's
is the one of the constructor; the driver's is that of the last transfer that changed it.
-/
namespace Gumstix.Classes
open Gumstix.Synchronization (Word)
open Gumstix.Gpio
open EventMachine

inductive TransferCall where
  | read (k k' : Replies)
  | write (value : Bool) (k : Replies)

/-- No kernel call fails: the change of direction and the copy to the user. -/
def TransferCall.granted : TransferCall → Prop
  | .read k k' => 0 ≤ k.direction ∧ k'.notCopiedToUser = 0
  | .write _ k => 0 ≤ k.direction

instance : (c : TransferCall) → Decidable c.granted
  | .read _ _ => inferInstanceAs (Decidable (_ ∧ _))
  | .write _ _ => inferInstanceAs (Decidable (_ ≤ _))

/-- Nothing follows a read that sleeps. -/
def transferNext (o : CGpio) (d : GpioDriver) : TransferCall → GpioDriver
  | .read k k' => ((cgpioRead o d k k').map Prod.snd).getD d
  | .write value k => (cgpioWrite o d value k).2

def transferMachine (o : CGpio) : EventMachine GpioDriver TransferCall :=
  ⟨fun _ c => c.granted, transferNext o⟩

theorem transfer_admits (o : CGpio) (d : GpioDriver) (calls : List TransferCall) :
    (transferMachine o).Admits d calls ↔ ∀ c ∈ calls, c.granted := by
  induction calls generalizing d with
  | nil => simp [Admits]
  | cons c calls ih =>
      rw [List.forall_mem_cons, Admits, ih]
      exact Iff.rfl

/-- A read returns the value of the pin; a write returns 2 and leaves the pin driven to it. -/
def Succeeds (o : CGpio) (d : GpioDriver) : TransferCall → Prop
  | .read k k' => ∃ d', cgpioRead o d k k' = some (if k'.level = 0 then 0 else 1, d')
  | .write value k => ∃ d', cgpioWrite o d value k = (2, d') ∧
      ∀ minor, o.fd = some minor → (d'.pins minor).direction = .output ∧
        (d'.pins minor).driven = if value then 1 else 0

/-- An object with the first direction serves the call on a GPIO with the other two. -/
def Serves (objectDirection gpioDirection : Word) (pin : PinDirection) : TransferCall → Prop
  | .read _ _ => objectDirection = outputDirection ∨ gpioDirection = inputDirection
  | .write _ _ =>
      objectDirection = inputDirection ∨ gpioDirection = outputDirection ∧ pin = .output

instance (objectDirection gpioDirection : Word) (pin : PinDirection) :
    (c : TransferCall) → Decidable (Serves objectDirection gpioDirection pin c)
  | .read _ _ => inferInstanceAs (Decidable (_ ∨ _))
  | .write _ _ => inferInstanceAs (Decidable (_ ∨ _ ∧ _))

/-- A call does not find the GPIO in a direction that the object no longer changes: after a
write comes no read by an `INPUT` object, after a read no write by an `OUTPUT` object. -/
def MayFollow (objectDirection : Word) : TransferCall → TransferCall → Prop
  | .read _ _, c => Serves objectDirection inputDirection .input c
  | .write _ _, c => Serves objectDirection outputDirection .output c

instance (objectDirection : Word) : DecidableRel (MayFollow objectDirection)
  | .read _ _, _ => inferInstanceAs (Decidable (Serves _ _ _ _))
  | .write _ _, _ => inferInstanceAs (Decidable (Serves _ _ _ _))

/-- The object is open on the GPIO, in Input/Output mode, and knows the two directions. -/
structure OpenOn (o : CGpio) (minor : Minor) : Prop where
  fd : o.fd = some minor
  mode : o.mode = ioMode
  either : o.direction = inputDirection ∨ o.direction = outputDirection

section calls
variable {o : CGpio} {minor : Minor} {d : GpioDriver} {direction : Word}

theorem OpenOn.notInterrupt (h : OpenOn o minor) : o.mode ≠ itMode := by
  rw [h.mode]
  decide

theorem readConverted_copy (level : Word) :
    readConverted (readCopy level 0) = if level = 0 then 0 else 1 := by
  unfold readCopy readBytes
  by_cases zero : level = 0
  · rw [if_neg (by decide), if_neg (not_not.mpr zero), if_pos zero]
    decide
  · rw [if_neg (by decide), if_pos zero, if_neg zero]
    decide

/-- The rest of `Read` once the driver is in input direction. -/
theorem read_directed (h : OpenOn o minor) (now : Directed d minor inputDirection) {k' : Replies}
    (copied : k'.notCopiedToUser = 0) :
    (o.read d 2 k').map (fun (r, d) => (readConverted r, d)) =
      some (if k'.level = 0 then 0 else 1,
        d.attribute minor fun a => { a with value := k'.level }) := by
  rw [CGpio.read, h.fd]
  dsimp only
  rw [gpioRead_input now (le_refl 2), Option.map_some, copied, readConverted_copy]

theorem cgpioRead_served (h : OpenOn o minor) (now : Directed d minor direction) {k k' : Replies}
    (copied : k'.notCopiedToUser = 0)
    (serves : o.direction = outputDirection ∨ direction = inputDirection) :
    ∃ d', cgpioRead o d k k' = some (if k'.level = 0 then 0 else 1, d') ∧
      Directed d' minor inputDirection := by
  unfold cgpioRead
  rw [if_neg h.notInterrupt]
  by_cases out : o.direction = outputDirection
  · obtain ⟨ret, directed⟩ := ioctl_setDirection_input now k
    simp only [if_pos out, CGpio.ioctl, h.fd, ret, if_neg (lt_irrefl (0 : Int))]
    refine ⟨_, read_directed h directed copied, ?_⟩
    exact directed.attribute (fun _ => rfl) fun _ => rfl
  · rw [serves.resolve_left out] at now
    simp only [if_neg out, if_neg (lt_irrefl (0 : Int))]
    refine ⟨_, read_directed h now copied, ?_⟩
    exact now.attribute (fun _ => rfl) fun _ => rfl

theorem cgpioRead_unserved (h : OpenOn o minor) (now : Directed d minor outputDirection)
    (input : o.direction = inputDirection) (k k' : Replies) :
    cgpioRead o d k k' = some (-errCgpioReadGpioDriverRead, d) := by
  have notOut : o.direction ≠ outputDirection := by
    rw [input]
    decide
  unfold cgpioRead
  rw [if_neg h.notInterrupt]
  simp only [if_neg notOut, if_neg (lt_irrefl (0 : Int)), CGpio.read, h.fd]
  rw [gpioRead_output now (le_refl 2), Option.map_some]
  rfl

/-- The rest of `Write` once the driver is in output direction. -/
theorem write_directed (h : OpenOn o minor) (now : Directed d minor outputDirection)
    (value : Bool) :
    ∃ d', o.write d (txBuffer value) 2 = (2, d') ∧ Directed d' minor outputDirection ∧
      d'.pins minor = (d.pins minor).setValue (if value then 1 else 0) := by
  have first : (txBuffer value).head? = some (if value then 0x31 else 0x30) := rfl
  have level : (if (if value then (0x31 : Byte) else 0x30) = 0 ∨
      (if value then (0x31 : Byte) else 0x30) = 0x30 then (0 : Word) else 1) =
        if value then 1 else 0 := by
    cases value <;> decide
  rw [CGpio.write, h.fd]
  dsimp only
  rw [first, gpioWrite_output now (le_refl 2)]
  simp only [level]
  refine ⟨_, rfl, ?_, Function.update_self minor _ _⟩
  exact (now.attribute (f := fun a => { a with value := if value then 1 else 0 })
    (fun _ => rfl) fun _ => rfl).kernel _

theorem write_undirected (h : OpenOn o minor) (now : Directed d minor inputDirection)
    (value : Bool) : o.write d (txBuffer value) 2 = (-errWriteWrongGpioDirection, d) := by
  rw [CGpio.write, h.fd]
  exact gpioWrite_input now (le_refl 2) _

theorem cgpioWrite_served (h : OpenOn o minor) (now : Directed d minor direction) (value : Bool)
    {k : Replies} (granted : 0 ≤ k.direction)
    (serves : o.direction = inputDirection ∨
      direction = outputDirection ∧ (d.pins minor).direction = .output) :
    ∃ d', cgpioWrite o d value k = (2, d') ∧ Directed d' minor outputDirection ∧
      (d'.pins minor).direction = .output ∧
      (d'.pins minor).driven = if value then 1 else 0 := by
  unfold cgpioWrite
  rw [if_neg h.notInterrupt]
  by_cases input : o.direction = inputDirection
  · obtain ⟨ret, directed, pin⟩ := ioctl_setDirection_output now k
    obtain ⟨d', written, after, driven⟩ := write_directed h directed value
    simp only [if_pos input, CGpio.ioctl, h.fd, ret, ne_eq, not_true_eq_false, if_false, written]
    refine ⟨d', rfl, after, ?_, ?_⟩
    · rw [driven, pin, Pin.setValue, Pin.directionOutput, if_neg (not_lt.mpr granted)]
    · rw [driven, Pin.setValue]
  · obtain ⟨rfl, output⟩ := serves.resolve_left input
    obtain ⟨d', written, after, driven⟩ := write_directed h now value
    simp only [if_neg input, ne_eq, not_true_eq_false, if_false, written]
    refine ⟨d', rfl, after, ?_, ?_⟩
    · rw [driven, Pin.setValue, output]
    · rw [driven, Pin.setValue]

/-- An `OUTPUT` object leaves the directions of the GPIO as they are. -/
theorem cgpioWrite_unserved (h : OpenOn o minor) (output : o.direction = outputDirection)
    (value : Bool) (k : Replies)
    (other : Directed d minor inputDirection ∨
      Directed d minor outputDirection ∧ (d.pins minor).direction = .input) :
    ¬ Succeeds o d (.write value k) := by
  have notIn : o.direction ≠ inputDirection := by
    rw [output]
    decide
  rintro ⟨d', returned, driven⟩
  unfold cgpioWrite at returned
  rw [if_neg h.notInterrupt] at returned
  simp only [if_neg notIn, ne_eq, not_true_eq_false, if_false] at returned
  rcases other with now | ⟨now, pin⟩
  · rw [write_undirected h now value] at returned
    cases returned
  · obtain ⟨after, written, -, same⟩ := write_directed h now value
    simp only [written, not_true_eq_false, if_false] at returned
    obtain rfl : after = d' := congrArg Prod.snd returned
    have isOutput := (driven minor h.fd).1
    rw [same, Pin.setValue, pin] at isOutput
    cases isOutput

theorem succeeds_iff (h : OpenOn o minor) (now : Directed d minor direction)
    (known : direction = inputDirection ∨ direction = outputDirection) {c : TransferCall}
    (granted : c.granted) :
    Succeeds o d c ↔ Serves o.direction direction (d.pins minor).direction c := by
  cases c with
  | read k k' =>
      constructor
      · rintro ⟨d', returned⟩
        by_contra unserved
        obtain ⟨notOut, notIn⟩ := not_or.mp unserved
        obtain rfl := known.resolve_left notIn
        rw [cgpioRead_unserved h now (h.either.resolve_right notOut) k k', Option.some.injEq,
          Prod.mk.injEq] at returned
        have value := returned.1
        split_ifs at value <;> exact absurd value (by decide)
      · intro serves
        obtain ⟨d', returned, -⟩ := cgpioRead_served h now (k := k) granted.2 serves
        exact ⟨d', returned⟩
  | write value k =>
      constructor
      · intro succeeds
        by_contra unserved
        obtain ⟨notIn, other⟩ := not_or.mp unserved
        refine cgpioWrite_unserved h (h.either.resolve_left notIn) value k ?_ succeeds
        rcases known with rfl | rfl
        · exact .inl now
        · refine .inr ⟨now, ?_⟩
          cases pin : (d.pins minor).direction with
          | input => rfl
          | output => exact absurd ⟨rfl, pin⟩ other
      · intro serves
        obtain ⟨d', returned, -, pin, driven⟩ := cgpioWrite_served h now value granted serves
        refine ⟨d', returned, fun minor' opened => ?_⟩
        obtain rfl : minor = minor' := Option.some.inj (h.fd.symm.trans opened)
        exact ⟨pin, driven⟩

/-- After a call that was served the driver serves what may follow it. -/
theorem next_served (h : OpenOn o minor) (now : Directed d minor direction) {c : TransferCall}
    (granted : c.granted) (serves : Serves o.direction direction (d.pins minor).direction c) :
    ∃ direction', (direction' = inputDirection ∨ direction' = outputDirection) ∧
      Directed (transferNext o d c) minor direction' ∧
      ∀ c', Serves o.direction direction' ((transferNext o d c).pins minor).direction c' ↔
        MayFollow o.direction c c' := by
  cases c with
  | read k k' =>
      obtain ⟨d', returned, after⟩ := cgpioRead_served h now (k := k) granted.2 serves
      have next : transferNext o d (.read k k') = d' := by
        rw [transferNext, returned]
        rfl
      rw [next]
      refine ⟨inputDirection, .inl rfl, after, fun c' => ?_⟩
      cases c' with
      | read => exact Iff.rfl
      | write =>
          have different : ¬ inputDirection = outputDirection := by decide
          simp only [Serves, MayFollow, different, false_and]
  | write value k =>
      obtain ⟨d', returned, after, pin, -⟩ := cgpioWrite_served h now value granted serves
      have next : transferNext o d (.write value k) = d' := congrArg Prod.snd returned
      rw [next, pin]
      exact ⟨outputDirection, .inr rfl, after, fun _ => Iff.rfl⟩

/-- What may follow a call that is served is served as well. -/
theorem serves_of_mayFollow {pin : PinDirection} {c c' : TransferCall}
    (serves : Serves o.direction direction pin c)
    (follows : MayFollow o.direction c c') : Serves o.direction direction pin c' := by
  cases c with
  | read =>
      cases c' with
      | read => exact serves
      | write => exact .inl (follows.resolve_right fun h => absurd h.1 (by decide))
  | write =>
      cases c' with
      | read => exact .inl (follows.resolve_right (by decide))
      | write => exact serves

/-- The calls from a driver in one of the two directions. -/
theorem everyStep_succeeds_iff (h : OpenOn o minor) (calls : List TransferCall)
    (granted : (transferMachine o).Admits d calls) (now : Directed d minor direction)
    (known : direction = inputDirection ∨ direction = outputDirection) :
    (transferMachine o).EveryStep (Succeeds o) d calls ↔
      (∀ c ∈ calls, Serves o.direction direction (d.pins minor).direction c) ∧
        calls.Pairwise (MayFollow o.direction) := by
  induction calls generalizing d direction with
  | nil => simp [EveryStep]
  | cons c calls ih =>
      rw [List.forall_mem_cons, List.pairwise_cons]
      change Succeeds o d c ∧
        (transferMachine o).EveryStep (Succeeds o) (transferNext o d c) calls ↔ _
      rw [succeeds_iff h now known granted.1]
      constructor
      · rintro ⟨serves, rest⟩
        obtain ⟨direction', known', after, follows⟩ := next_served h now granted.1 serves
        obtain ⟨served, pairwise⟩ := (ih granted.2 after known').mp rest
        have mayFollow := fun c' inside => (follows c').mp (served c' inside)
        exact ⟨⟨serves, fun c' inside => serves_of_mayFollow serves (mayFollow c' inside)⟩,
          mayFollow, pairwise⟩
      · rintro ⟨⟨serves, -⟩, mayFollow, pairwise⟩
        obtain ⟨direction', known', after, follows⟩ := next_served h now granted.1 serves
        exact ⟨serves, (ih granted.2 after known').mpr
          ⟨fun c' inside => (follows c').mpr (mayFollow c' inside), pairwise⟩⟩

end calls

theorem openInputOutput_directed {o : CGpio} {d : GpioDriver} {minor : Minor} (h : OpenOn o minor)
    (plain : o.defaultValue = false) (now : Directed d minor inputDirection)
    (pin : (d.pins minor).direction = .input) (k : OpenReplies) :
    Directed (openInputOutput o d k).2 minor o.direction ∧
      (o.direction = outputDirection →
        (((openInputOutput o d k).2.pins minor).direction = .output ↔ 0 ≤ k.first.direction)) := by
  unfold openInputOutput
  rcases h.either with input | output
  · have notOut : o.direction ≠ outputDirection := by
      rw [input]
      decide
    simp only [if_neg notOut, lt_irrefl, plain, if_false, Bool.false_eq_true]
    exact ⟨input ▸ now, fun out => absurd out notOut⟩
  · obtain ⟨ret, directed, driven⟩ := ioctl_setDirection_output now k.first
    simp only [if_pos output, CGpio.ioctl, h.fd, ret, lt_irrefl, plain, if_false,
      Bool.false_eq_true]
    refine ⟨output ▸ directed, fun _ => ?_⟩
    rw [driven, Pin.directionOutput]
    split_ifs with failed
    · simp [pin, not_le.mpr failed]
    · simp [not_lt.mp failed]

/-- The object and the driver after an `Open` that returns 0. -/
theorem cgpioOpen_opened {memory : Vector Word maxGpioNb} {devicePath following : List Byte}
    {direction : Word} (either : direction = inputDirection ∨ direction = outputDirection)
    {k : OpenReplies} {d d' : GpioDriver} {o : CGpio}
    (opened : cgpioOpen (cgpioInputOutput memory devicePath direction false) d following k =
      (0, o, d')) :
    o.direction = direction ∧ ∃ minor, OpenOn o minor ∧ Directed d' minor direction ∧
      (direction = outputDirection →
        ((d'.pins minor).direction = .output ↔ 0 ≤ k.first.direction)) := by
  obtain ⟨minor, rfl, granted, configured⟩ := cgpioOpen_zero opened
  have io : (cgpioInputOutput memory devicePath direction false).mode = ioMode := rfl
  rw [if_pos io] at configured
  obtain ⟨now, pin⟩ := gpioOpen_directed d minor (by decide) granted
  have on : OpenOn { cgpioInputOutput memory devicePath direction false with
      fd := some minor } minor := ⟨rfl, rfl, either⟩
  obtain ⟨directed, driven⟩ := openInputOutput_directed on rfl now pin k
  rw [configured] at directed driven
  exact ⟨rfl, minor, on, directed, driven⟩

def TransferCall.IsRead : TransferCall → Prop
  | .read _ _ => True
  | .write _ _ => False

instance : (c : TransferCall) → Decidable c.IsRead
  | .read _ _ => .isTrue trivial
  | .write _ _ => .isFalse id

/-- After an `Open` that returns 0 all calls succeed exactly if an `INPUT` object does not
read after a write and an `OUTPUT` object does not write after a read, nor at all where the
kernel refused the output direction during `Open`. -/
theorem transfers_succeed_iff {memory : Vector Word maxGpioNb} {devicePath following : List Byte}
    {direction : Word} (either : direction = inputDirection ∨ direction = outputDirection)
    {k : OpenReplies} {d d' : GpioDriver} {o : CGpio}
    (opened : cgpioOpen (cgpioInputOutput memory devicePath direction false) d following k =
      (0, o, d'))
    {calls : List TransferCall} (granted : (transferMachine o).Admits d' calls) :
    (transferMachine o).EveryStep (Succeeds o) d' calls ↔
      calls.Pairwise (MayFollow direction) ∧
        (direction = outputDirection → k.first.direction < 0 → ∀ c ∈ calls, c.IsRead) := by
  obtain ⟨rfl, minor, on, directed, driven⟩ := cgpioOpen_opened either opened
  rw [everyStep_succeeds_iff on calls granted directed either, and_comm]
  apply and_congr_right
  intro _
  constructor
  · intro served output refused c inside
    cases c with
    | read => trivial
    | write value k' =>
        have serves := (served _ inside).resolve_left (by rw [output]; decide)
        exact absurd ((driven output).mp serves.2) (not_le.mpr refused)
  · intro reads c inside
    cases c with
    | read => exact either.symm
    | write value k' =>
        refine either.imp_right fun output => ⟨output, (driven output).mpr ?_⟩
        apply not_lt.mp
        intro refused
        exact reads output refused _ inside

/-- An object on a GPIO of a freshly loaded driver, every kernel call succeeding. -/
def openedOn (devicePath : List Byte) (direction : Word) : Int × CGpio × GpioDriver :=
  cgpioOpen (cgpioInputOutput (Vector.replicate _ 0) devicePath direction false)
    (gpioInitialize fun _ => 0) [0] ⟨.granted 0, .granted 0, .granted 0⟩

def gpio064 : List Byte := asciiBytes "/dev/gpio064"

def gpio086 : List Byte := asciiBytes "/dev/gpio086"

/-- Two writes by an `OUTPUT` object, then two reads. -/
def writesThenReads : List TransferCall :=
  [.write true (.granted 0), .write false (.granted 0), .read (.granted 1) (.granted 1),
    .read (.granted 0) (.granted 0)]

set_option maxRecDepth 8000 in
theorem transfers_succeed_iff_writesThenReads :
    (transferMachine (openedOn gpio064 outputDirection).2.1).EveryStep
      (Succeeds (openedOn gpio064 outputDirection).2.1) (openedOn gpio064 outputDirection).2.2
      writesThenReads := by
  have ret : (openedOn gpio064 outputDirection).1 = 0 := by decide +kernel
  have granted : ∀ c ∈ writesThenReads, c.granted := by decide
  refine (transfers_succeed_iff (.inr rfl) (Prod.ext ret rfl)
    ((transfer_admits _ _ _).mpr granted)).mpr ⟨by decide, fun _ refused => ?_⟩
  exact absurd refused (by decide)

/-- A read by an `INPUT` object after its write. -/
def writeThenRead : List TransferCall :=
  [.write true (.granted 0), .read (.granted 1) (.granted 1)]

set_option maxRecDepth 8000 in
theorem transfers_succeed_refuted :
    ¬ ∀ (memory : Vector Word maxGpioNb) (devicePath following : List Byte) (direction : Word),
      direction = inputDirection ∨ direction = outputDirection →
        ∀ (k : OpenReplies) (d d' : GpioDriver) (o : CGpio),
          cgpioOpen (cgpioInputOutput memory devicePath direction false) d following k =
              (0, o, d') →
            ∀ calls, (transferMachine o).Admits d' calls →
              (transferMachine o).EveryStep (Succeeds o) d' calls := by
  intro every
  have ret : (openedOn gpio086 inputDirection).1 = 0 := by decide +kernel
  have opened : openedOn gpio086 inputDirection =
      (0, (openedOn gpio086 inputDirection).2.1, (openedOn gpio086 inputDirection).2.2) :=
    Prod.ext ret rfl
  have granted : ∀ c ∈ writeThenRead, c.granted := by decide
  have succeeds := every _ gpio086 _ inputDirection (.inl rfl) _ _ _ _ opened writeThenRead
    ((transfer_admits _ _ _).mpr granted)
  obtain ⟨d', returned⟩ := succeeds.2.1
  have failed : (cgpioRead (openedOn gpio086 inputDirection).2.1
      (transferNext (openedOn gpio086 inputDirection).2.1 (openedOn gpio086 inputDirection).2.2
        (.write true (.granted 0))) (.granted 1) (.granted 1)).map Prod.fst =
      some (-errCgpioReadGpioDriverRead) := by decide +kernel
  have value : some (-errCgpioReadGpioDriverRead) = some 1 :=
    failed.symm.trans (congrArg (Option.map Prod.fst) returned)
  exact absurd value (by decide)

end Gumstix.Classes
