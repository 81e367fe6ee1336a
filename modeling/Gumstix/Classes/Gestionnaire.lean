import Gumstix.Classes.AuthorizedGpio
import Gumstix.Classes.LM74
import Gumstix.Classes.PIRSTDLPSensor
import Gumstix.Classes.TransferDirection

/-!
# Acquisitions

`Gestionnaire` opens the LM74 for each temperature and the sensor of GPIO 86 for each presence
rate. It does not look at the results of these calls and closes neither: the `Close` in
`AcquireTemp` comes after the return, and the sensor has none.
-/
namespace Gumstix.Classes.Gestionnaire
open Gumstix.Synchronization (Word)
open Gumstix.Spike (SpikeDriver SpikeReplies spikeRead)
open Gumstix.Gpio
open EventMachine PIRSTDLPSensor LM74

/-- What the platform decides: the sign of a plain `char`, the rounding of a quotient to a
`double`, and what becomes of the word behind `mesures`. -/
structure Platform where
  charSigned : Bool
  round : ℚ → ℚ
  behind : Word → Word

/-- The object with the drivers that it uses: `sensor` is the `cgpio_` of the sensor,
`temperatureFile` the file that `fd_` of the LM74 is open on, and `descriptors` the number of open
descriptors of the process. -/
structure State where
  sensor : CGpio
  temperatureFile : Option Nat
  gpio : GpioDriver
  spike : SpikeDriver
  descriptors : Nat

/-- The constructor, with the memory that it finds for the table of the sensor. -/
def constructed (memory : Vector Word maxGpioNb) (gpio : GpioDriver) (spike : SpikeDriver)
    (descriptors : Nat) : State where
  sensor := cgpioInputOutput memory gpio086 inputDirection false
  temperatureFile := none
  gpio := gpio
  spike := spike
  descriptors := descriptors

/-- The calls, each with what the kernel answers and with what is in memory. -/
inductive Acquisition where
  | temp (k k' : SpikeReplies)
  | presence (following : List Byte) (k : OpenReplies) (answers : Nat → Replies)
      (stack : Nat → Word)

/-- The conversion of a `double` to an `int`. -/
def truncate (q : ℚ) : Int := if 0 ≤ q then q.floor else q.ceil

structure PresenceOutcome where
  values : Nat → Int
  rate : Int
  after : State

section methods
variable (p : Platform) (s : State)

/-- A `read` from no file leaves the array zero. -/
def acquireTemp (k k' : SpikeReplies) : ℚ × State :=
  match lm74Open s.spike k with
  | (_, none, spike) => (0, { s with temperatureFile := none, spike })
  | (_, some file, spike) =>
      let (temperature, spike) := lm74Read p.charSigned file spike k'
      (temperature,
        { s with temperatureFile := some file, spike, descriptors := s.descriptors + 1 })

/-- The first samples of `Presencerate`; `none` where a read sleeps. -/
def readSamples (o : CGpio) (answers : Nat → Replies) (d : GpioDriver) :
    Nat → Option ((Nat → Int) × GpioDriver)
  | 0 => some (fun _ => 0, d)
  | i + 1 => (readSamples o answers d i).bind fun (values, d) =>
      (cgpioRead o d (answers i) (answers i)).map fun (value, d) =>
        (Function.update values i value, d)

/-- An `Open` that goes on to `open` and leaves the object open has got a descriptor. -/
def acquirePresence (following : List Byte) (k : OpenReplies) (answers : Nat → Replies)
    (stack : Nat → Word) : Option PresenceOutcome :=
  let (ret, sensor, gpio) := cgpioOpen s.sensor s.gpio following k
  let descriptors :=
    if CheckError ret ∨ sensor.fd = none then s.descriptors else s.descriptors + 1
  (readSamples sensor answers gpio sampleCount).map fun (values, gpio) =>
    { values
      rate := truncate (presencerate p.round p.behind (fun i => BitVec.ofInt 32 (values i))
        ⟨stack, []⟩)
      after := { s with sensor, gpio, descriptors } }

def acquisitionNext : Acquisition → State
  | .temp k k' => (acquireTemp p s k k').2
  | .presence following k answers stack =>
      ((acquirePresence p s following k answers stack).map PresenceOutcome.after).getD s

end methods

structure SpikeSucceeds (k : SpikeReplies) : Prop where
  fopWait : k.fopInterrupted = false
  spiWait : k.spiInterrupted = false
  allocated : k.allocated = true
  sent : k.spiSync = 0
  copied : k.notCopied = 0

structure KernelSucceeds (k : Replies) : Prop where
  requested : k.request = 0
  directed : 0 ≤ k.direction
  interrupt : k.irq = 0
  mapped : ∀ i, k.ioremap i = true
  copied : k.notCopiedToUser = 0

theorem kernelSucceeds_granted (level : Word) : KernelSucceeds (.granted level) :=
  ⟨rfl, le_rfl, rfl, fun _ => rfl, rfl⟩

/-- No kernel call fails, apart from the refusal of a second opener in `Gpio_open`. -/
def NothingFails (s : State) : Acquisition → Prop
  | .temp k k' => SpikeSucceeds k ∧ SpikeSucceeds k' ∧ s.spike.spiDevice = true
  | .presence _ k answers _ =>
      KernelSucceeds k.device ∧ KernelSucceeds k.first ∧ KernelSucceeds k.second ∧
        ∀ i, KernelSucceeds (answers i)

abbrev acquisitionMachine (p : Platform) : EventMachine State Acquisition where
  enabled := NothingFails
  next := acquisitionNext p

/-- The level of a pin, as `CGPIO::Read` returns it. -/
def pinLevel (k : Replies) : Int := if k.level = 0 then 0 else 1

/-- The rate for the levels of a pin. -/
def levelRate (p : Platform) (answers : Nat → Replies) : Int :=
  truncate (presencerate p.round p.behind (fun i => BitVec.ofInt 32 (pinLevel (answers i)))
    ⟨fun _ => 0, []⟩)

/-- The samples of a call are the levels that the pin has during the call, and the rate is that
of these levels. -/
def PresenceLive (p : Platform) (s : State) : Acquisition → Prop
  | .temp _ _ => True
  | .presence following k answers stack =>
      ∃ out, acquirePresence p s following k answers stack = some out ∧
        (∀ i < sampleCount, out.values i = pinLevel (answers i)) ∧
          out.rate = levelRate p answers

/-- `Open` finds the number of the sensor in its table. -/
def NumberFound (o : CGpio) (following : List Byte) : Prop :=
  searchOnTable o.authorizedGpio (getuiGpioNum o.gpioPath following) = true

instance (o : CGpio) (following : List Byte) : Decidable (NumberFound o following) :=
  inferInstanceAs (Decidable (_ = true))

def sensorMinor : Minor := 86

/-- A call opens the sensor if it is closed, and does not come to `open` if it is open. -/
def OpensOnce (s : State) : Acquisition → Prop
  | .temp _ _ => True
  | .presence following _ _ _ =>
      if s.sensor.fd = none then
        NumberFound s.sensor following ∧ (s.gpio.attributes sensorMinor).isOpened = 0
      else ¬ NumberFound s.sensor following

instance (s : State) : (e : Acquisition) → Decidable (OpensOnce s e)
  | .temp _ _ => .isTrue trivial
  | .presence following _ _ _ =>
      inferInstanceAs (Decidable (if s.sensor.fd = none then
        NumberFound s.sensor following ∧ (s.gpio.attributes sensorMinor).isOpened = 0
      else ¬ NumberFound s.sensor following))

/-- One descriptor for each temperature, and one for the first presence rate of a sensor that is
closed. -/
def obtained (closed : Bool) : List Acquisition → Nat
  | [] => 0
  | .temp _ _ :: es => obtained closed es + 1
  | .presence _ _ _ _ :: es => obtained false es + if closed then 1 else 0

def Acquisition.isPresence : Acquisition → Bool
  | .temp _ _ => false
  | .presence _ _ _ _ => true

/-- No digit follows the array of the number in memory. -/
def Acquisition.Plain : Acquisition → Prop
  | .temp _ _ => True
  | .presence following _ _ _ => ¬ DigitFollows following

/-- All presence rates are live, and the process never has more than `bound` descriptors. -/
structure AcquisitionsRight (p : Platform) (s : State) (es : List Acquisition) (bound : Nat) :
    Prop where
  live : (acquisitionMachine p).EveryStep (PresenceLive p) s es
  bounded : (acquisitionMachine p).Always (fun s => s.descriptors ≤ bound) s es

/-- An object as the constructor of the sensor makes it, open or not. -/
structure SensorObject (o : CGpio) : Prop where
  path : o.gpioPath = gpio086
  mode : o.mode = ioMode
  direction : o.direction = inputDirection
  plain : o.defaultValue = false
  table : ∃ memory, o.authorizedGpio = setAuthorizeGpio memory

/-- The GPIO of the sensor is open in the driver, as an input. -/
structure SensorOpened (d : GpioDriver) : Prop where
  directed : Directed d sensorMinor inputDirection
  isOpened : (d.attributes sensorMinor).isOpened ≠ 0

/-- Where the sensor is open, its GPIO is. -/
structure SensorSound (s : State) : Prop where
  object : SensorObject s.sensor
  opened : ∀ minor, s.sensor.fd = some minor → minor = sensorMinor ∧ SensorOpened s.gpio

theorem findDevice_gpio086 : findDevice gpio086 = some sensorMinor := by
  decide +kernel

section opening
variable {o : CGpio} {d : GpioDriver} {following : List Byte}

theorem SensorObject.withFd (h : SensorObject o) (fd : Option Minor) :
    SensorObject { o with fd } := ⟨h.path, h.mode, h.direction, h.plain, h.table⟩

/-- Without a digit after the array the number is found. -/
theorem SensorObject.numberFound (h : SensorObject o) (none : ¬ DigitFollows following) :
    NumberFound o following := by
  obtain ⟨memory, table⟩ := h.table
  have path : gpio086 = gpioEntry 86 := by decide
  have found := (searchOnTable_iff memory 86).mpr (.inl (by decide))
  rw [NumberFound, table, h.path, path, getuiGpioNum_gpioEntry (by decide),
    continuedNumber_of_not_digitFollows (by decide) none]
  exact found

theorem SensorObject.notInterrupt (h : SensorObject o) : o.mode ≠ itMode := by
  rw [h.mode]
  decide

theorem SensorObject.notOutput (h : SensorObject o) : o.direction ≠ outputDirection := by
  rw [h.direction]
  decide

theorem SensorObject.take_path (h : SensorObject o) :
    o.gpioPath.take 9 = asciiBytes "/dev/gpio" := by
  rw [h.path]
  decide

theorem SensorObject.findDevice (h : SensorObject o) :
    findDevice o.gpioPath = some sensorMinor := by
  rw [h.path]
  exact findDevice_gpio086

theorem NumberFound.useable (found : NumberFound o following) :
    searchOnTable o.authorizedGpio (getuiGpioNum o.gpioPath following) ≠ false := by
  rw [show searchOnTable _ _ = true from found]
  exact Bool.true_eq_false_eq_False

theorem SensorObject.openOn (h : SensorObject o) (fd : o.fd = some sensorMinor) :
    OpenOn o sensorMinor := ⟨fd, h.mode, .inl h.direction⟩

theorem SensorOpened.attribute (h : SensorOpened d) (level : Word) :
    SensorOpened (d.attribute sensorMinor fun a => { a with value := level }) := by
  refine ⟨h.directed.attribute (fun _ => rfl) fun _ => rfl, ?_⟩
  rw [attribute_attributes, Function.update_self]
  exact h.isOpened

theorem cgpioOpen_notFound (h : SensorObject o) (d : GpioDriver) (k : OpenReplies)
    (missing : ¬ NumberFound o following) :
    cgpioOpen o d following k = (-errCgpioOpenGpioNotUseable, o, d) := by
  unfold cgpioOpen
  rw [if_neg (not_not.mpr h.take_path), if_pos (Bool.eq_false_of_not_eq_true missing)]

theorem cgpioOpen_busy (h : SensorObject o) (k : OpenReplies) (found : NumberFound o following)
    (busy : (d.attributes sensorMinor).isOpened ≠ 0) :
    cgpioOpen o d following k = (-errCgpioOpenGpioDriverOpen, { o with fd := none }, d) := by
  have refused : gpioOpen d sensorMinor readWriteMode k.device = (-errOpenGpioBusyInDriver, d) :=
    if_pos busy
  unfold cgpioOpen
  rw [if_neg (not_not.mpr h.take_path), if_neg found.useable, h.findDevice]
  dsimp only
  rw [refused]
  exact if_pos (show -errOpenGpioBusyInDriver < 0 by decide)

theorem gpioOpen_free {minor : Minor} (openMode : Word) {k : Replies}
    (free : (d.attributes minor).isOpened = 0) (succeeds : KernelSucceeds k) :
    0 ≤ (gpioOpen d minor openMode k).1 ∧
      ((gpioOpen d minor openMode k).2.attributes minor).isOpened = 1 := by
  have directs : ¬ (openDirection (openRequested d minor k) minor openMode k).1 < 0 := by
    rw [openDirection_ret]
    exact not_lt.mpr succeeds.directed
  unfold gpioOpen
  rw [if_neg (not_not.mpr free)]
  dsimp only
  rw [if_neg (not_not.mpr succeeds.requested)]
  split_ifs with failed
  · exact absurd failed directs
  · refine ⟨le_rfl, ?_⟩
    rw [attribute_attributes, Function.update_self]

theorem openInputOutput_plain (h : SensorObject o) (d : GpioDriver) (k : OpenReplies) :
    openInputOutput o d k = (0, d) := by
  simp only [openInputOutput, if_neg h.notOutput, h.plain, lt_irrefl, Bool.false_eq_true, if_false]

theorem cgpioOpen_free (h : SensorObject o) {k : OpenReplies} (found : NumberFound o following)
    (free : (d.attributes sensorMinor).isOpened = 0) (succeeds : KernelSucceeds k.device) :
    ∃ d', cgpioOpen o d following k = (0, { o with fd := some sensorMinor }, d') ∧
      SensorOpened d' := by
  obtain ⟨opened, isOpened⟩ := gpioOpen_free readWriteMode free succeeds
  have directed := (gpioOpen_directed d sensorMinor (by decide) opened).1
  refine ⟨(gpioOpen d sensorMinor readWriteMode k.device).2, ?_, directed, ?_⟩
  · unfold cgpioOpen
    rw [if_neg (not_not.mpr h.take_path), if_neg found.useable, h.findDevice]
    dsimp only
    rw [if_neg (not_lt.mpr opened), if_pos h.mode, openInputOutput_plain (h.withFd _)]
  · rw [isOpened]
    decide

end opening

section samples
variable {o : CGpio} {d : GpioDriver}

theorem cgpioRead_open (h : SensorObject o) (fd : o.fd = some sensorMinor) (now : SensorOpened d)
    (k : Replies) {k' : Replies} (succeeds : KernelSucceeds k') :
    cgpioRead o d k k' = some (pinLevel k',
      d.attribute sensorMinor fun a => { a with value := k'.level }) := by
  unfold cgpioRead
  rw [if_neg h.notInterrupt, if_neg h.notOutput]
  exact read_directed (h.openOn fd) now.directed succeeds.copied

/-- A `read` of `m_fd` = -1 fails. -/
theorem cgpioRead_closed (h : SensorObject o) (fd : o.fd = none) (d : GpioDriver)
    (k k' : Replies) : cgpioRead o d k k' = some (-errCgpioReadGpioDriverRead, d) := by
  unfold cgpioRead
  rw [if_neg h.notInterrupt, if_neg h.notOutput]
  dsimp only
  rw [CGpio.read, fd]
  rfl

/-- The samples are what the reads return, where each read keeps what the next one needs. -/
theorem readSamples_spec {answers : Nat → Replies} {P : GpioDriver → Prop} {v : Nat → Int}
    (reads : ∀ i d, P d → ∃ d', cgpioRead o d (answers i) (answers i) = some (v i, d') ∧ P d')
    (now : P d) (n : Nat) :
    ∃ values d', readSamples o answers d n = some (values, d') ∧ P d' ∧
      ∀ i < n, values i = v i := by
  induction n with
  | zero => exact ⟨_, d, rfl, now, nofun⟩
  | succ n ih =>
      obtain ⟨values, d', before, now', same⟩ := ih
      obtain ⟨d'', next, now''⟩ := reads n d' now'
      refine ⟨Function.update values n (v n), d'', ?_, now'', ?_⟩
      · rw [readSamples, before, Option.bind_some]
        dsimp only
        rw [next, Option.map_some]
      · intro i upTo
        by_cases last : i = n
        · subst last
          exact Function.update_self i _ values
        · rw [Function.update_of_ne last]
          exact same i (Nat.lt_of_le_of_ne (Nat.le_of_lt_succ upTo) last)

theorem readSamples_open (h : SensorObject o) (fd : o.fd = some sensorMinor) (now : SensorOpened d)
    {answers : Nat → Replies} (succeed : ∀ i, KernelSucceeds (answers i)) :
    ∃ values d', readSamples o answers d sampleCount = some (values, d') ∧ SensorOpened d' ∧
      ∀ i < sampleCount, values i = pinLevel (answers i) :=
  readSamples_spec (fun i _ opened => ⟨_, cgpioRead_open h fd opened (answers i) (succeed i),
    opened.attribute (answers i).level⟩) now sampleCount

theorem readSamples_closed (h : SensorObject o) (fd : o.fd = none) (d : GpioDriver)
    (answers : Nat → Replies) :
    ∃ values, readSamples o answers d sampleCount = some (values, d) ∧
      ∀ i < sampleCount, values i = -errCgpioReadGpioDriverRead := by
  have reads : ∀ i d', d' = d → ∃ d'', cgpioRead o d' (answers i) (answers i) =
      some (-errCgpioReadGpioDriverRead, d'') ∧ d'' = d :=
    fun i d' same => ⟨d', cgpioRead_closed h fd d' (answers i) (answers i), same⟩
  obtain ⟨values, d', read, rfl, failed⟩ := readSamples_spec reads rfl sampleCount
  exact ⟨values, read, failed⟩

end samples
section call
variable {p : Platform} {s : State} {following : List Byte} {k : OpenReplies}
  {answers : Nat → Replies} {stack : Nat → Word}

/-- What a presence rate needs of its `Open`. -/
theorem acquirePresence_of_open {ret : Int} {o : CGpio} {d d' : GpioDriver} {values : Nat → Int}
    (opened : cgpioOpen s.sensor s.gpio following k = (ret, o, d))
    (read : readSamples o answers d sampleCount = some (values, d')) :
    acquirePresence p s following k answers stack = some
      { values
        rate := truncate (presencerate p.round p.behind (fun i => BitVec.ofInt 32 (values i))
          ⟨stack, []⟩)
        after := { s with
          sensor := o
          gpio := d'
          descriptors := if CheckError ret ∨ o.fd = none then s.descriptors
            else s.descriptors + 1 } } := by
  rw [acquirePresence, opened]
  dsimp only
  rw [read, Option.map_some]

theorem rate_of_levels {values : Nat → Int}
    (levels : ∀ i < sampleCount, values i = pinLevel (answers i)) :
    truncate (presencerate p.round p.behind (fun i => BitVec.ofInt 32 (values i)) ⟨stack, []⟩) =
      levelRate p answers :=
  congrArg truncate (presencerate_congr p.round p.behind
    (fun i before => congrArg (BitVec.ofInt 32) (levels i before)) _ _)

/-- A call that opens the sensor once is live and leaves it open. -/
theorem acquirePresence_once (h : SensorSound s)
    (granted : NothingFails s (.presence following k answers stack))
    (once : OpensOnce s (.presence following k answers stack)) :
    ∃ out, acquirePresence p s following k answers stack = some out ∧
      (∀ i < sampleCount, out.values i = pinLevel (answers i)) ∧
        out.rate = levelRate p answers ∧ SensorSound out.after ∧ out.after.sensor.fd ≠ none ∧
          out.after.descriptors = s.descriptors + if s.sensor.fd = none then 1 else 0 := by
  obtain ⟨device, -, -, succeed⟩ := granted
  rw [OpensOnce] at once
  split_ifs at once with closed
  · obtain ⟨d, opened, now⟩ := cgpioOpen_free h.object once.1 once.2 device
    obtain ⟨values, d', read, now', levels⟩ :=
      readSamples_open (h.object.withFd _) rfl now succeed
    refine ⟨_, acquirePresence_of_open opened read, levels, rate_of_levels levels,
      ⟨h.object.withFd _, ?_⟩, nofun, ?_⟩
    · rintro minor ⟨⟩
      exact ⟨rfl, now'⟩
    · have got : ¬ (CheckError 0 ∨ some sensorMinor = none) := by decide
      dsimp only
      rw [if_pos closed, if_neg got]
  · obtain ⟨minor, fd⟩ := Option.ne_none_iff_exists'.mp closed
    obtain ⟨rfl, now⟩ := h.opened minor fd
    have opened := cgpioOpen_notFound h.object s.gpio k once
    obtain ⟨values, d', read, now', levels⟩ := readSamples_open h.object fd now succeed
    refine ⟨_, acquirePresence_of_open opened read, levels, rate_of_levels levels,
      ⟨h.object, fun minor same => ?_⟩, closed, ?_⟩
    · exact ⟨(h.opened minor same).1, now'⟩
    · have kept : CheckError (-errCgpioOpenGpioNotUseable) := .inr rfl
      dsimp only
      rw [if_neg closed, if_pos (.inl kept)]
      rfl

/-- Every other call leaves the sensor closed before it reads. -/
theorem cgpioOpen_closed (h : SensorSound s)
    (other : ¬ OpensOnce s (.presence following k answers stack)) :
    ∃ ret o, cgpioOpen s.sensor s.gpio following k = (ret, o, s.gpio) ∧ SensorObject o ∧
      o.fd = none := by
  rw [OpensOnce] at other
  by_cases found : NumberFound s.sensor following
  · have busy : (s.gpio.attributes sensorMinor).isOpened ≠ 0 := by
      by_cases closed : s.sensor.fd = none
      · rw [if_pos closed] at other
        exact fun free => other ⟨found, free⟩
      · obtain ⟨minor, fd⟩ := Option.ne_none_iff_exists'.mp closed
        exact (h.opened minor fd).2.isOpened
    exact ⟨_, _, cgpioOpen_busy h.object k found busy, h.object.withFd none, rfl⟩
  · have closed : s.sensor.fd = none := by
      by_contra closed
      rw [if_neg closed] at other
      exact other found
    exact ⟨_, _, cgpioOpen_notFound h.object s.gpio k found, h.object, closed⟩

theorem presenceLive_iff (h : SensorSound s) (e : Acquisition) (granted : NothingFails s e) :
    PresenceLive p s e ↔ OpensOnce s e := by
  cases e with
  | temp k k' => exact Iff.rfl
  | presence following k answers stack =>
      constructor
      · rintro ⟨out, acquired, levels, -⟩
        by_contra other
        obtain ⟨ret, o, opened, object, fd⟩ := cgpioOpen_closed h other
        obtain ⟨values, read, failed⟩ := readSamples_closed object fd s.gpio answers
        rw [acquirePresence_of_open opened read] at acquired
        have first := levels 0 (by decide)
        rw [← Option.some.inj acquired] at first
        change values 0 = _ at first
        rw [failed 0 (by decide), pinLevel] at first
        split_ifs at first
        · exact absurd first (by decide)
        · exact absurd first (by decide)
      · intro once
        obtain ⟨out, acquired, levels, rate, -⟩ := acquirePresence_once h granted once
        exact ⟨out, acquired, levels, rate⟩

end call

section sequence
variable {p : Platform} {s : State}

theorem lm74Open_succeeds (d : SpikeDriver) {k : SpikeReplies} (succeeds : SpikeSucceeds k) :
    lm74Open d k = (0, some d.openFiles, (Spike.spikeOpen d k).driver) := by
  have ret : (Spike.spikeOpen d k).ret = 0 := by
    unfold Spike.spikeOpen
    rw [succeeds.fopWait, if_neg Bool.false_ne_true]
    split
    · rfl
    · rw [succeeds.allocated, if_pos rfl]
  rw [lm74Open, if_neg (by rw [ret]; exact lt_irrefl 0)]

/-- A temperature leaves one more descriptor. -/
theorem acquireTemp_opens (p : Platform) (s : State) {k : SpikeReplies} (k' : SpikeReplies)
    (succeeds : SpikeSucceeds k) :
    (acquireTemp p s k k').2.sensor = s.sensor ∧ (acquireTemp p s k k').2.gpio = s.gpio ∧
      (acquireTemp p s k k').2.descriptors = s.descriptors + 1 := by
  rw [acquireTemp, lm74Open_succeeds s.spike succeeds]
  exact ⟨rfl, rfl, rfl⟩

theorem next_temp (p : Platform) (s : State) (k k' : SpikeReplies) :
    acquisitionNext p s (.temp k k') = (acquireTemp p s k k').2 := rfl

theorem next_presence {following : List Byte} {k : OpenReplies} {answers : Nat → Replies}
    {stack : Nat → Word} {out : PresenceOutcome}
    (acquired : acquirePresence p s following k answers stack = some out) :
    acquisitionNext p s (.presence following k answers stack) = out.after :=
  congrArg (fun r => (Option.map PresenceOutcome.after r).getD s) acquired

theorem acquisitionNext_sound (h : SensorSound s) {e : Acquisition} (granted : NothingFails s e)
    (once : OpensOnce s e) : SensorSound (acquisitionNext p s e) := by
  cases e with
  | temp k k' =>
      obtain ⟨sensor, gpio, -⟩ := acquireTemp_opens p s k' granted.1
      constructor
      · rw [next_temp, sensor]
        exact h.object
      · rw [next_temp, sensor, gpio]
        exact h.opened
  | presence following k answers stack =>
      obtain ⟨out, acquired, -, -, sound, -⟩ := acquirePresence_once (p := p) h granted once
      rw [next_presence acquired]
      exact sound

theorem presencesLive_iff (h : SensorSound s) {es : List Acquisition}
    (granted : (acquisitionMachine p).Admits s es) :
    (acquisitionMachine p).EveryStep (PresenceLive p) s es ↔
      (acquisitionMachine p).EveryStep OpensOnce s es :=
  everyStep_iff_everyStep (I := SensorSound)
    (fun _ _ h granted once => acquisitionNext_sound h granted once)
    (fun _ e h granted => presenceLive_iff h e granted) h granted

/-- The descriptors only get more, so that their last number decides. -/
theorem descriptors_bounded_iff (h : SensorSound s) {es : List Acquisition}
    (granted : (acquisitionMachine p).Admits s es)
    (once : (acquisitionMachine p).EveryStep OpensOnce s es) (bound : Nat) :
    (acquisitionMachine p).Always (fun s => s.descriptors ≤ bound) s es ↔
      s.descriptors + obtained s.sensor.fd.isNone es ≤ bound := by
  induction es generalizing s with
  | nil => exact Iff.rfl
  | cons e es ih =>
      have rest := ih (acquisitionNext_sound h granted.1 once.1) granted.2 once.2
      change s.descriptors ≤ bound ∧
        (acquisitionMachine p).Always _ (acquisitionNext p s e) es ↔ _
      rw [rest]
      cases e with
      | temp k k' =>
          obtain ⟨sensor, -, more⟩ := acquireTemp_opens p s k' granted.1.1
          change _ ∧ (acquireTemp p s k k').2.descriptors +
            obtained (acquireTemp p s k k').2.sensor.fd.isNone es ≤ bound ↔ _
          rw [sensor, more, obtained]
          omega
      | presence following k answers stack =>
          obtain ⟨out, acquired, -, -, -, opened, more⟩ :=
            acquirePresence_once (p := p) h granted.1 once.1
          have closed : out.after.sensor.fd.isNone = false :=
            Bool.eq_false_of_not_eq_true fun none => opened (Option.isNone_iff_eq_none.mp none)
          rw [next_presence acquired, closed, more, obtained]
          simp only [Option.isNone_iff_eq_none]
          omega

theorem opensOnce_plain_iff (h : SensorSound s) {following : List Byte} {k : OpenReplies}
    {answers : Nat → Replies} {stack : Nat → Word} (plain : ¬ DigitFollows following) :
    OpensOnce s (.presence following k answers stack) ↔
      s.sensor.fd = none ∧ (s.gpio.attributes sensorMinor).isOpened = 0 := by
  have found := h.object.numberFound plain
  rw [OpensOnce]
  split_ifs with closed
  · rw [and_iff_right found, and_iff_right closed]
  · exact iff_of_false (not_not.mpr found) fun both => closed both.1

/-- Where no digit follows the array, there is at most one presence rate, and it needs a sensor
and a GPIO that are closed. -/
theorem everyStep_opensOnce_iff (h : SensorSound s) {es : List Acquisition}
    (granted : (acquisitionMachine p).Admits s es) (plain : ∀ e ∈ es, e.Plain) :
    (acquisitionMachine p).EveryStep OpensOnce s es ↔
      es.countP Acquisition.isPresence = 0 ∨
        es.countP Acquisition.isPresence = 1 ∧ s.sensor.fd = none ∧
          (s.gpio.attributes sensorMinor).isOpened = 0 := by
  induction es generalizing s with
  | nil => exact iff_of_true trivial (.inl rfl)
  | cons e es ih =>
      have plain' : ∀ e' ∈ es, e'.Plain := fun e' later => plain e' (List.mem_cons_of_mem e later)
      change OpensOnce s e ∧
        (acquisitionMachine p).EveryStep OpensOnce (acquisitionNext p s e) es ↔ _
      cases e with
      | temp k k' =>
          obtain ⟨sensor, gpio, -⟩ := acquireTemp_opens p s k' granted.1.1
          have once : OpensOnce s (.temp k k') := trivial
          rw [and_iff_right once, ih (acquisitionNext_sound h granted.1 once) granted.2 plain',
            next_temp, sensor, gpio]
          rfl
      | presence following k answers stack =>
          have one : OpensOnce s (.presence following k answers stack) ↔
              s.sensor.fd = none ∧ (s.gpio.attributes sensorMinor).isOpened = 0 :=
            opensOnce_plain_iff h (plain _ List.mem_cons_self)
          have count : (Acquisition.presence following k answers stack :: es).countP
              Acquisition.isPresence = es.countP Acquisition.isPresence + 1 :=
            List.countP_cons_of_pos rfl
          rw [count]
          constructor
          · rintro ⟨once, later⟩
            obtain ⟨out, acquired, -, -, sound, opened, -⟩ :=
              acquirePresence_once (p := p) h granted.1 once
            have granted' : (acquisitionMachine p).Admits
                (acquisitionNext p s (.presence following k answers stack)) es := granted.2
            rw [next_presence acquired] at later granted'
            rcases (ih sound granted' plain').mp later with zero | ⟨-, closed, -⟩
            · exact .inr ⟨congrArg Nat.succ zero, one.mp once⟩
            · exact absurd closed opened
          · rintro (none | ⟨few, free⟩)
            · exact absurd none (Nat.succ_ne_zero _)
            · have once := one.mpr free
              exact ⟨once, (ih (acquisitionNext_sound h granted.1 once) granted.2 plain').mpr
                (.inl (Nat.succ.inj few))⟩

theorem constructed_sound (memory : Vector Word maxGpioNb) (gpio : GpioDriver)
    (spike : SpikeDriver) (descriptors : Nat) :
    SensorSound (constructed memory gpio spike descriptors) :=
  ⟨⟨rfl, rfl, rfl, rfl, memory, rfl⟩, nofun⟩

end sequence

theorem spikeSucceeds_granted (received : List (BitVec 8)) :
    SpikeSucceeds (.granted received) := ⟨rfl, rfl, rfl, rfl, rfl⟩

/-- A `double` that is not rounded, and a word behind `mesures` that keeps its value. -/
def plainPlatform : Platform := ⟨true, id, id⟩

/-- Both drivers are loaded, and the process has its three standard descriptors. -/
def loaded : State :=
  constructed (Vector.replicate _ 0) (gpioInitialize fun _ => 0) sensorThere 3

theorem loaded_sound : SensorSound loaded := constructed_sound _ _ _ _

def tempCall : Acquisition := .temp (.granted []) (.granted [0x0B, 0x27])

/-- A room that is occupied all the time, and a zero byte after the array of the number. -/
def presenceCall : Acquisition :=
  .presence [0] ⟨.granted 0, .granted 0, .granted 0⟩ (fun _ => .granted 0) fun _ => 0

/-- No call takes the device away. -/
theorem acquisitionNext_spiDevice (p : Platform) {s : State} {e : Acquisition}
    (granted : NothingFails s e) :
    (acquisitionNext p s e).spike.spiDevice = s.spike.spiDevice := by
  cases e with
  | temp k k' =>
      have opened := lm74Open_succeeds s.spike granted.1
      rw [next_temp, acquireTemp, opened]
      exact (lm74Read_spiDevice p.charSigned _ _ k').trans (lm74Open_file opened).2.2
  | presence following k answers stack =>
      cases acquired : acquirePresence p s following k answers stack with
      | none =>
          exact congrArg (fun r => ((Option.map PresenceOutcome.after r).getD s).spike.spiDevice)
            acquired
      | some out =>
          rw [next_presence acquired]
          obtain ⟨samples, -, rfl⟩ := Option.map_eq_some_iff.mp acquired
          rfl

theorem calls_admitted (p : Platform) {s : State} (device : s.spike.spiDevice = true)
    {es : List Acquisition} (calls : ∀ e ∈ es, e = tempCall ∨ e = presenceCall) :
    (acquisitionMachine p).Admits s es := by
  induction es generalizing s with
  | nil => trivial
  | cons e es ih =>
      have granted : NothingFails s e := by
        rcases calls e List.mem_cons_self with rfl | rfl
        · exact ⟨spikeSucceeds_granted _, spikeSucceeds_granted _, device⟩
        · exact ⟨kernelSucceeds_granted 0, kernelSucceeds_granted 0, kernelSucceeds_granted 0,
            fun _ => kernelSucceeds_granted 0⟩
      refine ⟨granted, ih ?_ fun e' later => calls e' (List.mem_cons_of_mem e later)⟩
      exact (acquisitionNext_spiDevice p granted).trans device

theorem obtained_temps (closed : Bool) (n : Nat) :
    obtained closed (List.replicate n tempCall) = n := by
  induction n with
  | zero => rfl
  | succ n ih => exact congrArg Nat.succ ih

/-- Temperatures alone exceed every bound on the descriptors. -/
theorem temperatures_unbounded (p : Platform) (bound : Nat) :
    ¬ (acquisitionMachine p).Always (fun s => s.descriptors ≤ bound) loaded
      (List.replicate (bound + 1) tempCall) := by
  have calls : ∀ e ∈ List.replicate (bound + 1) tempCall, e = tempCall ∨ e = presenceCall :=
    fun e inside => .inl (List.eq_of_mem_replicate inside)
  have granted := calls_admitted p (s := loaded) rfl calls
  have once : ∀ n s, (acquisitionMachine p).EveryStep OpensOnce s
      (List.replicate n tempCall) := by
    intro n
    induction n with
    | zero => exact fun _ => trivial
    | succ n ih => exact fun s => ⟨trivial, ih _⟩
  rw [descriptors_bounded_iff loaded_sound granted (once _ _), obtained_temps]
  change ¬ 3 + (bound + 1) ≤ bound
  omega

/-- All presence rates of a sequence of calls are live and the descriptors stay within a bound,
exactly if the sensor is opened once and each temperature is counted in the bound. -/
theorem acquisitions_right_iff (p : Platform) (memory : Vector Word maxGpioNb) (gpio : GpioDriver)
    (spike : SpikeDriver) (descriptors : Nat) {es : List Acquisition}
    (granted : (acquisitionMachine p).Admits (constructed memory gpio spike descriptors) es)
    (bound : Nat) :
    AcquisitionsRight p (constructed memory gpio spike descriptors) es bound ↔
      (acquisitionMachine p).EveryStep OpensOnce (constructed memory gpio spike descriptors) es ∧
        descriptors + obtained true es ≤ bound := by
  have sound := constructed_sound memory gpio spike descriptors
  rw [← presencesLive_iff sound granted]
  constructor
  · rintro ⟨live, bounded⟩
    have once := (presencesLive_iff sound granted).mp live
    exact ⟨live, (descriptors_bounded_iff sound granted once bound).mp bounded⟩
  · rintro ⟨live, few⟩
    have once := (presencesLive_iff sound granted).mp live
    exact ⟨live, (descriptors_bounded_iff sound granted once bound).mpr few⟩

/-- One presence rate and two temperatures. -/
def presenceOnce : List Acquisition := [tempCall, presenceCall, tempCall]

theorem acquisitions_right_iff_presenceOnce :
    AcquisitionsRight plainPlatform loaded presenceOnce 6 := by
  have granted : (acquisitionMachine plainPlatform).Admits loaded presenceOnce :=
    calls_admitted plainPlatform rfl (by simp [presenceOnce])
  exact (acquisitions_right_iff _ _ _ _ _ granted 6).mpr ⟨by decide +kernel, by decide⟩

/-- The second presence rate finds the GPIO open. -/
theorem acquisitions_right_refuted :
    ¬ ∀ (p : Platform) (memory : Vector Word maxGpioNb) (gpio : GpioDriver) (spike : SpikeDriver)
      (descriptors : Nat), ∃ bound, ∀ es,
        (acquisitionMachine p).Admits (constructed memory gpio spike descriptors) es →
          AcquisitionsRight p (constructed memory gpio spike descriptors) es bound := by
  intro every
  obtain ⟨bound, right⟩ := every plainPlatform (Vector.replicate _ 0) (gpioInitialize fun _ => 0)
    sensorThere 3
  have granted : (acquisitionMachine plainPlatform).Admits loaded [presenceCall, presenceCall] :=
    calls_admitted plainPlatform rfl (by simp)
  have once := (presencesLive_iff loaded_sound granted).mp (right _ granted).live
  exact absurd once (by decide +kernel)

end Gumstix.Classes.Gestionnaire
