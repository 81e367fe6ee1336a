import Gumstix.CanSpi.CallSpecs
import Mathlib.Data.Nat.ModEq

/-!
# Word rates

`CMD_SPI_FREQUENCY` stores the rate of the bits, the product of the frequency of the words with
`bits_per_word`. `CMD_SPI_BITS_PER_WORD` leaves the rate as it is.
-/
namespace Gumstix.CanSpi
open Gumstix.Synchronization (Word)
open EventMachine

/-- The two commands that configure the device. -/
inductive ConfigCommand where
  | frequency (arg : Word)
  | bitsPerWord (arg : Word)
  deriving DecidableEq

def ConfigCommand.isFrequency : ConfigCommand → Bool
  | .frequency _ => true
  | .bitsPerWord _ => false

def ConfigCommand.ioctl (d : Driver) : ConfigCommand → Driver × (Phase ⊕ Int)
  | .frequency arg => spiIoctl d cmdSpiFrequency arg
  | .bitsPerWord arg => spiIoctl d cmdSpiBitsPerWord arg

/-- The commands that `Spi_ioctl` accepts. -/
abbrev configMachine : EventMachine Driver ConfigCommand where
  enabled d c := (c.ioctl d).2 = .inr 0
  next d c := (c.ioctl d).1

/-- The rate of the device is that of the words times their bits, as a number. -/
def WordRate (d : Driver) (frequency : Word) : Prop :=
  d.maxSpeedHz.toNat = frequency.toNat * d.bitsPerWord.toNat

def ValidBits (bits : Word) : Prop := bits = 8 ∨ bits = 16 ∨ bits = 32

instance (d : Driver) (frequency : Word) : Decidable (WordRate d frequency) :=
  inferInstanceAs (Decidable (_ = _))

/-- The last bits per word that the commands set, or those before them. -/
def bitsAfter : Word → List ConfigCommand → Word
  | bits, [] => bits
  | bits, .frequency _ :: es => bitsAfter bits es
  | _, .bitsPerWord arg :: es => bitsAfter arg es

/-- The frequency is 0, or the bits per word are those with which it was set and the product is
no larger than a word. -/
def RateStillRight (frequency bitsThen bitsNow : Word) : Prop :=
  frequency = 0 ∨ bitsThen = bitsNow ∧ frequency.toNat * bitsNow.toNat < 2 ^ 32

instance (frequency bitsThen bitsNow : Word) :
    Decidable (RateStillRight frequency bitsThen bitsNow) :=
  inferInstanceAs (Decidable (_ ∨ _))

section driver
variable {ι : Type*} [DecidableEq ι] {s : CallState ι} {d : Driver}

theorem statement_bitsPerWord (d : Driver) (k : Replies) (phase : Phase) :
    (statement d k phase).1.bitsPerWord = d.bitsPerWord := by
  cases phase <;> grind [statement, down, up, writeBody, openBody]

theorem validBits_iff (bits : Word) :
    ¬ (bits ≠ 8 ∧ bits ≠ 16 ∧ bits ≠ 32) ↔ ValidBits bits := by
  simp only [not_and_or, not_not, ValidBits]

theorem spiIoctl_validBits (valid : ValidBits d.bitsPerWord) (cmd arg : Word) :
    ValidBits (spiIoctl d cmd arg).1.bitsPerWord := by
  unfold spiIoctl
  split_ifs with start stop frequency bits refused nbEch refused test
  · exact valid
  · exact valid
  · exact valid
  · exact valid
  · exact (validBits_iff arg).mp refused
  · exact valid
  · exact valid
  · exact valid
  · exact valid

theorem callNext_validBits (s : CallState ι) (e : CallEvent ι)
    (valid : ValidBits s.driver.bitsPerWord) (_ : callEnabled s e) :
    ValidBits (callNext s e).driver.bitsPerWord := by
  cases e with
  | call p c =>
      rw [callNext, proceed_driver]
      cases c with
      | openFile | write => exact valid
      | read buffIsNull count => cases buffIsNull <;> exact valid
      | ioctl cmd arg => exact spiIoctl_validBits valid cmd arg
  | statement p k =>
      rw [callNext, proceed_driver, statement_bitsPerWord]
      exact valid
  | complete | signal | close | probe | remove => exact valid

/-- `bits_per_word` is 8, 16 or 32 in every state of the driver. -/
theorem reachable_validBits (reachable : callMachine.Reachable (noCall ι) s) :
    ValidBits s.driver.bitsPerWord :=
  reachable.invariant (I := fun s => ValidBits s.driver.bitsPerWord) (.inr (.inl rfl))
    callNext_validBits

end driver

section commands
variable {d : Driver} {es : List ConfigCommand}

/-- An accepted command sets 8, 16 or 32 bits per word. -/
theorem ioctl_bitsPerWord {arg : Word} (accepted : configMachine.enabled d (.bitsPerWord arg)) :
    ValidBits arg ∧
      configMachine.next d (.bitsPerWord arg) = { d with bitsPerWord := arg } := by
  have body : (ConfigCommand.bitsPerWord arg).ioctl d =
      if arg ≠ 8 ∧ arg ≠ 16 ∧ arg ≠ 32 then (d, .inr (-1))
      else ({ d with bitsPerWord := arg }, .inr 0) := rfl
  change ((ConfigCommand.bitsPerWord arg).ioctl d).2 = .inr 0 at accepted
  change _ ∧ ((ConfigCommand.bitsPerWord arg).ioctl d).1 = _
  rw [body] at accepted ⊢
  split_ifs at accepted with refused
  · exact absurd (Sum.inr.inj accepted) (by decide)
  · rw [if_neg refused]
    exact ⟨(validBits_iff arg).mp refused, rfl⟩

theorem run_bitsPerWord (accepted : configMachine.Admits d es) :
    (configMachine.run d es).bitsPerWord = bitsAfter d.bitsPerWord es := by
  induction es generalizing d with
  | nil => rfl
  | cons c es ih =>
      rw [run_cons, ih accepted.2]
      cases c with
      | frequency arg => rfl
      | bitsPerWord arg => rw [(ioctl_bitsPerWord accepted.1).2, bitsAfter]

theorem run_validBits (valid : ValidBits d.bitsPerWord) (accepted : configMachine.Admits d es) :
    ValidBits (configMachine.run d es).bitsPerWord := by
  refine kept_by_run (I := fun d => ValidBits d.bitsPerWord) (fun d c valid _ => ?_) valid accepted
  cases c with
  | frequency arg | bitsPerWord arg => exact spiIoctl_validBits valid _ arg

/-- Only the other command sets the rate. -/
theorem run_maxSpeedHz (accepted : configMachine.Admits d es)
    (bitsOnly : ∀ c ∈ es, c.isFrequency = false) :
    (configMachine.run d es).maxSpeedHz = d.maxSpeedHz := by
  induction es generalizing d with
  | nil => rfl
  | cons c es ih =>
      rw [run_cons, ih accepted.2 fun c' later => bitsOnly c' (List.mem_cons_of_mem c later)]
      cases c with
      | frequency arg => exact absurd (bitsOnly _ List.mem_cons_self) nofun
      | bitsPerWord arg => rw [(ioctl_bitsPerWord accepted.1).2]

theorem toNat_validBits {bits : Word} (valid : ValidBits bits) :
    bits.toNat = 8 ∨ bits.toNat = 16 ∨ bits.toNat = 32 := by
  rcases valid with rfl | rfl | rfl <;> decide

/-- A multiple that wraps back to the number: the factor less one has no divisor in common with
the size of the words. -/
theorem zero_of_multiple_wraps {m x : Nat} (coprime : Nat.Coprime (2 ^ 32) m) (fits : x < 2 ^ 32)
    (wraps : (m + 1) * x % 2 ^ 32 = x) : x = 0 := by
  have back : m * x + x ≡ 0 + x [MOD 2 ^ 32] := by
    rw [Nat.ModEq, ← Nat.succ_mul, wraps, Nat.zero_add, Nat.mod_eq_of_lt fits]
  have divides := (Nat.modEq_zero_iff_dvd).mp (Nat.ModEq.add_right_cancel' x back)
  exact Nat.eq_zero_of_dvd_of_lt (coprime.dvd_of_dvd_mul_left divides) fits

/-- With other bits per word the rate is right for the frequency 0 only, also where the product
wraps. -/
theorem zero_of_other_bits {bitsThen bitsNow : Word} (validThen : ValidBits bitsThen)
    (validNow : ValidBits bitsNow) (different : bitsThen ≠ bitsNow) {frequency : Nat}
    (right : bitsThen.toNat * frequency % 2 ^ 32 = frequency * bitsNow.toNat) :
    frequency = 0 := by
  have fits : frequency * bitsNow.toNat < 2 ^ 32 := right ▸ Nat.mod_lt _ (by decide)
  rcases Nat.lt_or_gt_of_ne (mt BitVec.toNat_inj.mp different) with fewer | more
  · have small : frequency * bitsThen.toNat ≤ frequency * bitsNow.toNat :=
      Nat.mul_le_mul_left frequency fewer.le
    rw [Nat.mul_comm, Nat.mod_eq_of_lt (small.trans_lt fits)] at right
    by_contra positive
    exact fewer.ne (Nat.eq_of_mul_eq_mul_left (Nat.pos_of_ne_zero positive) right)
  · have multiple : ∃ m, bitsThen.toNat = (m + 1) * bitsNow.toNat ∧ Nat.Coprime (2 ^ 32) m := by
      rcases toNat_validBits validThen with eqThen | eqThen | eqThen <;>
        rcases toNat_validBits validNow with eqNow | eqNow | eqNow <;>
      · rw [eqThen, eqNow] at more ⊢
        first
        | exact absurd more (by decide)
        | exact ⟨1, rfl, by decide⟩
        | exact ⟨3, rfl, by decide⟩
    obtain ⟨m, multiple, coprime⟩ := multiple
    rw [multiple, Nat.mul_assoc, Nat.mul_comm bitsNow.toNat] at right
    have none := zero_of_multiple_wraps coprime fits right
    rcases Nat.mul_eq_zero.mp none with zero | zero
    · exact zero
    · rcases toNat_validBits validNow with eqNow | eqNow | eqNow <;> omega

theorem rate_eq_iff {bitsThen bitsNow : Word} (validThen : ValidBits bitsThen)
    (validNow : ValidBits bitsNow) (frequency : Word) :
    (bitsThen * frequency).toNat = frequency.toNat * bitsNow.toNat ↔
      RateStillRight frequency bitsThen bitsNow := by
  rw [RateStillRight, BitVec.toNat_mul]
  constructor
  · intro right
    by_cases same : bitsThen = bitsNow
    · refine .inr ⟨same, ?_⟩
      rw [← right]
      exact Nat.mod_lt _ (by decide)
    · exact .inl (BitVec.eq_of_toNat_eq (zero_of_other_bits validThen validNow same right))
  · rintro (rfl | ⟨rfl, fits⟩)
    · change bitsThen.toNat * 0 % 2 ^ 32 = 0 * bitsNow.toNat
      rw [Nat.mul_zero, Nat.zero_mul, Nat.zero_mod]
    · rw [Nat.mul_comm, Nat.mod_eq_of_lt fits]

end commands

/-- The two commands in both orders give the same device where the bits per word before and after
have the same product with the frequency. -/
theorem orders_agree_iff (d : Driver) {bits : Word} (valid : ValidBits bits) (frequency : Word) :
    configMachine.run d [.frequency frequency, .bitsPerWord bits] =
        configMachine.run d [.bitsPerWord bits, .frequency frequency] ↔
      d.bitsPerWord * frequency = bits * frequency := by
  have accepted : ∀ d : Driver, configMachine.next d (.bitsPerWord bits) =
      { d with bitsPerWord := bits } := by
    intro d
    exact congrArg Prod.fst (if_neg ((validBits_iff bits).mpr valid))
  have frequencyFirst : configMachine.run d [.frequency frequency, .bitsPerWord bits] =
      { d with maxSpeedHz := d.bitsPerWord * frequency, bitsPerWord := bits } := accepted _
  have bitsFirst : configMachine.run d [.bitsPerWord bits, .frequency frequency] =
      { d with maxSpeedHz := bits * frequency, bitsPerWord := bits } := by
    rw [run_cons, accepted]
    rfl
  rw [frequencyFirst, bitsFirst]
  exact ⟨congrArg Driver.maxSpeedHz, fun same => congrArg
    (fun speed => { d with maxSpeedHz := speed, bitsPerWord := bits }) same⟩

/-- From every state of the driver and after every sequence of accepted commands, the rate is
that of the words with the last frequency, exactly if this frequency is 0 or the bits per word
have not changed since and the product fits. -/
theorem word_rate_iff {ι : Type*} [DecidableEq ι] {s : CallState ι}
    (reachable : callMachine.Reachable (noCall ι) s) {front rest : List ConfigCommand}
    {frequency : Word}
    (accepted : configMachine.Admits s.driver (front ++ .frequency frequency :: rest))
    (last : ∀ c ∈ rest, c.isFrequency = false) :
    WordRate (configMachine.run s.driver (front ++ .frequency frequency :: rest)) frequency ↔
      RateStillRight frequency (bitsAfter s.driver.bitsPerWord front)
        (bitsAfter s.driver.bitsPerWord (front ++ .frequency frequency :: rest)) := by
  have valid := reachable_validBits reachable
  obtain ⟨before, -, after⟩ := (configMachine.admits_append _ _ _).mp accepted
  have speed := run_maxSpeedHz after last
  rw [← run_cons, ← run_append] at speed
  rw [WordRate, speed, ← run_bitsPerWord before, ← run_bitsPerWord accepted]
  exact rate_eq_iff (run_validBits valid before) (run_validBits valid accepted) frequency
/-- 8 bits per word are set before the frequency, and once more after it. -/
def eightBits : List ConfigCommand := [.bitsPerWord 8]

theorem word_rate_iff_eightBits :
    WordRate (configMachine.run canSpiInit (eightBits ++ .frequency 100000 :: eightBits))
      100000 :=
  have accepted : configMachine.Admits (noCall Caller).driver
      (eightBits ++ .frequency 100000 :: eightBits) := ⟨rfl, rfl, rfl, trivial⟩
  (word_rate_iff ⟨[], trivial, rfl⟩ accepted (by decide)).mpr (by decide)

/-- The frequency is set for the 16 bits per word of the load. -/
theorem word_rate_refuted :
    ¬ ∀ (s : CallState Caller) (front rest : List ConfigCommand) (frequency : Word),
      callMachine.Reachable (noCall Caller) s →
        configMachine.Admits s.driver (front ++ .frequency frequency :: rest) →
          (∀ c ∈ rest, c.isFrequency = false) →
            (∃ bits, .bitsPerWord bits ∈ front ++ .frequency frequency :: rest) →
              WordRate (configMachine.run s.driver (front ++ .frequency frequency :: rest))
                frequency := by
  intro every
  have rate := every (noCall Caller) [] eightBits 100000 ⟨[], trivial, rfl⟩ ⟨rfl, rfl, trivial⟩
    (by decide) ⟨8, by decide⟩
  exact absurd rate (by decide)

end Gumstix.CanSpi
