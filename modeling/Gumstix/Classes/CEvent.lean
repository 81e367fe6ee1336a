import Gumstix.Library.FloatRounding
import Gumstix.Synchronization.State
import Mathlib.Data.BitVec
import Mathlib.Data.Int.ModEq
import Mathlib.Tactic.FieldSimp
import Mathlib.Tactic.Linarith
import Mathlib.Tactic.Ring

/-!
# Event objects

A `CEvent` has the date and the place of an event. One constructor asks the synchronization
driver for them, the other gets them from the driver of a GPIO; each of them converts the
microseconds on its own.
-/
namespace Gumstix.Classes
open Gumstix.Synchronization (Word GpsData GeoDatationData mode2)

/-- The fields of `struct tm` that `ConvertTime` reads. -/
structure Tm where
  sec : Word
  min : Word
  hour : Word
  mday : Word
  mon : Word
  year : Word
  deriving DecidableEq, Repr

/-- The day, the month and the year of a day counted from the first of January 1970, for the
Gregorian calendar. Years begin in March here and come in eras of 400. -/
def civilFromDays (days : Int) : Int × Int × Int :=
  let z := days + 719468
  let doe := z % 146097
  let yoe := (doe - doe / 1460 + doe / 36524 - doe / 146096) / 365
  let doy := doe - (365 * yoe + yoe / 4 - yoe / 100)
  let mp := (5 * doy + 2) / 153
  let month := if mp < 10 then mp + 3 else mp - 9
  (doy - (153 * mp + 2) / 5 + 1, month,
    yoe + z / 146097 * 400 + if month ≤ 2 then 1 else 0)

/-- `gmtime`, for a `time_t` of 32 bits. -/
def gmtime (date : Word) : Tm :=
  let seconds := date.toInt % 86400
  let (day, month, year) := civilFromDays (date.toInt / 86400)
  { sec := BitVec.ofInt 32 (seconds % 60)
    min := BitVec.ofInt 32 (seconds / 60 % 60)
    hour := BitVec.ofInt 32 (seconds / 3600)
    mday := BitVec.ofInt 32 day
    mon := BitVec.ofInt 32 (month - 1)
    year := BitVec.ofInt 32 (year - 1900) }

/-- 28 June 2012, 23:59:59. -/
example : gmtime 1340927999 = ⟨59, 59, 23, 28, 5, 112⟩ := by decide

/-- `int` and `unsigned int` fields are words, `double` fields their bit patterns. -/
structure CEvent where
  date : Word
  time : Tm
  currentGeoDatationData : GeoDatationData
  synchronizationFd : Word
  microSecond : Word
  second : Word
  minute : Word
  hour : Word
  day : Word
  month : Word
  year : Word
  latitude : BitVec 64
  longitude : BitVec 64
  latitudeRef : BitVec 8
  longitudeRef : BitVec 8
  nbSat : Word
  quality : Word
  quartzError : Word
  driverMode : Word
  deriving DecidableEq, Repr

/-- What a `CEvent ()` gets: the descriptor that `open` returns, the result of the ioctl and what
`m_oCurrentGeoDatationData` holds after it, and the system time. -/
structure EventReplies where
  opened : Word
  ioctl : Int
  gdData : GeoDatationData
  systemTime : Word
  localTime : Tm
  deriving DecidableEq, Repr

/-- `1000000 / (1000000 + m_iQuartzError)`, in `int`. -/
def quartzFactor (quartzError : Word) : Word := BitVec.sdiv 1000000 (1000000 + quartzError)

/-- The conversion of an `unsigned int` to a `float` and back; beyond the range of the words it
saturates, as on ARM. -/
def throughFloat (w : Word) : Word :=
  BitVec.ofNat 32 (min (FloatRounding.roundTo 24 w.toNat) (2 ^ 32 - 1))

/-- `round` changes nothing, since a `float` that comes from an integer is one. -/
def correctedMicroSecond (microSecond quartzError : Word) : Word :=
  throughFloat (microSecond * quartzFactor quartzError)

section methods
variable (o : CEvent)

def convertTime (tm : Tm) : CEvent :=
  { o with
    time := tm
    second := tm.sec
    minute := tm.min
    hour := tm.hour
    day := tm.mday
    month := tm.mon + 1
    year := tm.year + 1900 }

/-- The place is 04709.37501 N, 00138.29299 W. -/
def getSystemTime (k : EventReplies) : CEvent :=
  { convertTime { o with date := k.systemTime } k.localTime with
    microSecond := 0
    latitude := 0x40B2656000A7C5AC
    longitude := 0x406149602C9081C3
    latitudeRef := 0x4E
    longitudeRef := 0x57
    nbSat := 0
    quality := 0 }

/-- What both constructors do with the record once they have it, but for the mode in which they
correct the microseconds. -/
def readGeoDatation (correctedMode : Word) : CEvent :=
  let gdData := o.currentGeoDatationData
  let o := { o with driverMode := gdData.driverMode, quartzError := gdData.quartzError }
  let o := { o with
    microSecond := if o.driverMode = correctedMode then
        correctedMicroSecond gdData.microSecond o.quartzError
      else gdData.microSecond }
  let o := convertTime { o with date := gdData.data.timeInSeconds }
    (gmtime gdData.data.timeInSeconds)
  { o with
    latitude := gdData.data.latitude
    longitude := gdData.data.longitude
    latitudeRef := gdData.data.latitudeRef
    longitudeRef := gdData.data.longitudeRef
    nbSat := gdData.data.nbSat
    quality := gdData.data.quality }

end methods

/-- `CEvent ()`, in the memory of the object. -/
def ceventFromDriver (memory : CEvent) (k : EventReplies) : CEvent :=
  let o := { memory with synchronizationFd := k.opened }
  if 0 ≤ k.opened.toInt then
    let o := { o with currentGeoDatationData := k.gdData }
    if k.ioctl < 0 then getSystemTime o k else readGeoDatation o mode2
  else getSystemTime o k

/-- `CEvent (GeoDatationData *)`, which compares the mode with 2. -/
def ceventFromData (memory : CEvent) (gdData : GeoDatationData) : CEvent :=
  readGeoDatation { memory with currentGeoDatationData := gdData } 2

theorem ceventFromDriver_of_succeeds (memory : CEvent) {k : EventReplies}
    (opened : 0 ≤ k.opened.toInt) (succeeded : 0 ≤ k.ioctl) :
    ceventFromDriver memory k = readGeoDatation { memory with
      synchronizationFd := k.opened, currentGeoDatationData := k.gdData } mode2 := by
  unfold ceventFromDriver
  dsimp only
  rw [if_pos opened, if_neg (not_lt.mpr succeeded)]

/-- The factor is the quotient rounded towards 0, and 0 for every positive error: also for those
with which the sum overflows. -/
theorem toNat_quartzFactor {quartzError : Word} (above : -1000000 < quartzError.toInt) :
    (quartzFactor quartzError).toNat =
      if quartzError.toInt ≤ 0 then 1000000 / (1000000 + quartzError.toInt).toNat else 0 := by
  have bound := quartzError.isLt
  have signed := BitVec.toInt_eq_toNat_cond quartzError
  have sum : (1000000 + quartzError).toNat = (1000000 + quartzError.toNat) % 2 ^ 32 := rfl
  have positive : (1000000 : Word).msb = false := by decide
  rw [quartzFactor, BitVec.sdiv_eq, positive]
  cases overflow : (1000000 + quartzError).msb with
  | false =>
      have half := BitVec.msb_eq_false_iff_two_mul_lt.mp overflow
      change ((1000000 : Word) / (1000000 + quartzError)).toNat = _
      rw [BitVec.toNat_udiv, sum]
      split_ifs with sign
      · have same : (1000000 + quartzError.toInt).toNat =
            (1000000 + quartzError.toNat) % 2 ^ 32 := by
          omega
        rw [same]
        rfl
      · exact Nat.div_eq_of_lt (show 1000000 < _ by omega)
  | true =>
      have half := BitVec.msb_eq_true_iff_two_mul_ge.mp overflow
      have positiveError : ¬ quartzError.toInt ≤ 0 := by omega
      have quotient : (1000000 : Word) / -(1000000 + quartzError) = 0 := by
        rw [← BitVec.toNat_inj, BitVec.toNat_udiv, BitVec.toNat_neg, sum]
        exact Nat.div_eq_of_lt (show 1000000 < _ by omega)
      change (-((1000000 : Word) / -(1000000 + quartzError))).toNat = _
      rw [quotient, if_neg positiveError]
      rfl

theorem throughFloat_eq_iff {w v : Word} (small : v.toNat < 2 ^ 24) :
    throughFloat w = v ↔ w = v := by
  have capped : min (FloatRounding.roundTo 24 w.toNat) (2 ^ 32 - 1) = v.toNat ↔
      FloatRounding.roundTo 24 w.toNat = v.toNat := by omega
  rw [throughFloat, ← BitVec.toNat_inj, BitVec.toNat_ofNat, Nat.mod_eq_of_lt (by omega), capped,
    FloatRounding.roundTo_eq_iff (by decide) small, BitVec.toNat_inj]

/-- Where the correction changes nothing: the factor is 1, or the product comes back to the
microseconds modulo 2 ^ 32. -/
theorem correctedMicroSecond_eq_iff {microSecond quartzError : Word}
    (small : microSecond.toNat < 2 ^ 24) (above : -1000000 < quartzError.toInt) :
    correctedMicroSecond microSecond quartzError = microSecond ↔
      microSecond = 0 ∨ quartzError.toInt ≤ 0 ∧
        2 ^ 32 ∣ microSecond.toNat * (1000000 / (1000000 + quartzError.toInt).toNat - 1) := by
  have zero : microSecond = 0 ↔ microSecond.toNat = 0 := BitVec.toNat_inj.symm
  rw [correctedMicroSecond, throughFloat_eq_iff small, ← BitVec.toNat_inj, BitVec.toNat_mul,
    toNat_quartzFactor above, zero]
  split_ifs with sign
  · obtain ⟨n, factor⟩ : ∃ n, 1000000 / (1000000 + quartzError.toInt).toNat = n + 1 :=
      Nat.exists_eq_succ_of_ne_zero (Nat.div_pos (by omega) (by omega)).ne'
    have none : microSecond.toNat = 0 → 2 ^ 32 ∣ microSecond.toNat * n := by
      intro none
      rw [none, Nat.zero_mul]
      exact dvd_zero _
    rw [factor, Nat.mul_succ, Nat.add_sub_cancel]
    omega
  · rw [Nat.mul_zero, Nat.zero_mod]
    constructor
    · exact fun same => .inl same.symm
    · rintro (none | ⟨sign', -⟩)
      · exact none.symm
      · exact absurd sign' sign

/-- What the accessors give out is the same. -/
structure SameEvent (o o' : CEvent) : Prop where
  microSecond : o.microSecond = o'.microSecond
  second : o.second = o'.second
  minute : o.minute = o'.minute
  hour : o.hour = o'.hour
  day : o.day = o'.day
  month : o.month = o'.month
  year : o.year = o'.year
  latitude : o.latitude = o'.latitude
  longitude : o.longitude = o'.longitude
  latitudeRef : o.latitudeRef = o'.latitudeRef
  longitudeRef : o.longitudeRef = o'.longitudeRef
  nbSat : o.nbSat = o'.nbSat
  quality : o.quality = o'.quality
  quartzError : o.quartzError = o'.quartzError
  driverMode : o.driverMode = o'.driverMode

/-- The mode is none of the two in which one constructor corrects, or the correction changes
nothing. -/
def CorrectionNeutral (gdData : GeoDatationData) : Prop :=
  gdData.driverMode = mode2 ∨ gdData.driverMode = 2 →
    gdData.microSecond = 0 ∨ gdData.quartzError.toInt ≤ 0 ∧
      2 ^ 32 ∣ gdData.microSecond.toNat *
        (1000000 / (1000000 + gdData.quartzError.toInt).toNat - 1)

instance (gdData : GeoDatationData) : Decidable (CorrectionNeutral gdData) :=
  inferInstanceAs (Decidable (_ → _))

/-- Two objects that read one record differ in the microseconds at most. -/
theorem sameEvent_readGeoDatation {o o' : CEvent} {correctedMode correctedMode' : Word}
    (same : o.currentGeoDatationData = o'.currentGeoDatationData) :
    SameEvent (readGeoDatation o correctedMode) (readGeoDatation o' correctedMode') ↔
      (readGeoDatation o correctedMode).microSecond =
        (readGeoDatation o' correctedMode').microSecond := by
  refine ⟨SameEvent.microSecond, fun microSecond => ⟨microSecond, ?_, ?_, ?_, ?_, ?_, ?_, ?_, ?_,
    ?_, ?_, ?_, ?_, ?_, ?_⟩⟩ <;>
  · simp only [readGeoDatation, convertTime, same]

/-- An object that gets its record from the synchronization driver and one that is built from
the same record agree, exactly if the correction is neutral. -/
theorem constructors_agree_iff (memory memory' : CEvent) {k : EventReplies}
    (opened : 0 ≤ k.opened.toInt) (succeeded : 0 ≤ k.ioctl)
    (small : k.gdData.microSecond.toNat < 2 ^ 24) (above : -1000000 < k.gdData.quartzError.toInt) :
    SameEvent (ceventFromDriver memory k) (ceventFromData memory' k.gdData) ↔
      CorrectionNeutral k.gdData := by
  have neutral := correctedMicroSecond_eq_iff small above
  rw [ceventFromDriver_of_succeeds memory opened succeeded, ceventFromData, CorrectionNeutral,
    ← neutral]
  refine Iff.trans (sameEvent_readGeoDatation ?_) ?_
  · rfl
  change ((if k.gdData.driverMode = mode2 then _ else _) =
    if k.gdData.driverMode = 2 then _ else _) ↔ _
  by_cases inMode2 : k.gdData.driverMode = mode2
  · have notTwo : k.gdData.driverMode ≠ 2 := by
      rw [inMode2]
      decide
    rw [if_pos inMode2, if_neg notTwo]
    exact (imp_iff_right (.inl inMode2)).symm
  by_cases isTwo : k.gdData.driverMode = 2
  · rw [if_neg inMode2, if_pos isTwo, eq_comm]
    exact (imp_iff_right (.inr isTwo)).symm
  · rw [if_neg inMode2, if_neg isTwo]
    exact iff_of_true rfl fun either => (either.elim inMode2 isTwo).elim

/-- A record in `MODE2` half a second after the Pps, with the given quartz error. -/
def halfSecond (quartzError : Word) : GeoDatationData := ⟨.zero, 500000, quartzError, mode2⟩

/-- The driver has given out this record. -/
def givenOut (gdData : GeoDatationData) : EventReplies :=
  ⟨5, 0, gdData, 0, ⟨0, 0, 0, 1, 0, 70⟩⟩

/-- Memory that was 0. -/
def zeroEvent : CEvent :=
  ⟨0, ⟨0, 0, 0, 0, 0, 0⟩, ⟨.zero, 0, 0, 0⟩, 0, 0, 0, 0, 0, 0, 0, 0, 0, 0, 0, 0, 0, 0, 0, 0⟩

theorem constructors_agree_iff_halfSecond :
    SameEvent (ceventFromDriver zeroEvent (givenOut (halfSecond (-3))))
      (ceventFromData zeroEvent (halfSecond (-3))) :=
  (constructors_agree_iff zeroEvent zeroEvent (k := givenOut (halfSecond (-3))) (by decide)
    (by decide) (by decide) (by decide)).mpr (by decide)

theorem constructors_agree_refuted :
    ¬ ∀ (memory memory' : CEvent) (k : EventReplies), 0 ≤ k.opened.toInt → 0 ≤ k.ioctl →
      k.gdData.microSecond.toNat < 2 ^ 24 → -1000000 < k.gdData.quartzError.toInt →
        SameEvent (ceventFromDriver memory k) (ceventFromData memory' k.gdData) := by
  intro every
  have same := every zeroEvent zeroEvent (givenOut (halfSecond 3)) (by decide) (by decide)
    (by decide) (by decide)
  exact absurd same.microSecond (by decide)

/-- The microseconds of the true second, for an error in microseconds per second. -/
def exactMicroSecond (gdData : GeoDatationData) : ℚ :=
  gdData.microSecond.toNat * 1000000 / (1000000 + gdData.quartzError.toInt)

def EventReplies.withMicroSecond (k : EventReplies) (microSecond : Word) : EventReplies :=
  { k with gdData := { k.gdData with microSecond } }

/-- The microseconds of the object are right to one, do not decrease with those of the record,
and come from no division by 0. -/
structure QuartzCorrected (memory : CEvent) (k : EventReplies) : Prop where
  near : |((ceventFromDriver memory k).microSecond.toNat : ℚ) - exactMicroSecond k.gdData| ≤ 1
  monotone : ∀ u v : Word, u ≤ v → v.toNat < 2000000 →
    (ceventFromDriver memory (k.withMicroSecond u)).microSecond ≤
      (ceventFromDriver memory (k.withMicroSecond v)).microSecond
  defined : 1000000 + k.gdData.quartzError ≠ 0

/-- An error of 0 or below changes the microseconds by one at most, and with a positive one there
is at most one microsecond. -/
def ErrorWithinOne (gdData : GeoDatationData) : Prop :=
  gdData.quartzError.toInt ≤ 0 ∧
      gdData.microSecond.toNat * -gdData.quartzError.toInt ≤ 1000000 + gdData.quartzError.toInt ∨
    0 < gdData.quartzError.toInt ∧ gdData.microSecond.toNat ≤ 1

instance (gdData : GeoDatationData) : Decidable (ErrorWithinOne gdData) :=
  inferInstanceAs (Decidable (_ ∨ _))

/-- For small errors the factor is 0 or 1. -/
theorem correctedMicroSecond_of_small {microSecond quartzError : Word}
    (small : microSecond.toNat < 2000000) (low : -10000 ≤ quartzError.toInt) :
    correctedMicroSecond microSecond quartzError =
      if quartzError.toInt ≤ 0 then microSecond else 0 := by
  have factor : (quartzFactor quartzError).toNat = _ := toNat_quartzFactor (by omega)
  split_ifs at factor ⊢ with sign
  · rw [correctedMicroSecond_eq_iff (by omega) (by omega)]
    have one : 1000000 / (1000000 + quartzError.toInt).toNat = 1 :=
      Nat.div_eq_of_lt_le (by omega) (by omega)
    rw [one]
    exact .inr ⟨sign, dvd_zero _⟩
  · have zero : quartzFactor quartzError = 0 := BitVec.toNat_inj.mp factor
    have product : microSecond * 0 = 0 := BitVec.mul_zero
    rw [correctedMicroSecond, zero, product]
    exact (throughFloat_eq_iff (by decide)).mpr rfl

theorem microSecond_of_mode2 (memory : CEvent) {k : EventReplies} (opened : 0 ≤ k.opened.toInt)
    (succeeded : 0 ≤ k.ioctl) (inMode2 : k.gdData.driverMode = mode2) :
    (ceventFromDriver memory k).microSecond =
      correctedMicroSecond k.gdData.microSecond k.gdData.quartzError := by
  rw [ceventFromDriver_of_succeeds memory opened succeeded]
  exact if_pos inMode2

/-- The distance from the exact microseconds, without the quotient. -/
theorem near_iff {gdData : GeoDatationData} (low : -10000 ≤ gdData.quartzError.toInt)
    (high : gdData.quartzError.toInt ≤ 10000) :
    |(((if gdData.quartzError.toInt ≤ 0 then gdData.microSecond else 0 : Word).toNat : Nat) : ℚ) -
        exactMicroSecond gdData| ≤ 1 ↔ ErrorWithinOne gdData := by
  unfold exactMicroSecond ErrorWithinOne
  generalize gdData.quartzError.toInt = e at low high ⊢
  generalize gdData.microSecond = w
  have low' : (-10000 : ℚ) ≤ e := by exact_mod_cast low
  have positive : (0 : ℚ) < 1000000 + e := by linarith
  split_ifs with sign
  · have distance : ((w.toNat : Nat) : ℚ) - w.toNat * 1000000 / (1000000 + e) =
        w.toNat * e / (1000000 + e) := by
      field_simp
      ring
    have sign' : (e : ℚ) ≤ 0 := by exact_mod_cast sign
    have nonpositive : ((w.toNat : Nat) : ℚ) * e / (1000000 + e) ≤ 0 :=
      div_nonpos_of_nonpos_of_nonneg
        (mul_nonpos_of_nonneg_of_nonpos (Nat.cast_nonneg _) sign') positive.le
    rw [distance, abs_of_nonpos nonpositive, ← neg_div, div_le_one₀ positive, ← mul_neg]
    have cast : (w.toNat : ℚ) * -(e : ℚ) ≤ 1000000 + e ↔ (w.toNat : Int) * -e ≤ 1000000 + e := by
      exact_mod_cast Iff.rfl
    rw [cast]
    exact ⟨fun near => .inl ⟨sign, near⟩, fun within => within.elim And.right
      fun positiveError => absurd sign (not_le.mpr positiveError.1)⟩
  · have error : (0 : ℚ) < e := by exact_mod_cast not_le.mp sign
    have error' : (e : ℚ) ≤ 10000 := by exact_mod_cast high
    have zero : (((0 : Word).toNat : Nat) : ℚ) = 0 := rfl
    have nonnegative : (0 : ℚ) ≤ w.toNat * 1000000 / (1000000 + e) :=
      div_nonneg (mul_nonneg (Nat.cast_nonneg _) (by norm_num)) positive.le
    rw [zero, zero_sub, abs_neg, abs_of_nonneg nonnegative, div_le_one₀ positive]
    have cast : (w.toNat : ℚ) * 1000000 ≤ 1000000 + e ↔
        (w.toNat : Int) * 1000000 ≤ 1000000 + e := by
      exact_mod_cast Iff.rfl
    rw [cast]
    omega

/-- In `MODE2` the correction does what it is for, exactly where an error below 0 changes the
microseconds by one at most: the factor is 1 for the errors up to 0 and 0 for the others. -/
theorem quartz_correction_iff (memory : CEvent) {k : EventReplies} (opened : 0 ≤ k.opened.toInt)
    (succeeded : 0 ≤ k.ioctl) (inMode2 : k.gdData.driverMode = mode2)
    (small : k.gdData.microSecond.toNat < 2000000) (low : -10000 ≤ k.gdData.quartzError.toInt)
    (high : k.gdData.quartzError.toInt ≤ 10000) :
    QuartzCorrected memory k ↔ ErrorWithinOne k.gdData := by
  have result := microSecond_of_mode2 memory opened succeeded inMode2
  rw [correctedMicroSecond_of_small small low] at result
  rw [← near_iff low high, ← result]
  refine ⟨QuartzCorrected.near, fun near => ⟨near, ?_, ?_⟩⟩
  · intro u v smaller bound
    have smallU : u.toNat < 2000000 := Nat.lt_of_le_of_lt smaller bound
    rw [microSecond_of_mode2 memory (k := k.withMicroSecond u) opened succeeded inMode2,
      microSecond_of_mode2 memory (k := k.withMicroSecond v) opened succeeded inMode2]
    change correctedMicroSecond u k.gdData.quartzError ≤
      correctedMicroSecond v k.gdData.quartzError
    rw [correctedMicroSecond_of_small smallU low, correctedMicroSecond_of_small bound low]
    split_ifs
    · exact smaller
    · exact BitVec.le_refl _
  · intro zero
    have sum := congrArg BitVec.toNat zero
    have signed := BitVec.toInt_eq_toNat_cond k.gdData.quartzError
    have wrapped : (1000000 + k.gdData.quartzError.toNat) % 2 ^ 32 = 0 := sum
    omega

theorem quartz_correction_iff_halfSecond :
    QuartzCorrected zeroEvent (givenOut (halfSecond (-1))) :=
  (quartz_correction_iff zeroEvent (k := givenOut (halfSecond (-1))) (by decide) (by decide)
    (by decide) (by decide) (by decide) (by decide)).mpr (by decide)

theorem quartz_correction_refuted :
    ¬ ∀ (memory : CEvent) (k : EventReplies), 0 ≤ k.opened.toInt → 0 ≤ k.ioctl →
      k.gdData.driverMode = mode2 → k.gdData.microSecond.toNat < 2000000 →
        -10000 ≤ k.gdData.quartzError.toInt → k.gdData.quartzError.toInt ≤ 10000 →
          QuartzCorrected memory k := by
  intro every
  have near := (every zeroEvent (givenOut (halfSecond 3)) (by decide) (by decide) (by decide)
    (by decide) (by decide) (by decide)).near
  rw [microSecond_of_mode2 zeroEvent (k := givenOut (halfSecond 3)) (by decide) (by decide)
    (by decide), correctedMicroSecond_of_small (by decide) (by decide),
    near_iff (by decide) (by decide)] at near
  exact absurd near (by decide)

end Gumstix.Classes
