import Gumstix.Library.DecimalText
import Gumstix.Synchronization.PreemptionTimes
import Mathlib.Algebra.Order.BigOperators.Group.List
import Mathlib.Algebra.Order.Ring.Nat

/-!
# Reading the page of preemption times

The `/proc` entry is read in pieces: each call prints the page anew and returns the part of it
between an offset and a count. Both are signed 32-bit numbers, and so is their sum.
-/
namespace Gumstix.Synchronization
open DecimalText EventMachine RingLog

/-- What a call leaves to the `/proc` layer: the place of the returned part in the page, its
length, and whether the end of the page has been reached. -/
structure ProcReply where
  start : Word
  len : Word
  eof : Bool
  deriving DecidableEq, Repr

def synchronizationPreemptionTimeRead (d : Driver) (off count : Word) : ProcReply :=
  let len : Word := BitVec.ofNat 32 (synchronizationPreemptionTimeOutput d).length
  let eof := len.sle (off + count)
  let len := len - off
  let len := if count.slt len then count else len
  let len := if len.slt 0 then 0 else len
  ⟨off, len, eof⟩

/-- The part of the page that a call returns. -/
def ProcReply.slice (r : ProcReply) (d : Driver) : List Char :=
  ((synchronizationPreemptionTimeOutput d).drop r.start.toNat).take r.len.toNat

theorem length_preemptionTimeLine {number : Nat} (small : number ≤ 999) (value : Word) :
    (preemptionTimeLine number value).length ≤ 39 := by
  have digits : (toString number).length ≤ 3 :=
    (Nat.length_repr_le_iff (by decide)).mpr (by omega)
  have text := length_toString_toInt value
  have before : "\tValue ".toList.length = 7 := by decide
  have between : " : ".toList.length = 3 := by decide
  have after : " micro-seconds\n".toList.length = 15 := by decide
  unfold preemptionTimeLine
  simp only [List.length_append, List.length_leftpad, before, between, after, String.length_toList]
  omega

theorem length_preemptionTimeListing {d : Driver}
    (used_le : d.preemptLog.used ≤ preemptionTimeValueNumber) :
    (preemptionTimeListing d).length = preemptionTimeValueNumber := by
  rw [preemptionTimeListing, List.length_map, (newestFirst_perm _ used_le).length_eq,
    List.length_range]

theorem length_preemptionTimeOutput {d : Driver}
    (used_le : d.preemptLog.used ≤ preemptionTimeValueNumber) :
    2 ≤ (synchronizationPreemptionTimeOutput d).length ∧
      (synchronizationPreemptionTimeOutput d).length ≤ 2000 := by
  have short : ∀ length ∈ (preemptionTimeListing d).map
      (fun line => (preemptionTimeLine line.1 line.2).length), length ≤ 39 := by
    intro length listed
    obtain ⟨line, shown, rfl⟩ := List.mem_map.mp listed
    obtain ⟨i, read, rfl⟩ := List.mem_map.mp shown
    have slot := List.mem_range.mp ((newestFirst_perm _ used_le).mem_iff.mp read)
    exact length_preemptionTimeLine (slot.trans (by decide)) _
  have lines := List.sum_le_card_nsmul _ _ short
  rw [List.length_map, length_preemptionTimeListing used_le] at lines
  change _ ≤ 32 * 39 at lines
  have header : preemptionTimeHeader.length ≤ 100 := by decide +kernel
  have last : "\n\n".toList.length = 2 := by decide
  rw [preemptionTimeOutput_eq, List.length_append, List.length_append, List.length_flatMap, last]
  omega

/-- The sign bit of a word is not set. -/
def NonNegative (w : Word) : Prop := w.toNat < 2 ^ 31

instance (w : Word) : Decidable (NonNegative w) := Nat.decLt w.toNat (2 ^ 31)

section call
variable {d : Driver} {off count : Word}

theorem toInt_of_nonNegative (h : NonNegative off) : off.toInt = off.toNat := by
  unfold NonNegative at h
  exact BitVec.toInt_eq_toNat_of_lt (by omega)

theorem nonNegative_of_toInt (h : 0 ≤ count.toInt) : NonNegative count := by
  unfold NonNegative
  by_contra negative
  have := BitVec.toInt_eq_toNat_cond count
  have := count.isLt
  rw [if_neg (by omega)] at *
  omega

theorem ofNat_toInt {page : Nat} (short : page < 2 ^ 31) : (BitVec.ofNat 32 page).toInt = page := by
  rw [BitVec.toInt_eq_toNat_of_lt] <;> rw [BitVec.toNat_ofNat] <;> omega

theorem sub_toInt {page : Nat} (short : page < 2 ^ 31) (offset : NonNegative off) :
    (BitVec.ofNat 32 page - off).toInt = page - off.toNat := by
  unfold NonNegative at offset
  rw [BitVec.toInt_sub, ofNat_toInt short, toInt_of_nonNegative offset, Int.bmod_eq_of_le] <;> omega

/-- A call returns what is left of the page behind the offset, up to the count. -/
theorem read_len (short : (synchronizationPreemptionTimeOutput d).length < 2 ^ 31)
    (offset : NonNegative off) (size : NonNegative count) :
    (synchronizationPreemptionTimeRead d off count).len.toNat =
      min count.toNat ((synchronizationPreemptionTimeOutput d).length - off.toNat) := by
  have left := sub_toInt short offset
  have zero : (0 : Word).toInt = 0 := rfl
  unfold NonNegative at size
  unfold synchronizationPreemptionTimeRead
  simp only [BitVec.slt_iff_toInt_lt, left, toInt_of_nonNegative size, zero]
  split
  case isTrue more =>
    rw [if_neg (by rw [toInt_of_nonNegative size]; omega)]
    omega
  case isFalse less =>
    rw [left]
    split
    case isTrue past =>
      rw [Nat.sub_eq_zero_of_le (by omega), Nat.min_zero]
      rfl
    case isFalse within =>
      have natural := BitVec.toInt_eq_toNat_cond
        (BitVec.ofNat 32 (synchronizationPreemptionTimeOutput d).length - off)
      split at natural <;> omega

theorem read_eof_iff (short : (synchronizationPreemptionTimeOutput d).length < 2 ^ 31) :
    (synchronizationPreemptionTimeRead d off count).eof = true ↔
      ((synchronizationPreemptionTimeOutput d).length : Int) ≤ (off + count).toInt := by
  change BitVec.sle _ _ = true ↔ _
  rw [BitVec.sle_iff_toInt_le, ofNat_toInt short]

theorem read_eof (short : (synchronizationPreemptionTimeOutput d).length < 2 ^ 31)
    (fits : off.toNat + count.toNat < 2 ^ 31) :
    (synchronizationPreemptionTimeRead d off count).eof = true ↔
      (synchronizationPreemptionTimeOutput d).length ≤ off.toNat + count.toNat := by
  have sum : (off + count).toNat = off.toNat + count.toNat := by
    rw [BitVec.toNat_add]
    omega
  have fitting : NonNegative (off + count) := by
    rw [NonNegative, sum]
    exact fits
  rw [read_eof_iff short, toInt_of_nonNegative fitting, sum]
  exact Int.ofNat_le

end call

structure ReadCall where
  off : Word
  count : Word
  deriving DecidableEq, Repr

def ReadCall.reply (d : Driver) (call : ReadCall) : ProcReply :=
  synchronizationPreemptionTimeRead d call.off call.count

/-- The calls with the given counts, the offset of each being the sum of the lengths returned
by the calls before it. -/
def readCalls (d : Driver) : Word → List Word → List ReadCall
  | _, [] => []
  | off, count :: counts =>
      ⟨off, count⟩ :: readCalls d (off + (synchronizationPreemptionTimeRead d off count).len) counts

/-- The parts of the page that the calls return, one after the other. -/
def readPage (d : Driver) (calls : List ReadCall) : List Char :=
  calls.flatMap fun call => (call.reply d).slice d

/-- A call returns no negative length and no more than it was asked for; where the sum of its
offset and its count does not overflow, it announces the end exactly if it reaches it. -/
structure ExactCall (d : Driver) (call : ReadCall) : Prop where
  nonNegative : 0 ≤ (call.reply d).len.toInt
  atMost : (call.reply d).len.toInt ≤ call.count.toInt
  eof : call.off.toInt + call.count.toInt < 2 ^ 31 →
    ((call.reply d).eof = true ↔ (call.reply d).start.toNat + (call.reply d).len.toNat =
      (synchronizationPreemptionTimeOutput d).length)

section sequence
variable {d : Driver}

theorem exactCall (short : (synchronizationPreemptionTimeOutput d).length < 2 ^ 31)
    {call : ReadCall} (inPage : call.off.toNat ≤ (synchronizationPreemptionTimeOutput d).length)
    (size : NonNegative call.count) : ExactCall d call := by
  have offset : NonNegative call.off := inPage.trans_lt short
  have len := read_len short offset size
  have length : NonNegative (call.reply d).len := by
    unfold NonNegative at size ⊢
    exact (len.le.trans (Nat.min_le_left _ _)).trans_lt size
  constructor
  · rw [toInt_of_nonNegative length]
    exact Int.natCast_nonneg _
  · rw [toInt_of_nonNegative length, toInt_of_nonNegative size]
    exact Int.ofNat_le.mpr (len.le.trans (Nat.min_le_left _ _))
  · intro fits
    rw [toInt_of_nonNegative offset, toInt_of_nonNegative size] at fits
    change (synchronizationPreemptionTimeRead d call.off call.count).eof = true ↔
      call.off.toNat + (synchronizationPreemptionTimeRead d call.off call.count).len.toNat = _
    rw [read_eof short (by omega), len]
    omega

/-- The offset of the next call is still in the page. -/
theorem next_offset (short : (synchronizationPreemptionTimeOutput d).length < 2 ^ 31)
    {off count : Word} (inPage : off.toNat ≤ (synchronizationPreemptionTimeOutput d).length)
    (size : NonNegative count) :
    (off + (synchronizationPreemptionTimeRead d off count).len).toNat =
      min (off.toNat + count.toNat) (synchronizationPreemptionTimeOutput d).length := by
  rw [BitVec.toNat_add, read_len short (inPage.trans_lt short) size]
  omega

theorem readCalls_exact (short : (synchronizationPreemptionTimeOutput d).length < 2 ^ 31)
    {counts : List Word} (sizes : ∀ count ∈ counts, NonNegative count) {off : Word}
    (inPage : off.toNat ≤ (synchronizationPreemptionTimeOutput d).length) :
    ∀ call ∈ readCalls d off counts, ExactCall d call := by
  induction counts generalizing off with
  | nil => exact fun _ inSequence => absurd inSequence List.not_mem_nil
  | cons count counts ih =>
    have size := sizes count List.mem_cons_self
    have next := next_offset short inPage size
    intro call inSequence
    rcases List.mem_cons.mp inSequence with rfl | later
    · exact exactCall short inPage size
    · refine ih (fun c inRest => sizes c (List.mem_cons_of_mem _ inRest)) ?_ call later
      rw [next]
      exact Nat.min_le_right _ _

/-- The calls return the page from the first offset on, as far as their counts reach. -/
theorem readPage_readCalls (short : (synchronizationPreemptionTimeOutput d).length < 2 ^ 31)
    {counts : List Word} (sizes : ∀ count ∈ counts, NonNegative count) {off : Word}
    (inPage : off.toNat ≤ (synchronizationPreemptionTimeOutput d).length) :
    readPage d (readCalls d off counts) =
      ((synchronizationPreemptionTimeOutput d).drop off.toNat).take
        (counts.map BitVec.toNat).sum := by
  induction counts generalizing off with
  | nil => rfl
  | cons count counts ih =>
    have size := sizes count List.mem_cons_self
    have next := next_offset short inPage size
    have rest := ih (fun c inRest => sizes c (List.mem_cons_of_mem _ inRest))
      (next.le.trans (Nat.min_le_right _ _))
    have part : (ReadCall.reply d ⟨off, count⟩).slice d =
        ((synchronizationPreemptionTimeOutput d).drop off.toNat).take count.toNat := by
      rw [List.take_eq_take_min, List.length_drop,
        ← read_len short (inPage.trans_lt short) size]
      rfl
    rw [readPage, readCalls, List.flatMap_cons, ← readPage, rest, next, part, List.map_cons,
      List.sum_cons, List.take_add, List.drop_drop, ← List.drop_eq_drop_min]

end sequence

/-- Finitely many counts reach the end of the page. -/
theorem length_le_sum {counts : List Word} (positive : ∀ count ∈ counts, 0 < count.toInt) :
    counts.length ≤ (counts.map BitVec.toNat).sum := by
  rw [← counts.length_map BitVec.toNat]
  apply List.length_le_sum_of_one_le
  intro size inSizes
  obtain ⟨count, inCounts, rfl⟩ := List.mem_map.mp inSizes
  have := positive count inCounts
  have := toInt_of_nonNegative (nonNegative_of_toInt this.le)
  omega

theorem run_used_le (ppsClock relayClock : Word) (es : List Event) :
    (driverMachine.run (synchronizationInitialize ppsClock relayClock) es).preemptLog.used ≤
      preemptionTimeValueNumber := by
  have kept := run_timesKept (initialize_timesKept ppsClock relayClock) es
  rw [timeHistoryMachine, observe_run] at kept
  exact kept.used_le

/-- The page as a reader with these counts gets it: each call is exact, the parts make up the
page, finitely many calls return all of it, and behind its end nothing is left. -/
structure ReadInParts (d : Driver) (counts : List Word) : Prop where
  calls : ∀ call ∈ readCalls d 0 counts, ExactCall d call
  parts : readPage d (readCalls d 0 counts) =
    (synchronizationPreemptionTimeOutput d).take (counts.map BitVec.toNat).sum
  whole : (synchronizationPreemptionTimeOutput d).length ≤ counts.length →
    readPage d (readCalls d 0 counts) = synchronizationPreemptionTimeOutput d
  past : ∀ off count : Word, ((synchronizationPreemptionTimeOutput d).length : Int) ≤ off.toInt →
    0 < count.toInt → (synchronizationPreemptionTimeRead d off count).len = 0 ∧
      (off.toInt + count.toInt < 2 ^ 31 →
        (synchronizationPreemptionTimeRead d off count).eof = true)

section past
variable {d : Driver} {off count : Word}

theorem read_past_len (short : (synchronizationPreemptionTimeOutput d).length < 2 ^ 31)
    (offset : NonNegative off) (size : NonNegative count)
    (past : (synchronizationPreemptionTimeOutput d).length ≤ off.toNat) :
    (synchronizationPreemptionTimeRead d off count).len = 0 := by
  rw [← BitVec.toNat_inj, read_len short offset size, Nat.sub_eq_zero_of_le past, Nat.min_zero]
  rfl

theorem read_past_eof (short : (synchronizationPreemptionTimeOutput d).length < 2 ^ 31)
    (past : (synchronizationPreemptionTimeOutput d).length ≤ off.toNat)
    (fits : off.toNat + count.toNat < 2 ^ 31) :
    (synchronizationPreemptionTimeRead d off count).eof = true := by
  rw [read_eof short fits]
  exact past.trans (Nat.le_add_right _ _)

end past

theorem readInParts {d : Driver}
    (short : (synchronizationPreemptionTimeOutput d).length < 2 ^ 31) {counts : List Word}
    (positive : ∀ count ∈ counts, 0 < count.toInt) : ReadInParts d counts := by
  have sizes : ∀ count ∈ counts, NonNegative count :=
    fun count inCounts => nonNegative_of_toInt (positive count inCounts).le
  have start : (0 : Word).toNat = 0 := rfl
  have inPage : (0 : Word).toNat ≤ (synchronizationPreemptionTimeOutput d).length :=
    start.le.trans (Nat.zero_le _)
  have parts := readPage_readCalls short sizes inPage
  rw [start, List.drop_zero] at parts
  refine ⟨readCalls_exact short sizes inPage, parts, ?_, ?_⟩
  · intro enough
    rw [parts]
    exact List.take_of_length_le (enough.trans (length_le_sum positive))
  · intro off count past size
    have offset : NonNegative off := nonNegative_of_toInt ((Int.natCast_nonneg _).trans past)
    have size := nonNegative_of_toInt size.le
    rw [toInt_of_nonNegative offset] at past
    refine ⟨read_past_len short offset size (Int.ofNat_le.mp past), fun fits => ?_⟩
    rw [toInt_of_nonNegative offset, toInt_of_nonNegative size] at fits
    exact read_past_eof short (Int.ofNat_le.mp past) (by omega)

/-- After any run since the load the page is read in parts, whatever the counts. -/
theorem page_read_in_parts (ppsClock relayClock : Word) (es : List Event) {counts : List Word}
    (positive : ∀ count ∈ counts, 0 < count.toInt) :
    ReadInParts (driverMachine.run (synchronizationInitialize ppsClock relayClock) es) counts := by
  apply readInParts _ positive
  exact (length_preemptionTimeOutput (run_used_le ppsClock relayClock es)).2.trans_lt (by decide)

theorem page_read_in_parts_bytewise :
    readPage loaded26 (readCalls loaded26 0 (List.replicate 2000 1)) =
      synchronizationPreemptionTimeOutput loaded26 := by
  have positive : ∀ count ∈ List.replicate 2000 (1 : Word), 0 < count.toInt := by
    intro count inCounts
    rw [List.eq_of_mem_replicate inCounts]
    decide
  apply (page_read_in_parts 26000000 26000000 [] positive).whole
  rw [List.length_replicate]
  exact (length_preemptionTimeOutput (run_used_le 26000000 26000000 [])).2

/-- After the first byte, a read of `2147483647` bytes gets the rest of the page, but is not
told that this is its end. -/
theorem page_read_eof_refuted :
    ¬ ∀ (ppsClock relayClock : Word) (es : List Event) (counts : List Word),
      (∀ count ∈ counts, 0 < count.toInt) →
        let d := driverMachine.run (synchronizationInitialize ppsClock relayClock) es
        ∀ call ∈ readCalls d 0 counts, (call.reply d).eof = true ↔
          (call.reply d).start.toNat + (call.reply d).len.toNat =
            (synchronizationPreemptionTimeOutput d).length := by
  intro every
  have positive : ∀ count ∈ [(1 : Word), 2147483647], 0 < count.toInt := by
    intro count inCounts
    rcases List.mem_pair.mp inCounts with rfl | rfl
    · decide
    · decide
  have calls := every 26000000 26000000 [] _ positive
  obtain ⟨low, high⟩ := length_preemptionTimeOutput (run_used_le 26000000 26000000 [])
  have short := high.trans_lt (by decide : 2000 < 2 ^ 31)
  generalize driverMachine.run (synchronizationInitialize 26000000 26000000) [] = d at *
  have first : (synchronizationPreemptionTimeRead d 0 1).len = 1 := by
    rw [← BitVec.toNat_inj, read_len short (by decide) (by decide)]
    exact Nat.min_eq_left (Nat.le_of_succ_le low)
  have second := calls _ (List.mem_cons_of_mem _ List.mem_cons_self)
  have overflow : (0 + 1 + 2147483647 : Word).toInt = -2147483648 := rfl
  rw [ReadCall.reply, first, read_eof_iff short, overflow] at second
  have reaches : (0 + 1 : Word).toNat +
      (synchronizationPreemptionTimeRead d (0 + 1) 2147483647).len.toNat =
        (synchronizationPreemptionTimeOutput d).length := by
    rw [read_len short (by decide) (by decide)]
    change 1 + min 2147483647 (_ - 1) = _
    omega
  have announced := second.mpr reaches
  omega

end Gumstix.Synchronization
