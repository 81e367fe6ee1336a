import Mathlib.Data.List.Infix
import Mathlib.Data.List.Nodup

/-!
# Ring logs

A ring keeps the values recorded last: an array, and the number of slots used since the ring
was last wrapped. The next value goes to the slot of that number, and to slot 0 once every slot
is used. A log is the list of all values recorded so far, the oldest first.
-/

/-- The slots of a ring and how many of them the present round has used. -/
structure RingLog (α : Type*) (n : Nat) where
  slots : Vector α n
  used : Nat

namespace RingLog
variable {α : Type*} {n : Nat}

/-- A ring in which nothing has been recorded. -/
def blank (n : Nat) (z : α) : RingLog α n := ⟨Vector.replicate n z, 0⟩

/-- The slot of the next value. -/
def writeIndex (r : RingLog α n) : Nat := if n ≤ r.used then 0 else r.used

def record (r : RingLog α n) (x : α) : RingLog α n :=
  ⟨r.slots.setIfInBounds r.writeIndex x, r.writeIndex + 1⟩

/-- The values of a ring in the order of their age, the oldest first. -/
def inOrder (r : RingLog α n) : List α := r.slots.toList.drop r.used ++ r.slots.toList.take r.used

/-- The indices below `high`, downwards, as long as they are at least `low`. -/
def downFrom (low : Nat) : Nat → List Nat
  | 0 => []
  | i + 1 => if low ≤ i then i :: downFrom low i else []

/-- The slots of a ring, the one written last first. -/
def newestFirst (r : RingLog α n) : List Nat := downFrom 0 r.used ++ downFrom r.used n

/-- A ring that holds the last values of a log; the slots that have not been written yet hold
`z`, as if `z` had been recorded before the log began. -/
structure Logs (z : α) (xs : List α) (r : RingLog α n) : Prop where
  used_le : r.used ≤ n
  round : ∃ q, xs.length = n * q + r.used
  last : r.inOrder <:+ List.replicate n z ++ xs

/-- The value recorded last among those whose number is `j` modulo `n`, and `z` where there is
none. -/
inductive LatestAt (n : Nat) (z : α) (xs : List α) (j : Nat) : α → Prop
  | recorded {k : Nat} {x : α} (number : xs[k]? = some x) (slot : k % n = j)
      (last : ∀ l, k < l → l < xs.length → l % n ≠ j) : LatestAt n z xs j x
  | never (none : ∀ k < xs.length, k % n ≠ j) : LatestAt n z xs j z

section rules
variable {z : α} {xs : List α} {r : RingLog α n}

theorem writeIndex_lt (r : RingLog α n) (positive : 0 < n) : r.writeIndex < n := by
  unfold writeIndex
  split <;> omega

/-- A value is written inside the array. -/
theorem slots_record (r : RingLog α n) (x : α) (bound : r.writeIndex < n) :
    (r.record x).slots = r.slots.set r.writeIndex x bound := by
  ext j
  rw [record, Vector.getElem_setIfInBounds, Vector.getElem_set]

/-- The slot a value is written to, and the count of used slots after it. -/
theorem record_below (r : RingLog α n) (x : α) (positive : 0 < n) : ∃ case, ∃ bound : case < n,
    (r.record x).slots = r.slots.set case x bound ∧ (r.record x).used = case + 1 :=
  ⟨r.writeIndex, r.writeIndex_lt positive, r.slots_record x _, rfl⟩

theorem last_record (r : RingLog α n) (x : α) (positive : 0 < n) :
    (r.record x).slots[(r.record x).used - 1]? = some x :=
  Vector.getElem?_setIfInBounds_self_of_lt (r.writeIndex_lt positive)

theorem logs_blank (z : α) : Logs z [] (blank n z) where
  used_le := Nat.zero_le n
  round := ⟨0, rfl⟩
  last := by simp [inOrder, blank]

/-- The slot that is written held the oldest value, and then holds the youngest. -/
theorem inOrder_record (r : RingLog α n) (x : α) (positive : 0 < n) (used_le : r.used ≤ n) :
    ∃ oldest, r.inOrder ++ [x] = oldest :: (r.record x).inOrder := by
  have length : r.slots.toList.length = n := Vector.length_toList
  have bound : r.writeIndex < r.slots.toList.length := by
    rw [length]
    exact r.writeIndex_lt positive
  have written : (r.record x).slots.toList =
      (r.slots.toList.take r.writeIndex ++ [x]) ++ r.slots.toList.drop (r.writeIndex + 1) := by
    rw [record, Vector.toList_setIfInBounds, List.set_eq_take_append_cons_drop, if_pos bound,
      List.append_assoc, List.singleton_append]
  have next : (r.record x).used = (r.slots.toList.take r.writeIndex ++ [x]).length := by
    rw [List.length_append, List.length_take, Nat.min_eq_left bound.le]
    rfl
  have after : (r.record x).inOrder = r.slots.toList.drop (r.writeIndex + 1) ++
      (r.slots.toList.take r.writeIndex ++ [x]) := by
    rw [inOrder, written, next, List.drop_left, List.take_left]
  have before : r.inOrder =
      r.slots.toList.drop r.writeIndex ++ r.slots.toList.take r.writeIndex := by
    unfold inOrder writeIndex
    split
    case isTrue full =>
      rw [List.drop_of_length_le (by omega), List.take_of_length_le (by omega)]
      simp
    case isFalse => rfl
  refine ⟨r.slots.toList[r.writeIndex], ?_⟩
  rw [after, before, List.drop_eq_getElem_cons bound, List.cons_append, List.cons_append,
    List.append_assoc]

theorem Logs.record (h : Logs z xs r) (x : α) (positive : 0 < n) :
    Logs z (xs ++ [x]) (r.record x) where
  used_le := r.writeIndex_lt positive
  round := by
    obtain ⟨q, length⟩ := h.round
    have used_le := h.used_le
    unfold RingLog.record writeIndex
    dsimp only
    rw [List.length_append, length, List.length_singleton]
    split
    case isTrue full =>
      refine ⟨q + 1, ?_⟩
      rw [Nat.mul_succ]
      omega
    case isFalse => exact ⟨q, rfl⟩
  last := by
    obtain ⟨oldest, shifted⟩ := r.inOrder_record x positive h.used_le
    obtain ⟨older, split⟩ := h.last
    refine ⟨older ++ [oldest], ?_⟩
    rw [List.append_assoc, List.singleton_append, ← shifted, ← List.append_assoc, split,
      List.append_assoc]

theorem mem_downFrom {low high i : Nat} : i ∈ downFrom low high ↔ low ≤ i ∧ i < high := by
  induction high with
  | zero => simp [downFrom]
  | succ high ih =>
    unfold downFrom
    split
    case isTrue above =>
      rw [List.mem_cons, ih]
      omega
    case isFalse below =>
      simp only [List.not_mem_nil, false_iff]
      omega

theorem downFrom_nodup (low high : Nat) : (downFrom low high).Nodup := by
  induction high with
  | zero => exact List.nodup_nil
  | succ high ih =>
    unfold downFrom
    split
    · refine List.nodup_cons.mpr ⟨?_, ih⟩
      rw [mem_downFrom]
      omega
    · exact List.nodup_nil

/-- The values below `high` and from `low` on, downwards. -/
theorem map_downFrom (l : List α) (low high : Nat) (bound : high ≤ l.length) :
    (downFrom low high).map (l[·]?) = (((l.take high).drop low).reverse).map some := by
  induction high with
  | zero => simp [downFrom]
  | succ high ih =>
    unfold downFrom
    rw [List.take_add_one, List.getElem?_eq_getElem bound, Option.toList_some]
    split
    case isTrue above =>
      rw [List.map_cons, ih (Nat.le_of_succ_le bound), List.drop_append_of_le_length,
        List.reverse_append]
      · simp
      · rw [List.length_take]
        omega
    case isFalse below =>
      rw [List.drop_of_length_le]
      · rfl
      · simp only [List.length_append, List.length_take, List.length_singleton]
        omega

/-- Every slot is read once. -/
theorem newestFirst_perm (r : RingLog α n) (used_le : r.used ≤ n) :
    r.newestFirst.Perm (List.range n) := by
  refine (List.perm_ext_iff_of_nodup ?_ List.nodup_range).mpr fun i => ?_
  · refine List.Nodup.append (downFrom_nodup _ _) (downFrom_nodup _ _) fun i first second => ?_
    rw [mem_downFrom] at first second
    omega
  · rw [newestFirst, List.mem_append, mem_downFrom, mem_downFrom, List.mem_range]
    omega

theorem length_inOrder (r : RingLog α n) (used_le : r.used ≤ n) : r.inOrder.length = n := by
  rw [inOrder, List.length_append, List.length_drop, List.length_take, Vector.length_toList]
  omega

theorem map_newestFirst (r : RingLog α n) (used_le : r.used ≤ n) :
    r.newestFirst.map (r.slots[·]?) = r.inOrder.reverse.map some := by
  have length : r.slots.toList.length = n := Vector.length_toList
  simp only [← Vector.getElem?_toList]
  rw [newestFirst, List.map_append, map_downFrom _ _ _ (by omega), map_downFrom _ _ _ length.ge,
    List.take_of_length_le length.le, List.drop_zero, ← List.map_append, ← List.reverse_append]
  rfl

/-- A ring lists the last values of its log, the newest first, and then the blanks. -/
theorem Logs.newestFirst (h : Logs z xs r) :
    r.newestFirst.map (r.slots[·]?) =
      (xs.reverse.take n ++ List.replicate (n - min xs.length n) z).map some := by
  rw [map_newestFirst r h.used_le]
  have front : r.inOrder.reverse <+: xs.reverse ++ List.replicate n z := by
    have := List.reverse_prefix.mpr h.last
    rwa [List.reverse_append, List.reverse_replicate] at this
  congr 1
  rw [List.prefix_iff_eq_take.mp front, List.length_reverse, length_inOrder r h.used_le,
    List.take_append, List.length_reverse, List.take_replicate]
  congr 2
  omega

/-- The values of a ring by their numbers, which count the blanks before the log. -/
theorem Logs.number (h : Logs z xs r) {j : Nat} (bound : j < n) :
    ∃ k, k % n = j ∧ xs.length ≤ k ∧ (List.replicate n z ++ xs)[k]? = some r.slots[j] := by
  obtain ⟨q, round⟩ := h.round
  obtain ⟨older, split⟩ := h.last
  have used_le := h.used_le
  have length : r.slots.toList.length = n := Vector.length_toList
  have olderLength : older.length = xs.length := by
    have total := congrArg List.length split
    rw [List.length_append, List.length_append, List.length_replicate,
      length_inOrder r used_le] at total
    omega
  have slot : r.slots.toList[j]? = some r.slots[j] := by
    rw [Vector.getElem?_toList]
    exact Vector.getElem?_eq_getElem bound
  have dropped : (r.slots.toList.drop r.used).length = n - r.used := by
    rw [List.length_drop, length]
  by_cases written : j < r.used
  · refine ⟨xs.length + (n - r.used + j), ?_, by omega, ?_⟩
    · have sum : xs.length + (n - r.used + j) = n * (q + 1) + j := by
        rw [Nat.mul_succ]
        omega
      rw [sum, Nat.mul_add_mod, Nat.mod_eq_of_lt bound]
    · rw [← split, ← olderLength, List.getElem?_append_right (Nat.le_add_right _ _),
        Nat.add_sub_cancel_left, inOrder, ← dropped,
        List.getElem?_append_right (Nat.le_add_right _ _), Nat.add_sub_cancel_left,
        List.getElem?_take_of_lt written, slot]
  · refine ⟨xs.length + (j - r.used), ?_, by omega, ?_⟩
    · have sum : xs.length + (j - r.used) = n * q + j := by omega
      rw [sum, Nat.mul_add_mod, Nat.mod_eq_of_lt bound]
    · rw [← split, ← olderLength, List.getElem?_append_right (Nat.le_add_right _ _),
        Nat.add_sub_cancel_left, inOrder, List.getElem?_append_left (by omega),
        List.getElem?_drop, Nat.add_sub_cancel' (not_lt.mp written), slot]

theorem mod_ne_between {k l : Nat} (above : k < l) (below : l < k + n) : l % n ≠ k % n := by
  intro same
  have divides : n ∣ l - k := Nat.dvd_of_mod_eq_zero (Nat.sub_mod_eq_zero_of_mod_eq same)
  have := Nat.le_of_dvd (Nat.sub_pos_of_lt above) divides
  omega

theorem Logs.latestAt (h : Logs z xs r) {j : Nat} (bound : j < n) :
    LatestAt n z xs j r.slots[j] := by
  obtain ⟨k, slot, recent, number⟩ := h.number bound
  by_cases early : k < n
  · rw [List.getElem?_append_left (by rwa [List.length_replicate]), List.getElem?_replicate,
      if_pos early] at number
    rw [← Option.some.inj number]
    apply LatestAt.never
    intro l inLog
    rw [Nat.mod_eq_of_lt early] at slot
    rw [Nat.mod_eq_of_lt (by omega)]
    omega
  · have numbered : k = k - n + n := (Nat.sub_add_cancel (not_lt.mp early)).symm
    rw [List.getElem?_append_right (by rw [List.length_replicate]; omega),
      List.length_replicate] at number
    rw [numbered, Nat.add_mod_right] at slot
    refine .recorded number slot fun l after inLog => ?_
    rw [← slot]
    exact mod_ne_between after (by omega)

/-- Once every slot has been written, no value is older than the last `n`. -/
theorem LatestAt.recent {j : Nat} {x : α} (h : LatestAt n z xs j x) (bound : j < n)
    (full : n ≤ xs.length) : ∃ k, xs.length ≤ k + n ∧ k % n = j ∧ xs[k]? = some x := by
  cases h with
  | @recorded k _ number slot last =>
    refine ⟨k, ?_, slot, number⟩
    by_contra old
    exact last (k + n) (by omega) (by omega) (by rw [Nat.add_mod_right, slot])
  | never none => exact absurd (Nat.mod_eq_of_lt bound) (none j (bound.trans_le full))

end rules

end RingLog
