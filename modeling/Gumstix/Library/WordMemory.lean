import Gumstix.Library.ByteImage

/-!
# Words in byte memory

A buffer is a memory of bytes, numbered from its start. A word of `k` bytes with number `i` takes
the bytes from `k * i` on, the least significant first. Words stored one after the other fill the
memory up to the last of them and leave the rest as it is.
-/
namespace WordMemory
open ByteImage

abbrev Memory := Nat → BitVec 8

variable {w k : Nat}

/-- The bytes from `start` on as a word, the least significant first. -/
def assemble (w : Nat) (m : Memory) (start : Nat) : Nat → BitVec w
  | 0 => 0
  | n + 1 => setWordByte (assemble w m start n) n (m (start + n))

/-- Word number `i`. -/
def load (w k : Nat) (m : Memory) (i : Nat) : BitVec w := assemble w m (k * i) k

def store (k : Nat) (m : Memory) (i : Nat) (x : BitVec w) : Memory := fun j =>
  if k * i ≤ j ∧ j < k * i + k then wordByte x (j - k * i) else m j

/-- Words stored one after the other, the first of them with number `i`. -/
def storeAll (k : Nat) (m : Memory) (i : Nat) : List (BitVec w) → Memory
  | [] => m
  | x :: xs => storeAll k (store k m i x) (i + 1) xs

theorem wordByte_assemble {n : Nat} (fits : 8 * n ≤ w) (m : Memory) (start : Nat) {b : Nat}
    (hb : b < n) : wordByte (assemble w m start n) b = m (start + b) := by
  induction n with
  | zero => exact absurd hb (Nat.not_lt_zero b)
  | succ n ih =>
      rw [assemble, wordByte_setWordByte _ _ _ fits]
      by_cases last : b = n
      · rw [if_pos last, last]
      · rw [if_neg last]
        exact ih (by omega) (by omega)

theorem wordByte_assemble_of_le {n : Nat} (fits : 8 * n ≤ w) (m : Memory) (start : Nat) {b : Nat}
    (above : n ≤ b) : wordByte (assemble w m start n) b = 0 := by
  induction n with
  | zero => exact BitVec.extractLsb'_zero
  | succ n ih =>
      rw [assemble, wordByte_setWordByte _ _ _ fits, if_neg (by omega)]
      exact ih (by omega) (by omega)

theorem wordByte_load (fits : 8 * k ≤ w) (m : Memory) (i : Nat) {b : Nat} (hb : b < k) :
    wordByte (load w k m i) b = m (k * i + b) := wordByte_assemble fits m _ hb

theorem store_inside (m : Memory) (i : Nat) (x : BitVec w) {b : Nat} (hb : b < k) :
    store k m i x (k * i + b) = wordByte x b := by
  rw [store, if_pos (by omega), Nat.add_sub_cancel_left]

theorem store_outside (m : Memory) {i j : Nat} (x : BitVec w)
    (outside : j < k * i ∨ k * i + k ≤ j) : store k m i x j = m j := if_neg (by omega)

theorem wordByte_load_of_le (fits : 8 * k ≤ w) (m : Memory) (i : Nat) {b : Nat} (above : k ≤ b) :
    wordByte (load w k m i) b = 0 := wordByte_assemble_of_le fits m _ above

/-- A word is the one loaded if it has its bytes and no others. -/
theorem eq_load_iff {n : Nat} (isBytes : w = 8 * n) (fits : k ≤ n) {m : Memory} {i : Nat}
    {x : BitVec w} (few : ∀ b, k ≤ b → wordByte x b = 0) :
    x = load w k m i ↔ ∀ b < k, wordByte x b = m (k * i + b) := by
  have wide : 8 * k ≤ w := isBytes ▸ Nat.mul_le_mul_left 8 fits
  constructor
  · rintro rfl b hb
    exact wordByte_load wide m i hb
  · refine fun bytes => ByteImage.word_ext n isBytes fun b _ => ?_
    rcases Nat.lt_or_ge b k with hb | above
    · rw [bytes b hb, wordByte_load wide m i hb]
    · rw [few b above, wordByte_load_of_le wide m i above]

theorem storeAll_append (m : Memory) (i : Nat) (xs ys : List (BitVec w)) :
    storeAll k m i (xs ++ ys) = storeAll k (storeAll k m i xs) (i + xs.length) ys := by
  induction xs generalizing m i with
  | nil => rfl
  | cons x xs ih =>
      rw [List.cons_append, storeAll, ih, storeAll, List.length_cons, Nat.add_right_comm,
        Nat.add_assoc i]

theorem storeAll_before (m : Memory) {i j : Nat} (xs : List (BitVec w)) (before : j < k * i) :
    storeAll k m i xs j = m j := by
  induction xs generalizing m i with
  | nil => rfl
  | cons x xs ih =>
      have later : j < k * (i + 1) := by rw [Nat.mul_succ]; omega
      rw [storeAll, ih _ later, store_outside m x (.inl before)]

/-- What lies behind the last word stays as it is. -/
theorem storeAll_behind (m : Memory) {i j : Nat} (xs : List (BitVec w))
    (behind : k * (i + xs.length) ≤ j) : storeAll k m i xs j = m j := by
  induction xs generalizing m i with
  | nil => rfl
  | cons x xs ih =>
      rw [List.length_cons, Nat.add_comm xs.length, ← Nat.add_assoc] at behind
      have first : k * (i + 1) ≤ k * (i + 1 + xs.length) :=
        Nat.mul_le_mul_left k (Nat.le_add_right _ _)
      rw [Nat.mul_succ] at first
      rw [storeAll, ih _ behind, store_outside m x (.inr (by omega))]

/-- Each word is where its number says. -/
theorem storeAll_get (m : Memory) {i n b : Nat} (xs : List (BitVec w)) (hn : n < xs.length)
    (hb : b < k) : storeAll k m i xs (k * (i + n) + b) = wordByte xs[n] b := by
  induction xs generalizing m i n with
  | nil => exact absurd hn (Nat.not_lt_zero n)
  | cons x xs ih =>
      cases n with
      | zero =>
          have before : k * i + b < k * (i + 1) := by rw [Nat.mul_succ]; omega
          change storeAll k (store k m i x) (i + 1) xs (k * i + b) = wordByte x b
          rw [storeAll_before _ xs before, store_inside m i x hb]
      | succ n =>
          rw [storeAll, show i + (n + 1) = i + 1 + n by omega]
          exact ih _ (Nat.lt_of_succ_lt_succ hn)

end WordMemory
