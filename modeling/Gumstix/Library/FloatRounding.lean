import Mathlib.Algebra.Order.Ring.Nat

/-!
# Rounding of natural numbers to floats

The conversion of a natural number to a binary floating-point format of `p` significant bits,
to the nearest value and from a tie to the even one.
-/

namespace FloatRounding

/-- The nearest multiple of `2 ^ s`. -/
def roundAt (s n : Nat) : Nat :=
  let q := n / 2 ^ s
  let r := n % 2 ^ s
  if 2 * r < 2 ^ s ∨ 2 * r = 2 ^ s ∧ q % 2 = 0 then q * 2 ^ s else (q + 1) * 2 ^ s

/-- `n` with `p` significant bits. -/
def roundTo (p n : Nat) : Nat := roundAt (n.log2 + 1 - p) n

variable {p s n : Nat}

theorem roundAt_zero (n : Nat) : roundAt 0 n = n := by
  simp [roundAt, Nat.mod_one]

theorem quotient_le_roundAt (s n : Nat) : n / 2 ^ s * 2 ^ s ≤ roundAt s n := by
  unfold roundAt
  dsimp only
  split
  · exact le_refl _
  · exact Nat.mul_le_mul_right _ (Nat.le_succ _)

/-- Numbers with at most `p` bits are exact. -/
theorem roundTo_of_lt (small : n < 2 ^ p) : roundTo p n = n := by
  by_cases zero : n = 0
  · subst zero
    simp [roundTo, roundAt]
  · have bits : n.log2 + 1 - p = 0 :=
      Nat.sub_eq_zero_of_le ((Nat.log2_lt zero).mpr small)
    rw [roundTo, bits, roundAt_zero]

/-- Rounding does not bring a number into the range of the exact ones. -/
theorem le_roundTo (positive : 0 < p) (large : 2 ^ p ≤ n) : 2 ^ p ≤ roundTo p n := by
  have zero : n ≠ 0 := (Nat.lt_of_lt_of_le (Nat.two_pow_pos p) large).ne'
  have bits : p ≤ n.log2 := (Nat.le_log2 zero).mpr large
  have top : 2 ^ (p - 1) * 2 ^ (n.log2 + 1 - p) = 2 ^ n.log2 := by
    rw [← Nat.pow_add]
    congr 1
    omega
  have quotient : 2 ^ (p - 1) ≤ n / 2 ^ (n.log2 + 1 - p) := by
    rw [Nat.le_div_iff_mul_le (Nat.two_pow_pos _), top]
    exact Nat.log2_self_le zero
  calc 2 ^ p ≤ 2 ^ n.log2 := Nat.pow_le_pow_right (by decide) bits
    _ = 2 ^ (p - 1) * 2 ^ (n.log2 + 1 - p) := top.symm
    _ ≤ n / 2 ^ (n.log2 + 1 - p) * 2 ^ (n.log2 + 1 - p) := Nat.mul_le_mul_right _ quotient
    _ ≤ roundTo p n := quotient_le_roundAt _ n

/-- An exact number comes from itself only. -/
theorem roundTo_eq_iff (positive : 0 < p) {m : Nat} (small : m < 2 ^ p) :
    roundTo p n = m ↔ n = m := by
  constructor
  · intro rounded
    have inRange : n < 2 ^ p := by
      by_contra large
      have out := le_roundTo positive (not_lt.mp large)
      rw [rounded] at out
      exact absurd small (not_lt.mpr out)
    rw [← rounded, roundTo_of_lt inRange]
  · rintro rfl
    exact roundTo_of_lt small

end FloatRounding
