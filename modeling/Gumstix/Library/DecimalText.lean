import Mathlib.Data.BitVec

/-!
# Decimal numerals

How long the decimal text of a machine integer is.
-/

namespace DecimalText

/-- `%d` writes at most eleven characters for an `int`. -/
theorem length_toString_le {i : Int} (low : -10000000000 < i) (high : i < 10000000000) :
    (toString i).length ≤ 11 := by
  rw [Int.toString_eq_repr, Int.repr_eq_if]
  split
  · exact Nat.le_succ_of_le ((Nat.length_repr_le_iff (by decide)).mpr (by omega))
  · rw [String.length_append]
    have digits := (Nat.length_repr_le_iff (n := (-i).toNat) (k := 10) (by decide)).mpr (by omega)
    exact Nat.add_le_add (Nat.le_refl 1) digits

theorem length_toString_toInt (w : BitVec 32) : (toString w.toInt).length ≤ 11 := by
  have low := BitVec.le_toInt w
  have high := BitVec.toInt_lt (x := w)
  exact length_toString_le (by omega) (by omega)

end DecimalText
