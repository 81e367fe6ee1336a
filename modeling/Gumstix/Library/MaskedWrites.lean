import Mathlib.Data.BitVec

/-!
# Masked writes

A write to some bits of a register leaves its other bits as they are: it has a mask and a value
that lies inside the mask. Masked writes can be composed, and the later one wins.
-/

/-- New values for the bits of a mask. -/
structure MaskedWrite (w : Nat) where
  mask : BitVec w
  value : BitVec w
  inside : value &&& mask = value

namespace MaskedWrite
variable {w : Nat}

def apply (m : MaskedWrite w) (l : BitVec w) : BitVec w := (l &&& ~~~m.mask) ||| m.value

/-- All bits of the mask set. -/
def set (mask : BitVec w) : MaskedWrite w := ⟨mask, mask, BitVec.and_self⟩

/-- All bits of the mask cleared. -/
def clear (mask : BitVec w) : MaskedWrite w := ⟨mask, 0, BitVec.zero_and⟩

def assign (mask : BitVec w) (on : Bool) : MaskedWrite w := if on then set mask else clear mask

/-- A value that stands in its place in the register. -/
def field (mask value : BitVec w) : MaskedWrite w :=
  ⟨mask, value &&& mask, by rw [BitVec.and_assoc, BitVec.and_self]⟩

/-- A register that has the value of the write in its mask. -/
def Written (m : MaskedWrite w) (l : BitVec w) : Prop := l &&& m.mask = m.value

instance (m : MaskedWrite w) (l : BitVec w) : Decidable (m.Written l) :=
  inferInstanceAs (Decidable (_ = _))

variable {m : MaskedWrite w}

theorem mask_of_value (m : MaskedWrite w) {i : Nat} (on : m.value.getLsbD i = true) :
    m.mask.getLsbD i = true := by
  rw [← m.inside, BitVec.getLsbD_and, Bool.and_eq_true] at on
  exact on.2

/-- Bit by bit. -/
theorem getLsbD_apply (m : MaskedWrite w) (l : BitVec w) {i : Nat} (hi : i < w) :
    (m.apply l).getLsbD i = if m.mask.getLsbD i then m.value.getLsbD i else l.getLsbD i := by
  have inside := m.mask_of_value (i := i)
  simp only [apply, BitVec.getLsbD_or, BitVec.getLsbD_and, BitVec.getLsbD_not, hi, decide_true,
    Bool.true_and]
  cases masked : m.mask.getLsbD i with
  | false =>
      cases on : m.value.getLsbD i with
      | false => simp
      | true => rw [inside on] at masked; cases masked
  | true => simp

/-- The first write, then the second. -/
def andThen (m n : MaskedWrite w) : MaskedWrite w where
  mask := m.mask ||| n.mask
  value := n.apply m.value
  inside := by
    apply BitVec.eq_of_getLsbD_eq
    intro i hi
    have first := m.mask_of_value (i := i)
    have second := n.mask_of_value (i := i)
    rw [BitVec.getLsbD_and, BitVec.getLsbD_or, getLsbD_apply n m.value hi]
    grind

theorem apply_set (mask l : BitVec w) : (set mask).apply l = l ||| mask := by
  apply BitVec.eq_of_getLsbD_eq
  intro i hi
  rw [getLsbD_apply _ l hi, BitVec.getLsbD_or]
  change (if mask.getLsbD i then mask.getLsbD i else l.getLsbD i) = _
  cases mask.getLsbD i <;> simp

theorem apply_clear (mask l : BitVec w) : (clear mask).apply l = l &&& ~~~mask := BitVec.or_zero

theorem apply_assign (mask l : BitVec w) (on : Bool) :
    (assign mask on).apply l = if on then l ||| mask else l &&& ~~~mask := by
  cases on with
  | false => exact apply_clear mask l
  | true => exact apply_set mask l

theorem apply_field {mask value : BitVec w} (inside : value &&& mask = value) (l : BitVec w) :
    (field mask value).apply l = l &&& ~~~mask ||| value :=
  congrArg (l &&& ~~~mask ||| ·) inside

theorem mask_assign (mask : BitVec w) (on : Bool) : (assign mask on).mask = mask := by
  cases on <;> rfl

theorem apply_andThen (m n : MaskedWrite w) (l : BitVec w) :
    (m.andThen n).apply l = n.apply (m.apply l) := by
  apply BitVec.eq_of_getLsbD_eq
  intro i hi
  rw [getLsbD_apply _ l hi, getLsbD_apply n _ hi, getLsbD_apply m l hi]
  change (if (m.mask ||| n.mask).getLsbD i then (n.apply m.value).getLsbD i else _) = _
  rw [BitVec.getLsbD_or, getLsbD_apply n _ hi]
  cases m.mask.getLsbD i <;> cases n.mask.getLsbD i <;> rfl

/-- Bits outside the mask stay as they are. -/
theorem apply_and_of_disjoint {bits : BitVec w} (apart : m.mask &&& bits = 0) (l : BitVec w) :
    m.apply l &&& bits = l &&& bits := by
  apply BitVec.eq_of_getLsbD_eq
  intro i hi
  have none : (m.mask &&& bits).getLsbD i = false := by
    rw [apart]
    exact BitVec.getLsbD_zero
  rw [BitVec.getLsbD_and] at none
  rw [BitVec.getLsbD_and, BitVec.getLsbD_and, getLsbD_apply m l hi]
  cases masked : m.mask.getLsbD i with
  | false => rfl
  | true =>
      rw [masked, Bool.true_and] at none
      rw [none, Bool.and_false, Bool.and_false]

theorem assign_and_of_disjoint {mask bits : BitVec w} (apart : mask &&& bits = 0) (on : Bool)
    (l : BitVec w) : (assign mask on).apply l &&& bits = l &&& bits := by
  refine apply_and_of_disjoint ?_ l
  rw [mask_assign]
  exact apart

theorem field_and_of_disjoint {mask bits : BitVec w} (apart : mask &&& bits = 0)
    (value l : BitVec w) : (field mask value).apply l &&& bits = l &&& bits :=
  apply_and_of_disjoint apart l

/-- Bits inside the mask are those of the value. -/
theorem apply_and_of_subset {bits : BitVec w} (within : bits &&& m.mask = bits) (l : BitVec w) :
    m.apply l &&& bits = m.value &&& bits := by
  apply BitVec.eq_of_getLsbD_eq
  intro i hi
  rw [BitVec.getLsbD_and, BitVec.getLsbD_and, getLsbD_apply m l hi]
  cases bit : bits.getLsbD i with
  | false => rw [Bool.and_false, Bool.and_false]
  | true =>
      rw [← within, BitVec.getLsbD_and, Bool.and_eq_true] at bit
      rw [if_pos bit.2]

theorem written_apply (m : MaskedWrite w) (l : BitVec w) : m.Written (m.apply l) :=
  (apply_and_of_subset BitVec.and_self l).trans m.inside

theorem assign_and (mask l : BitVec w) (on : Bool) :
    (assign mask on).apply l &&& mask = if on then mask else 0 := by
  cases on with
  | false => exact written_apply (clear mask) l
  | true => exact written_apply (set mask) l

theorem field_and {mask value : BitVec w} (inside : value &&& mask = value) (l : BitVec w) :
    (field mask value).apply l &&& mask = value :=
  (written_apply (field mask value) l).trans inside

end MaskedWrite
