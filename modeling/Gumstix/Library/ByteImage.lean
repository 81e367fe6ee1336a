import Mathlib.Data.BitVec
import Mathlib.Logic.Equiv.Defs

/-!
# Records as byte images

A record laid out in memory can be read and written one byte at a time; bytes between
its fields are padding and belong to no field. Copying a record from its first to its
last byte is then a loop over the byte numbers that may stop anywhere.
-/
namespace ByteImage

/-- Byte `i` of a word, the least significant byte being number 0. -/
def wordByte {w : Nat} (x : BitVec w) (i : Nat) : BitVec 8 := x.extractLsb' (8 * i) 8

/-- The word with byte `i` replaced. -/
def setWordByte {w : Nat} (x : BitVec w) (i : Nat) (b : BitVec 8) : BitVec w :=
  (x &&& ~~~ ((255#8).setWidth w <<< (8 * i))) ||| (b.setWidth w <<< (8 * i))

theorem getLsbD_wordByte {w : Nat} (x : BitVec w) (i k : Nat) :
    (wordByte x i).getLsbD k = (decide (k < 8) && x.getLsbD (8 * i + k)) := by
  simp only [wordByte, BitVec.getLsbD_extractLsb']

theorem getLsbD_byteMask (k : Nat) : (255#8).getLsbD k = decide (k < 8) := by
  by_cases h : k < 8
  · have cases : k = 0 ∨ k = 1 ∨ k = 2 ∨ k = 3 ∨ k = 4 ∨ k = 5 ∨ k = 6 ∨ k = 7 := by omega
    rcases cases with rfl | rfl | rfl | rfl | rfl | rfl | rfl | rfl <;> rfl
  · rw [decide_eq_false h, BitVec.getLsbD_of_ge _ _ (Nat.not_lt.mp h)]

theorem getLsbD_setWordByte {w : Nat} (x : BitVec w) (i : Nat) (b : BitVec 8) (k : Nat)
    (hk : k < w) :
    (setWordByte x i b).getLsbD k =
      if 8 * i ≤ k ∧ k < 8 * i + 8 then b.getLsbD (k - 8 * i) else x.getLsbD k := by
  simp only [setWordByte, BitVec.getLsbD_or, BitVec.getLsbD_and, BitVec.getLsbD_not,
    BitVec.getLsbD_shiftLeft, BitVec.getLsbD_setWidth, getLsbD_byteMask, hk, decide_true,
    Bool.true_and]
  by_cases low : k < 8 * i
  · rw [if_neg (by omega)]
    simp [low]
  · by_cases high : k < 8 * i + 8
    · have hb : k - 8 * i < 8 := by omega
      have hw : k - 8 * i < w := by omega
      rw [if_pos (by omega)]
      simp [low, hb, hw]
    · have hb : ¬ k - 8 * i < 8 := by omega
      rw [if_neg (by omega), BitVec.getLsbD_of_ge b _ (by omega)]
      simp [hb]

theorem wordByte_setWordByte {w : Nat} (x : BitVec w) {i : Nat} (j : Nat) (b : BitVec 8)
    (hi : 8 * (i + 1) ≤ w) :
    wordByte (setWordByte x i b) j = if j = i then b else wordByte x j := by
  apply BitVec.eq_of_getLsbD_eq
  intro k hk
  rw [getLsbD_wordByte]
  simp only [hk, decide_true, Bool.true_and]
  by_cases same : j = i
  · subst j
    rw [getLsbD_setWordByte x i b _ (by omega), if_pos (by omega), if_pos rfl]
    congr 1
    omega
  · rw [if_neg same, getLsbD_wordByte]
    simp only [hk, decide_true, Bool.true_and]
    by_cases inside : 8 * j + k < w
    · rw [getLsbD_setWordByte x i b _ inside, if_neg (by omega)]
    · rw [BitVec.getLsbD_of_ge _ _ (Nat.not_lt.mp inside),
        BitVec.getLsbD_of_ge _ _ (Nat.not_lt.mp inside)]

theorem word_ext {w : Nat} {x y : BitVec w} (n : Nat) (hw : w = 8 * n)
    (h : ∀ i < n, wordByte x i = wordByte y i) : x = y := by
  apply BitVec.eq_of_getLsbD_eq
  intro k hk
  have hb := congrArg (fun b => b.getLsbD (k % 8)) (h (k / 8) (by omega))
  have he : 8 * (k / 8) + k % 8 = k := by omega
  have hlt : k % 8 < 8 := by omega
  simpa only [getLsbD_wordByte, he, hlt, decide_true, Bool.true_and] using hb

/-- A record type seen through its bytes. `live` are the bytes that belong to a field. -/
structure Layout (α : Type*) where
  size : Nat
  live : Nat → Prop
  byte : α → Nat → BitVec 8
  setByte : α → Nat → BitVec 8 → α
  byte_setByte : ∀ x i b j, i < size → live j →
    byte (setByte x i b) j = if j = i then b else byte x j
  ext : ∀ x y, (∀ j < size, live j → byte x j = byte y j) → x = y

namespace Layout
variable {α β : Type*}

def word (w n : Nat) (hw : w = 8 * n) : Layout (BitVec w) where
  size := n
  live j := j < n
  byte := wordByte
  setByte := setWordByte
  byte_setByte x i b j hi _ := wordByte_setWordByte x j b (by omega)
  ext _ _ h := word_ext n hw fun i hi => h i hi hi

def padding (n : Nat) : Layout Unit where
  size := n
  live _ := False
  byte _ _ := 0
  setByte u _ _ := u
  byte_setByte _ _ _ _ _ hj := hj.elim
  ext _ _ _ := rfl

section live
variable {w n : Nat}

theorem size_word (hw : w = 8 * n) : (word w n hw).size = n := rfl

theorem size_padding (n : Nat) : (padding n).size = n := rfl

theorem live_word (hw : w = 8 * n) (j : Nat) : (word w n hw).live j ↔ j < n := Iff.rfl

theorem live_padding (n j : Nat) : (padding n).live j ↔ False := Iff.rfl

end live

/-- One record after the other. -/
def seq (L : Layout α) (M : Layout β) : Layout (α × β) where
  size := L.size + M.size
  live j := if j < L.size then L.live j else M.live (j - L.size)
  byte p j := if j < L.size then L.byte p.1 j else M.byte p.2 (j - L.size)
  setByte p i b :=
    if i < L.size then (L.setByte p.1 i b, p.2) else (p.1, M.setByte p.2 (i - L.size) b)
  byte_setByte p i b j hi hj := by
    by_cases hiL : i < L.size <;> by_cases hjL : j < L.size
    · rw [if_pos hjL] at hj
      simp only [if_pos hiL, if_pos hjL, L.byte_setByte p.1 i b j hiL hj]
    · simp only [if_pos hiL, if_neg hjL]
      rw [if_neg (by omega)]
    · simp only [if_neg hiL, if_pos hjL]
      rw [if_neg (by omega)]
    · rw [if_neg hjL] at hj
      have same : j - L.size = i - L.size ↔ j = i := by omega
      simp only [if_neg hiL, if_neg hjL,
        M.byte_setByte p.2 (i - L.size) b (j - L.size) (by omega) hj, same]
  ext p q h := by
    apply Prod.ext
    · apply L.ext _ _
      intro j hj hlive
      have := h j (by omega) (by rw [if_pos hj]; exact hlive)
      simpa only [if_pos hj] using this
    · apply M.ext _ _
      intro j hj hlive
      have hn : ¬ L.size + j < L.size := by omega
      have hs : L.size + j - L.size = j := by omega
      have := h (L.size + j) (by omega) (by rw [if_neg hn, hs]; exact hlive)
      simpa only [if_neg hn, hs] using this

theorem live_seq (L : Layout α) (M : Layout β) (j : Nat) : (L.seq M).live j ↔
    (j < L.size ∧ L.live j) ∨ (L.size ≤ j ∧ M.live (j - L.size)) := by
  change (if j < L.size then L.live j else M.live (j - L.size)) ↔ _
  split
  · rename_i inside
    simp [inside, Nat.not_le.mpr inside]
  · rename_i behind
    simp [behind, Nat.not_lt.mp behind]

/-- The layout of a structure from the layout of the tuple of its fields. -/
def along (e : α ≃ β) (L : Layout β) : Layout α where
  size := L.size
  live := L.live
  byte x j := L.byte (e x) j
  setByte x i b := e.symm (L.setByte (e x) i b)
  byte_setByte x i b j hi hj := by
    simp only [Equiv.apply_symm_apply]
    exact L.byte_setByte (e x) i b j hi hj
  ext x y h := e.injective (L.ext _ _ h)

variable (L : Layout α)

def copyByte (source target : α) (i : Nat) : α := L.setByte target i (L.byte source i)

/-- The first `n` bytes of `source` copied over `target`. -/
def copyBytes (source target : α) : Nat → α
  | 0 => target
  | n + 1 => L.copyByte source (copyBytes source target n) n

/-- The two records agree on every field byte below `n`. -/
def AgreeBelow (n : Nat) (x y : α) : Prop := ∀ j < n, L.live j → L.byte x j = L.byte y j

theorem agreeBelow_zero (x y : α) : L.AgreeBelow 0 x y :=
  fun j hj _ => absurd hj (Nat.not_lt_zero j)

theorem AgreeBelow.copyByte {L : Layout α} {n : Nat} {source target : α}
    (h : L.AgreeBelow n target source) (hn : n < L.size) :
    L.AgreeBelow (n + 1) (L.copyByte source target n) source := by
  intro j hj hlive
  rw [Layout.copyByte, L.byte_setByte _ _ _ _ hn hlive]
  by_cases same : j = n
  · rw [if_pos same, same]
  · rw [if_neg same]
    exact h j (by omega) hlive

theorem copyBytes_agree (source target : α) {n : Nat} (hn : n ≤ L.size) :
    L.AgreeBelow n (L.copyBytes source target n) source := by
  induction n with
  | zero => exact L.agreeBelow_zero _ _
  | succ n ih => exact (ih (by omega)).copyByte (by omega)

/-- Records that agree up to the last field byte are the same. -/
theorem eq_of_agreeBelow {n : Nat} {x y : α} (fields : ∀ j < L.size, L.live j → j < n)
    (h : L.AgreeBelow n x y) : x = y :=
  L.ext x y fun j hj hlive => h j (fields j hj hlive) hlive

/-- A copy that reaches the last byte has copied the record. -/
theorem copyBytes_size (source target : α) : L.copyBytes source target L.size = source :=
  L.eq_of_agreeBelow (fun _ hj _ => hj) (L.copyBytes_agree source target le_rfl)

end Layout
end ByteImage
