import Mathlib.Data.List.Nodup
import Mathlib.Data.Nat.Bitwise
import Mathlib.Data.Set.Function

/-!
# Register banks

A bank is a memory and a place for one saved value for each index. Exchanging an index
saves what its cell holds and writes to the cell a value that may depend on what was
saved before. When the cells of the visited indices are distinct, each of them is
exchanged once and nothing else changes.
-/

structure RegisterBank (ι κ α β : Type*) where
  saved : ι → β
  cells : κ → α

namespace RegisterBank
variable {ι κ α β : Type*} [DecidableEq ι] [DecidableEq κ]
variable (address : ι → κ) (save : α → β) (write : ι → β → α)

def exchange (b : RegisterBank ι κ α β) (i : ι) : RegisterBank ι κ α β where
  saved := Function.update b.saved i (save (b.cells (address i)))
  cells := Function.update b.cells (address i) (write i (b.saved i))

def exchangeAll (b : RegisterBank ι κ α β) (l : List ι) : RegisterBank ι κ α β :=
  l.foldl (exchange address save write) b

variable {address save write}

theorem exchangeAll_cells_of_ne (b : RegisterBank ι κ α β) {l : List ι} {x : κ}
    (h : ∀ i ∈ l, x ≠ address i) : (exchangeAll address save write b l).cells x = b.cells x := by
  induction l generalizing b with
  | nil => rfl
  | cons i l ih =>
      rw [List.forall_mem_cons] at h
      exact (ih (exchange address save write b i) h.2).trans (Function.update_of_ne h.1 _ _)

theorem exchangeAll_saved_of_notMem (b : RegisterBank ι κ α β) {l : List ι} {i : ι}
    (h : i ∉ l) : (exchangeAll address save write b l).saved i = b.saved i := by
  induction l generalizing b with
  | nil => rfl
  | cons j l ih =>
      rw [List.mem_cons, not_or] at h
      exact (ih (exchange address save write b j) h.2).trans (Function.update_of_ne h.1 _ _)

/-- Every visited index has saved its cell and written it. -/
theorem exchangeAll_visited (b : RegisterBank ι κ α β) {l : List ι} (nodup : l.Nodup)
    (distinct : Set.InjOn address {i | i ∈ l}) {i : ι} (hi : i ∈ l) :
    (exchangeAll address save write b l).saved i = save (b.cells (address i)) ∧
      (exchangeAll address save write b l).cells (address i) = write i (b.saved i) := by
  induction l generalizing b with
  | nil => exact absurd hi List.not_mem_nil
  | cons j l ih =>
      rw [List.nodup_cons] at nodup
      have others : ∀ k ∈ l, address j ≠ address k := fun k hk same =>
        nodup.1 (distinct List.mem_cons_self (List.mem_cons_of_mem j hk) same ▸ hk)
      change (exchangeAll address save write (exchange address save write b j) l).saved i = _ ∧
        (exchangeAll address save write (exchange address save write b j) l).cells _ = _
      rcases List.mem_cons.mp hi with rfl | hi
      · rw [exchangeAll_saved_of_notMem _ nodup.1, exchangeAll_cells_of_ne _ others]
        exact ⟨Function.update_self _ _ _, Function.update_self _ _ _⟩
      · have different : i ≠ j := fun same => nodup.1 (same ▸ hi)
        obtain ⟨saved, cells⟩ := ih (exchange address save write b j) nodup.2
          (distinct.mono fun k hk => List.mem_cons_of_mem j hk) hi
        rw [saved, cells]
        exact ⟨congrArg save (Function.update_of_ne (others i hi).symm _ _),
          congrArg (write i) (Function.update_of_ne different _ _)⟩

/-- The list has no duplicate and meets no bit of `seen`. Each entry is compared with one
mask of the entries before it, not with each of them. -/
def distinctFrom (seen : Nat) : List Nat → Bool
  | [] => true
  | x :: l => !seen.testBit x && distinctFrom (seen ||| 2 ^ x) l

theorem distinctFrom_spec {seen : Nat} {l : List Nat} (h : distinctFrom seen l = true) :
    l.Nodup ∧ ∀ x ∈ l, seen.testBit x = false := by
  induction l generalizing seen with
  | nil => exact ⟨List.nodup_nil, nofun⟩
  | cons x l ih =>
      simp only [distinctFrom, Bool.and_eq_true, Bool.not_eq_true'] at h
      obtain ⟨nodup, unseen⟩ := ih h.2
      simp only [Nat.testBit_or, Bool.or_eq_false_iff] at unseen
      have first : x ∉ l := fun member => by simpa using (unseen x member).2
      exact ⟨List.nodup_cons.mpr ⟨first, nodup⟩,
        List.forall_mem_cons.mpr ⟨h.1, fun y member => (unseen y member).1⟩⟩

end RegisterBank
