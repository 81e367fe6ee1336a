import Mathlib.Logic.Function.Iterate

/-!
# Descending steps

A deterministic step that either changes nothing or lowers a rank comes to a rest. Its run is the
state of rest, and a run may be followed step by step from its beginning.
-/

/-- A step that rests or descends. -/
structure Descent (σ : Type*) where
  step : σ → σ
  rank : σ → Nat
  descends : ∀ s, step s = s ∨ rank (step s) < rank s

namespace Descent
variable {σ : Type*} (D : Descent σ)

/-- As many steps as the rank allows. -/
def run (s : σ) : σ := D.step^[D.rank s] s

variable {D} {s : σ}

theorem step_iterate {n : Nat} (enough : D.rank s ≤ n) : D.step (D.step^[n] s) = D.step^[n] s := by
  induction n generalizing s with
  | zero =>
      rcases D.descends s with rest | less
      · exact rest
      · exact absurd (Nat.lt_of_lt_of_le less enough) (Nat.not_lt_zero _)
  | succ n ih =>
      rcases D.descends s with rest | less
      · rw [Function.iterate_fixed rest, rest]
      · exact ih (Nat.le_of_lt_succ (Nat.lt_of_lt_of_le less enough))

/-- The run ends at rest. -/
theorem step_run (s : σ) : D.step (D.run s) = D.run s := step_iterate (Nat.le_refl _)

theorem run_of_rest (rest : D.step s = s) : D.run s = s := Function.iterate_fixed rest _

/-- Steps beyond the rank change nothing. -/
theorem iterate_eq_run {n : Nat} (enough : D.rank s ≤ n) : D.step^[n] s = D.run s := by
  obtain ⟨more, rfl⟩ := Nat.exists_eq_add_of_le' enough
  rw [Function.iterate_add_apply]
  exact Function.iterate_fixed (step_run s) more

/-- What every step keeps, the run keeps. -/
theorem run_kept {P : σ → Prop} (kept : ∀ s, P s → P (D.step s)) (start : P s) : P (D.run s) := by
  rw [run]
  induction D.rank s generalizing s with
  | zero => exact start
  | succ n ih => exact ih (kept s start)

theorem run_step (s : σ) : D.run (D.step s) = D.run s := by
  rcases D.descends s with rest | less
  · rw [rest]
  · obtain ⟨m, rank⟩ := Nat.exists_eq_succ_of_ne_zero (Nat.ne_zero_of_lt less)
    have enough : D.rank (D.step s) ≤ m := by omega
    rw [← iterate_eq_run enough, ← Function.iterate_succ_apply, ← rank]
    rfl

end Descent
