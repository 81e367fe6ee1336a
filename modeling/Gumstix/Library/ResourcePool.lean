import Mathlib.Data.List.Nodup
import Mathlib.Logic.Function.Basic

/-!
# Pools of resources

A pool records which holder has which resource and, on a list of its own, what is in use. It is
sound when the two agree and nothing has two holders. Taking a resource that is not in use and
giving back whatever a holder has keep a pool sound.
-/

/-- A holder has one resource at most. -/
structure ResourcePool (κ ν : Type*) where
  held : κ → Option ν
  inUse : List ν

namespace ResourcePool
variable {κ ν : Type*} {p : ResourcePool κ ν}

variable (p) in
structure Sound : Prop where
  nodup : p.inUse.Nodup
  mem_inUse : ∀ v, v ∈ p.inUse ↔ ∃ k, p.held k = some v
  unique : ∀ k k' v, p.held k = some v → p.held k' = some v → k = k'

/-- A pool of which nobody holds anything. -/
theorem sound_empty : (⟨fun _ => none, []⟩ : ResourcePool κ ν).Sound where
  nodup := List.nodup_nil
  mem_inUse _ := iff_of_false List.not_mem_nil fun ⟨_, held⟩ => nomatch held
  unique _ _ _ held := nomatch held

/-- Nothing is in use when nobody holds anything. -/
theorem Sound.inUse_eq_nil (h : p.Sound) (none : ∀ k, p.held k = none) : p.inUse = [] := by
  refine List.eq_nil_iff_forall_not_mem.mpr fun v used => ?_
  obtain ⟨k, held⟩ := (h.mem_inUse v).mp used
  rw [none k] at held
  cases held

variable [DecidableEq κ] {k j : κ} {v : ν}

def take (p : ResourcePool κ ν) (k : κ) (v : ν) : ResourcePool κ ν :=
  ⟨Function.update p.held k (some v), v :: p.inUse⟩

theorem held_take_self : (p.take k v).held k = some v := Function.update_self ..

theorem held_take_of_ne (other : j ≠ k) : (p.take k v).held j = p.held j :=
  Function.update_of_ne other ..

/-- A holder without a resource takes one that is not in use. -/
theorem Sound.take (h : p.Sound) (without : p.held k = none) (unused : v ∉ p.inUse) :
    (p.take k v).Sound := by
  have notHeld : ∀ j, p.held j ≠ some v := fun j held => unused ((h.mem_inUse v).mpr ⟨j, held⟩)
  have cases_held : ∀ j w, (p.take k v).held j = some w → j = k ∧ w = v ∨
      j ≠ k ∧ w ≠ v ∧ p.held j = some w := by
    intro j w held
    by_cases same : j = k
    · subst same
      exact .inl ⟨rfl, Option.some.inj (held.symm.trans held_take_self)⟩
    · rw [held_take_of_ne same] at held
      exact .inr ⟨same, fun isV => notHeld j (isV ▸ held), held⟩
  refine ⟨List.nodup_cons.mpr ⟨unused, h.nodup⟩, fun w => ⟨fun used => ?_, ?_⟩, ?_⟩
  · rcases List.mem_cons.mp used with rfl | used
    · exact ⟨k, held_take_self⟩
    · obtain ⟨j, held⟩ := (h.mem_inUse w).mp used
      have other : j ≠ k := by
        rintro rfl
        rw [without] at held
        cases held
      exact ⟨j, (held_take_of_ne other).trans held⟩
  · rintro ⟨j, held⟩
    rcases cases_held j w held with ⟨-, rfl⟩ | ⟨-, -, held⟩
    · exact List.mem_cons_self
    · exact List.mem_cons_of_mem _ ((h.mem_inUse w).mpr ⟨j, held⟩)
  · intro i j w held held'
    rcases cases_held i w held with ⟨rfl, isV⟩ | ⟨-, notV, held⟩ <;>
      rcases cases_held j w held' with ⟨rfl, isV'⟩ | ⟨-, notV', held'⟩
    · rfl
    · exact absurd isV notV'
    · exact absurd isV' notV
    · exact h.unique i j w held held'

variable [DecidableEq ν]

/-- What is in use after a resource, if any, has come back. -/
def freed (inUse : List ν) : Option ν → List ν
  | none => inUse
  | some v => inUse.erase v

def give (p : ResourcePool κ ν) (k : κ) : ResourcePool κ ν :=
  ⟨Function.update p.held k none, freed p.inUse (p.held k)⟩

theorem held_give_self : (p.give k).held k = none := Function.update_self ..

theorem held_give_of_ne (other : j ≠ k) : (p.give k).held j = p.held j :=
  Function.update_of_ne other ..

theorem inUse_give (held : p.held k = some v) : (p.give k).inUse = p.inUse.erase v :=
  congrArg (freed p.inUse) held

theorem give_of_none (without : p.held k = none) : p.give k = p := by
  rw [give, without]
  exact congrArg (fun held => ResourcePool.mk held p.inUse)
    ((congrArg _ without.symm).trans (Function.update_eq_self k p.held))

theorem Sound.give (h : p.Sound) (k : κ) : (p.give k).Sound := by
  cases isHeld : p.held k with
  | none =>
      rw [give_of_none isHeld]
      exact h
  | some v =>
      have old : ∀ j w, (p.give k).held j = some w → j ≠ k ∧ p.held j = some w := by
        intro j w held
        have other : j ≠ k := by
          rintro rfl
          rw [held_give_self] at held
          cases held
        exact ⟨other, (held_give_of_ne other).symm.trans held⟩
      refine ⟨inUse_give isHeld ▸ h.nodup.erase v, fun w => ?_, fun i j w held held' =>
        h.unique i j w (old i w held).2 (old j w held').2⟩
      rw [inUse_give isHeld, h.nodup.mem_erase_iff, h.mem_inUse w]
      constructor
      · rintro ⟨notV, j, held⟩
        have other : j ≠ k := by
          rintro rfl
          exact notV (Option.some.inj (held.symm.trans isHeld))
        exact ⟨j, (held_give_of_ne other).trans held⟩
      · rintro ⟨j, held⟩
        obtain ⟨other, held⟩ := old j w held
        refine ⟨fun isV => other (h.unique j k w held (isHeld.trans ?_)), j, held⟩
        rw [isV]

end ResourcePool
