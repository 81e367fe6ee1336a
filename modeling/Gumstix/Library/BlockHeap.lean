import Mathlib.Logic.Function.Basic

/-!
# Heaps of allocated blocks

A heap numbers its blocks in the order of their allocation and keeps, for each of them, its
content and how often it has been freed. A block that has been freed is not handed out
again, so that a second free and an access after the free stay visible.
-/

structure Block (α : Type*) where
  content : α
  frees : Nat

structure BlockHeap (α : Type*) where
  blocks : List (Block α)

namespace BlockHeap
variable {α : Type*} (h : BlockHeap α)

/-- The number that the next block gets. -/
def fresh : Nat := h.blocks.length

def alloc (x : α) : BlockHeap α := ⟨h.blocks ++ [⟨x, 0⟩]⟩

def free (i : Nat) : BlockHeap α :=
  ⟨h.blocks.modify i fun b => { b with frees := b.frees + 1 }⟩

/-- A free through a pointer; that of a null pointer does nothing. -/
def freeAt : Option Nat → BlockHeap α
  | none => h
  | some i => h.free i

def update (i : Nat) (f : α → α) : BlockHeap α :=
  ⟨h.blocks.modify i fun b => { b with content := f b.content }⟩

def frees (i : Nat) : Option Nat := h.blocks[i]?.map Block.frees

def content (i : Nat) : Option α := h.blocks[i]?.map Block.content

/-- Allocated and not freed. -/
def Live (i : Nat) : Prop := h.frees i = some 0

def FreedOnce (i : Nat) : Prop := h.frees i = some 1

instance (i : Nat) : Decidable (h.Live i) := inferInstanceAs (Decidable (_ = _))

instance (i : Nat) : Decidable (h.FreedOnce i) := inferInstanceAs (Decidable (_ = _))

variable {h}

theorem Live.lt_fresh {i : Nat} (live : h.Live i) : i < h.fresh := by
  obtain ⟨b, found, -⟩ := Option.map_eq_some_iff.mp live
  exact (List.getElem?_eq_some_iff.mp found).1

@[simp] theorem fresh_alloc (x : α) : (h.alloc x).fresh = h.fresh + 1 := by
  simp [fresh, alloc]

theorem frees_alloc_fresh (x : α) : (h.alloc x).frees h.fresh = some 0 := by
  simp [frees, alloc, fresh]

theorem content_alloc_fresh (x : α) : (h.alloc x).content h.fresh = some x := by
  simp [content, alloc, fresh]

theorem frees_alloc {i : Nat} (old : i < h.fresh) (x : α) : (h.alloc x).frees i = h.frees i := by
  rw [frees, alloc, List.getElem?_append_left old, frees]

theorem content_alloc {i : Nat} (old : i < h.fresh) (x : α) :
    (h.alloc x).content i = h.content i := by
  rw [content, alloc, List.getElem?_append_left old, content]

theorem live_alloc_fresh (x : α) : (h.alloc x).Live h.fresh := frees_alloc_fresh x

theorem Live.alloc {i : Nat} (live : h.Live i) (x : α) : (h.alloc x).Live i :=
  (frees_alloc live.lt_fresh x).trans live

@[simp] theorem fresh_free (i : Nat) : (h.free i).fresh = h.fresh := by
  simp [fresh, free]

theorem frees_free_self (i : Nat) : (h.free i).frees i = (h.frees i).map (· + 1) := by
  simp [frees, free, Option.map_map, Function.comp_def]

theorem frees_free_of_ne {i j : Nat} (other : i ≠ j) : (h.free i).frees j = h.frees j := by
  simp [frees, free, other]

@[simp] theorem fresh_freeAt (p : Option Nat) : (h.freeAt p).fresh = h.fresh := by
  cases p with
  | none => rfl
  | some i => exact fresh_free i

theorem Live.free {i j : Nat} (live : h.Live j) (other : i ≠ j) : (h.free i).Live j :=
  (frees_free_of_ne other).trans live

/-- A block that has just been freed is not live. -/
theorem not_live_free (i : Nat) : ¬ (h.free i).Live i := by
  rw [Live, frees_free_self, Option.map_eq_some_iff]
  rintro ⟨n, -, impossible⟩
  exact Nat.succ_ne_zero n impossible

theorem Live.freedOnce {i : Nat} (live : h.Live i) : (h.free i).FreedOnce i := by
  rw [FreedOnce, frees_free_self, show h.frees i = some 0 from live]
  rfl

theorem FreedOnce.free {i j : Nat} (once : h.FreedOnce j) (other : i ≠ j) :
    (h.free i).FreedOnce j := (frees_free_of_ne other).trans once

theorem FreedOnce.freeAt {p : Option Nat} {j : Nat} (once : h.FreedOnce j) (other : p ≠ some j) :
    (h.freeAt p).FreedOnce j := by
  cases p with
  | none => exact once
  | some i => exact once.free fun same => other (congrArg some same)

@[simp] theorem fresh_update (i : Nat) (f : α → α) : (h.update i f).fresh = h.fresh := by
  simp [fresh, update]

@[simp] theorem frees_update (i j : Nat) (f : α → α) : (h.update i f).frees j = h.frees j := by
  by_cases same : i = j
  · simp [frees, update, same, Option.map_map, Function.comp_def]
  · simp [frees, update, same]

theorem content_update_self (i : Nat) (f : α → α) :
    (h.update i f).content i = (h.content i).map f := by
  simp [content, update, Option.map_map, Function.comp_def]

theorem content_update_of_ne {i j : Nat} (other : i ≠ j) (f : α → α) :
    (h.update i f).content j = h.content j := by
  simp [content, update, other]

variable (h) in
/-- The blocks of the list are live and all others have been freed once. -/
structure Accounts (l : List Nat) : Prop where
  nodup : l.Nodup
  live : ∀ i ∈ l, h.Live i
  freed : ∀ i < h.fresh, i ∉ l → h.FreedOnce i

theorem accounts_nil : (⟨[]⟩ : BlockHeap α).Accounts [] where
  nodup := List.nodup_nil
  live _ member := nomatch member
  freed _ old := absurd old (Nat.not_lt_zero _)

theorem Accounts.alloc {l : List Nat} (a : h.Accounts l) (x : α) :
    (h.alloc x).Accounts (h.fresh :: l) where
  nodup := List.nodup_cons.mpr ⟨fun member => Nat.lt_irrefl _ (a.live _ member).lt_fresh, a.nodup⟩
  live i member := by
    rcases List.mem_cons.mp member with rfl | member
    · exact live_alloc_fresh x
    · exact (a.live i member).alloc x
  freed i old other := by
    rw [List.mem_cons, not_or] at other
    rw [fresh_alloc] at old
    have old : i < h.fresh := Nat.lt_of_le_of_ne (Nat.le_of_lt_succ old) other.1
    exact (frees_alloc old x).trans (a.freed i old other.2)

theorem Accounts.free {l : List Nat} (a : h.Accounts l) {i : Nat} (member : i ∈ l) :
    (h.free i).Accounts (l.erase i) where
  nodup := a.nodup.erase i
  live j needed := by
    rw [a.nodup.mem_erase_iff] at needed
    exact (a.live j needed.2).free needed.1.symm
  freed j old other := by
    rw [a.nodup.mem_erase_iff, not_and] at other
    by_cases same : j = i
    · subst same
      exact (a.live j member).freedOnce
    · rw [fresh_free] at old
      exact (a.freed j old (other same)).free (Ne.symm same)

/-- No list accounts for a block that has been freed twice. -/
theorem Accounts.not_of_frees {l : List Nat} {i n : Nat} (twice : h.frees i = some (n + 2)) :
    ¬ h.Accounts l := by
  intro a
  by_cases member : i ∈ l
  · have live : h.frees i = some 0 := a.live i member
    rw [twice] at live
    exact absurd (Option.some.inj live) (by omega)
  · have old : i < h.fresh := by
      obtain ⟨b, found, -⟩ := Option.map_eq_some_iff.mp twice
      exact (List.getElem?_eq_some_iff.mp found).1
    have once : h.frees i = some 1 := a.freed i old member
    rw [twice] at once
    exact absurd (Option.some.inj once) (by omega)

end BlockHeap
