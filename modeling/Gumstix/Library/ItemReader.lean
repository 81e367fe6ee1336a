import Mathlib.Data.List.Infix

/-!
# Reading items from a list

A list is broken at the first occurrence of a delimiter. A reader takes one item from the front
of a list, and every item takes something; reading is repeated until no item is in front.
-/

namespace ItemReader

section delimiter
variable {α : Type*} [DecidableEq α] {delimiter front rest l : List α}

/-- What stands before the first occurrence of a delimiter, and what stands after it. -/
def breakAt (delimiter : List α) : List α → Option (List α × List α)
  | [] => none
  | a :: l =>
      if delimiter <+: a :: l then some ([], (a :: l).drop delimiter.length)
      else (breakAt delimiter l).map fun cut => (a :: cut.1, cut.2)

/-- The first delimiter is found if its first element is not in front of it. -/
theorem breakAt_append {d : α} (free : d ∉ front) (delimiter rest : List α) :
    breakAt (d :: delimiter) (front ++ d :: delimiter ++ rest) = some (front, rest) := by
  induction front with
  | nil =>
      have found : d :: delimiter <+: d :: (delimiter ++ rest) := List.prefix_append (d :: _) rest
      change breakAt (d :: delimiter) (d :: (delimiter ++ rest)) = _
      rw [breakAt, if_pos found, ← List.cons_append, List.drop_left]
  | cons a front ih =>
      rw [List.mem_cons, not_or] at free
      have other : ¬ d :: delimiter <+: a :: (front ++ d :: delimiter ++ rest) :=
        fun found => free.1 (List.cons_prefix_cons.mp found).1
      change breakAt (d :: delimiter) (a :: (front ++ d :: delimiter ++ rest)) = _
      rw [breakAt, if_neg other, ih free.2]
      rfl

theorem eq_of_breakAt (found : breakAt delimiter l = some (front, rest)) :
    l = front ++ delimiter ++ rest := by
  induction l generalizing front with
  | nil => cases found
  | cons a l ih =>
      rw [breakAt] at found
      split at found
      · next here =>
          obtain ⟨rfl, rfl⟩ := Prod.mk.inj (Option.some.inj found)
          exact (List.prefix_iff_eq_append.mp here).symm
      · obtain ⟨⟨front', rest'⟩, later, same⟩ := Option.map_eq_some_iff.mp found
        obtain ⟨rfl, rfl⟩ := Prod.mk.inj same
        exact congrArg (a :: ·) (ih later)

end delimiter

section front
variable {α : Type*} {p : α → Bool} {front : List α} {a : α}

/-- A front that satisfies `p`, up to an element that does not. -/
theorem takeWhile_front (inside : ∀ b ∈ front, p b = true) (outside : p a = false)
    (rest : List α) : (front ++ a :: rest).takeWhile p = front := by
  have stop : ¬ p a = true := by rw [outside]; exact Bool.false_ne_true
  rw [List.takeWhile_append_of_pos inside, List.takeWhile_cons_of_neg stop, List.append_nil]

theorem dropWhile_front (inside : ∀ b ∈ front, p b = true) (outside : p a = false)
    (rest : List α) : (front ++ a :: rest).dropWhile p = a :: rest := by
  have stop : ¬ p a = true := by rw [outside]; exact Bool.false_ne_true
  rw [List.dropWhile_append_of_pos inside, List.dropWhile_cons_of_neg stop]

/-- A list that contains the element, cut out of the front of a list, contains all up to its first
occurrence. -/
theorem front_of_append {l more rest : List α} (mem : a ∈ l) (first : a ∉ front)
    (whole : l ++ more = front ++ a :: rest) :
    ∃ rest', l = front ++ a :: rest' ∧ rest = rest' ++ more := by
  rcases List.append_eq_append_iff.mp whole with ⟨short, rfl, -⟩ | ⟨tail, rfl, same⟩
  · exact absurd (List.mem_append_left short mem) first
  · cases tail with
    | nil => exact absurd (List.append_nil front ▸ mem) first
    | cons b tail =>
        obtain ⟨rfl, rfl⟩ := List.cons.inj same
        exact ⟨tail, rfl, rfl⟩

end front

/-- A reader takes one item from the front of a list, or finds none there. -/
structure Reader (α β : Type*) where
  read : List α → Option (β × List α)
  shorter : ∀ {l : List α} {b : β} {rest : List α}, read l = some (b, rest) →
    rest.length < l.length

namespace Reader
variable {α β γ : Type*} (r : Reader α β)

def readUpTo : Nat → List α → List β × List α
  | 0, l => ([], l)
  | n + 1, l =>
      match r.read l with
      | none => ([], l)
      | some (b, rest) => (b :: (readUpTo n rest).1, (readUpTo n rest).2)

/-- All items in front of a list, and what is left after them. -/
def all (l : List α) : List β × List α := r.readUpTo l.length l

variable {r} {l rest : List α} {b : β}

/-- As many readings as there are elements are enough. -/
theorem readUpTo_eq_all {n : Nat} (enough : l.length ≤ n) : r.readUpTo n l = r.all l := by
  suffices same : ∀ m, l.length ≤ m → r.readUpTo n l = r.readUpTo m l from same _ le_rfl
  induction n generalizing l with
  | zero =>
      intro m _
      obtain rfl : l = [] := List.eq_nil_of_length_eq_zero (Nat.le_zero.mp enough)
      cases m with
      | zero => rfl
      | succ m =>
          cases found : r.read [] with
          | none => rw [readUpTo, readUpTo, found]
          | some item => exact absurd (r.shorter found) (Nat.not_lt_zero _)
  | succ n ih =>
      intro m enough'
      cases found : r.read l with
      | none => cases m <;> simp only [readUpTo, found]
      | some item =>
          obtain ⟨b, rest⟩ := item
          have less := r.shorter found
          cases m with
          | zero => exact absurd (Nat.lt_of_lt_of_le less enough') (Nat.not_lt_zero _)
          | succ m =>
              have later := ih (l := rest) (by omega) m (by omega)
              simp only [readUpTo, found, later]

theorem all_of_none (none : r.read l = none) : r.all l = ([], l) := by
  rw [← readUpTo_eq_all (Nat.le_succ _), readUpTo, none]

theorem all_of_some (found : r.read l = some (b, rest)) :
    r.all l = (b :: (r.all rest).1, (r.all rest).2) := by
  have enough : rest.length ≤ l.length := (r.shorter found).le
  rw [← readUpTo_eq_all (Nat.le_succ _), readUpTo, found]
  dsimp only
  rw [readUpTo_eq_all enough]

theorem length_left_le (l : List α) : (r.all l).2.length ≤ l.length := by
  induction size : l.length using Nat.strong_induction_on generalizing l with
  | h n ih =>
      cases found : r.read l with
      | none => rw [all_of_none found, size]
      | some item =>
          obtain ⟨b, rest⟩ := item
          have less := r.shorter found
          have later := ih _ (size ▸ less) rest rfl
          rw [all_of_some found]
          exact later.trans (size ▸ less.le)

/-- Items that are written one after the other are read in their order. -/
theorem all_flatMap {write : γ → List α} {value : γ → β} {items : List γ}
    (reads : ∀ c ∈ items, ∀ rest, r.read (write c ++ rest) = some (value c, rest))
    (stop : r.read rest = none) :
    r.all (items.flatMap write ++ rest) = (items.map value, rest) := by
  induction items with
  | nil => exact all_of_none stop
  | cons c items ih =>
      have later := ih fun c' mem => reads c' (List.mem_cons_of_mem c mem)
      rw [List.flatMap_cons, List.append_assoc, all_of_some (reads c List.mem_cons_self _), later,
        List.map_cons]

end Reader

end ItemReader
