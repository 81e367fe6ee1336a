import Mathlib.Data.BitVec
import Mathlib.Data.List.Basic
import Mathlib.Data.List.DropRight

/-!
# Text in octets

The characters that line ends, blanks and decimal numbers are made of, in ASCII.
-/

namespace OctetText

abbrev Octet := BitVec 8

/-- The octets of an ASCII text. -/
def octets (text : String) : List Octet := text.toList.map fun c => BitVec.ofNat 8 c.toNat

def cr : Octet := 0x0D
def lf : Octet := 0x0A
def crlf : List Octet := [cr, lf]

def isDigit (b : Octet) : Bool := 0x30 ≤ b && b ≤ 0x39

/-- White space, line ends included. -/
def isSpace (b : Octet) : Bool := b = 0x20 || (0x09 ≤ b && b ≤ 0x0D)

def notSpace (b : Octet) : Bool := !isSpace b

/-- A space or a tabulator. -/
def isBlank (b : Octet) : Bool := b = 0x20 || b = 0x09

def toLower (b : Octet) : Octet := if 0x41 ≤ b && b ≤ 0x5A then b + 0x20 else b

def trimBlanks (l : List Octet) : List Octet := (l.dropWhile isBlank).rdropWhile isBlank

theorem trimBlanks_of_notBlank {l : List Octet} (plain : ∀ b ∈ l, isBlank b = false) :
    trimBlanks l = l := by
  have kept : l.dropWhile isBlank = l := by
    rw [List.dropWhile_eq_self_iff]
    intro pos blank
    exact absurd blank (by rw [plain _ (List.getElem_mem pos)]; exact Bool.false_ne_true)
  rw [trimBlanks, kept, List.rdropWhile_eq_self_iff]
  intro nonempty blank
  exact absurd blank (by rw [plain _ (List.getLast_mem nonempty)]; exact Bool.false_ne_true)

def digitsValue (digits : List Octet) : Nat :=
  digits.foldl (fun n b => 10 * n + (b.toNat - 0x30)) 0

/-- The decimal digits of a number. -/
def decimal (n : Nat) : List Octet := octets (toString n)

theorem decimal_eq (n : Nat) :
    decimal n = (Nat.toDigits 10 n).map fun c => BitVec.ofNat 8 c.toNat := by
  rw [decimal, octets]
  change (Nat.repr n).toList.map _ = _
  rw [Nat.toList_repr]

theorem decimal_ne_nil (n : Nat) : decimal n ≠ [] := by
  rw [decimal_eq]
  exact fun none => Nat.toDigits_ne_nil (List.map_eq_nil_iff.mp none)

/-- The code of a digit fits into an octet. -/
theorem digit_code {c : Char} (digit : c.isDigit = true) :
    (0x30 ≤ c.toNat ∧ c.toNat ≤ 0x39) ∧ (BitVec.ofNat 8 c.toNat).toNat = c.toNat := by
  have range : 0x30 ≤ c.toNat ∧ c.toNat ≤ 0x39 := by
    rw [Char.isDigit, Bool.and_eq_true, decide_eq_true_iff, decide_eq_true_iff] at digit
    exact digit
  rw [BitVec.toNat_ofNat, Nat.mod_eq_of_lt (by omega)]
  exact ⟨range, rfl⟩

theorem isDigit_of_mem_decimal {n : Nat} {b : Octet} (mem : b ∈ decimal n) : isDigit b = true := by
  rw [decimal_eq] at mem
  obtain ⟨c, char, rfl⟩ := List.mem_map.mp mem
  obtain ⟨range, code⟩ := digit_code (Nat.isDigit_of_mem_toDigits (by decide) (by decide) char)
  rw [isDigit, Bool.and_eq_true, decide_eq_true_iff, decide_eq_true_iff, BitVec.le_def,
    BitVec.le_def, code]
  exact range

theorem digitsValue_decimal (n : Nat) : digitsValue (decimal n) = n := by
  have value : ∀ (chars : List Char) (init : Nat), (∀ c ∈ chars, c.isDigit = true) →
      (chars.map fun c => BitVec.ofNat 8 c.toNat).foldl
        (fun n (b : Octet) => 10 * n + (b.toNat - 0x30)) init =
      Nat.ofDigitChars 10 chars init := by
    intro chars
    induction chars with
    | nil => exact fun init _ => rfl
    | cons c chars ih =>
        intro init digits
        have code := (digit_code (digits c List.mem_cons_self)).2
        rw [List.map_cons, List.foldl_cons, code, Nat.ofDigitChars_cons]
        exact ih _ fun c' mem => digits c' (List.mem_cons_of_mem c mem)
  have digits : ∀ c ∈ Nat.toDigits 10 n, c.isDigit = true :=
    fun c mem => Nat.isDigit_of_mem_toDigits (by decide) (by decide) mem
  rw [digitsValue, decimal_eq, value _ _ digits, Nat.ofDigitChars_ten_toDigits]

/-- Digits are neither spaces nor line ends. -/
theorem digit_plain : ∀ b : Octet, isDigit b = true → isSpace b = false ∧ isBlank b = false := by
  decide

end OctetText
