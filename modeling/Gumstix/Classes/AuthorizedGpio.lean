import Gumstix.Classes.CGPIO

/-!
# The GPIOs that `CGPIO` may open

`Open` converts three characters of the path into a number and looks for it in a table of 64
slots. `SetAuthorizeGpio` writes 35 of them, and the array that the characters are copied to is
full, so that the conversion goes on in the bytes that follow it in memory.
-/
namespace Gumstix.Classes
open Gumstix.Synchronization (Word)
open Gumstix.Gpio

/-- The last decimal digit of a number, as a character. -/
def asciiDigit (n : Nat) : Byte := BitVec.ofNat 8 (0x30 + n % 10)

/-- `/dev/gpioNNN` -/
def gpioEntry (n : Nat) : List Byte :=
  asciiBytes "/dev/gpio" ++ [asciiDigit (n / 100), asciiDigit (n / 10), asciiDigit n]

/-- The arguments of the two constructors, without the path. -/
inductive CGpioArguments where
  | inputOutput (direction : Word) (defaultValue : Bool)
  | interrupt (activeEvent : Word)

/-- An object built in the given memory. -/
def cgpioBuilt (memory : Vector Word maxGpioNb) (devicePath : List Byte) : CGpioArguments → CGpio
  | .inputOutput direction defaultValue =>
      cgpioInputOutput memory devicePath direction defaultValue
  | .interrupt activeEvent => cgpioInterrupt memory devicePath activeEvent

/-- `Open` is not left by one of its two checks. -/
def GoesOnToOpen (o : CGpio) (d : GpioDriver) (following : List Byte) (k : OpenReplies) : Prop :=
  (cgpioOpen o d following k).1 ≠ -errCgpioOpenSpecifiedPath ∧
    (cgpioOpen o d following k).1 ≠ -errCgpioOpenGpioNotUseable

/-- The number is one of those that `SetAuthorizeGpio` stores. -/
def AuthorizedNumber (n : Nat) : Prop := BitVec.ofNat 32 n ∈ authorizedNumbers.map Prod.snd

instance (n : Nat) : Decidable (AuthorizedNumber n) := inferInstanceAs (Decidable (_ ∈ _))

/-- The number is left in a slot that `SetAuthorizeGpio` does not write. -/
def LeftInMemory (memory : Vector Word maxGpioNb) (n : Nat) : Prop :=
  ∃ i, ∃ h : i < maxGpioNb, i ∉ authorizedNumbers.map Prod.fst ∧ memory[i] = BitVec.ofNat 32 n

/-- The number that `NNN` and the digits that directly follow it form, if it is an `int`. -/
def continuedNumber (n : Nat) (following : List Byte) : Nat :=
  min (2 ^ 31 - 1) (readDigits n following)

/-- The first byte after the array is a digit. -/
def DigitFollows (following : List Byte) : Prop := ∃ b ∈ following.head?, isDigit b = true

/-- Memory does not disturb the check of `NNN`: no slot that is not written holds the number of
an unauthorized GPIO, and digits after the array neither lead away from an authorized number nor
to one. -/
structure CheckUndisturbed (memory : Vector Word maxGpioNb) (following : List Byte) (n : Nat) :
    Prop where
  slots : ¬ AuthorizedNumber n → ¬ LeftInMemory memory (continuedNumber n following)
  leadAway : AuthorizedNumber n → DigitFollows following →
    AuthorizedNumber (continuedNumber n following) ∨
      LeftInMemory memory (continuedNumber n following)
  leadTo : ¬ AuthorizedNumber n → DigitFollows following →
    ¬ AuthorizedNumber (continuedNumber n following)

section table
variable {l : List (Nat × Word)} {memory : Vector Word maxGpioNb} {i : Nat}

def storeAll (memory : Vector Word maxGpioNb) (l : List (Nat × Word)) : Vector Word maxGpioNb :=
  l.foldl (fun table (entry : Nat × Word) => table.setIfInBounds entry.1 entry.2) memory

theorem storeAll_of_notMem (h : i < maxGpioNb) (unwritten : i ∉ l.map Prod.fst) :
    (storeAll memory l)[i] = memory[i] := by
  induction l generalizing memory with
  | nil => rfl
  | cons entry l ih =>
      rw [List.map_cons, List.mem_cons, not_or] at unwritten
      change (storeAll (memory.setIfInBounds entry.1 entry.2) l)[i] = _
      rw [ih unwritten.2, Vector.getElem_setIfInBounds_ne h (Ne.symm unwritten.1)]

theorem storeAll_of_mem {w : Word} (h : i < maxGpioNb) (nodup : (l.map Prod.fst).Nodup)
    (written : (i, w) ∈ l) : (storeAll memory l)[i] = w := by
  induction l generalizing memory with
  | nil => exact absurd written List.not_mem_nil
  | cons entry l ih =>
      rw [List.map_cons, List.nodup_cons] at nodup
      change (storeAll (memory.setIfInBounds entry.1 entry.2) l)[i] = _
      rcases List.mem_cons.mp written with rfl | later
      · rw [storeAll_of_notMem h nodup.1, Vector.getElem_setIfInBounds_self]
      · exact ih nodup.2 later

end table

theorem setAuthorizeGpio_eq (memory : Vector Word maxGpioNb) :
    setAuthorizeGpio memory = storeAll memory authorizedNumbers := rfl

theorem authorizedNumbers_inBounds : ∀ entry ∈ authorizedNumbers, entry.1 < maxGpioNb := by
  decide

theorem authorizedNumbers_nodup : (authorizedNumbers.map Prod.fst).Nodup := by
  decide

/-- What the scan of the table finds. -/
theorem searchOnTable_iff (memory : Vector Word maxGpioNb) (n : Nat) :
    searchOnTable (setAuthorizeGpio memory) (BitVec.ofNat 32 n) = true ↔
      AuthorizedNumber n ∨ LeftInMemory memory n := by
  rw [searchOnTable, List.contains_iff_mem, Vector.mem_toList_iff, Vector.mem_iff_getElem,
    setAuthorizeGpio_eq]
  constructor
  · rintro ⟨i, h, found⟩
    by_cases written : i ∈ authorizedNumbers.map Prod.fst
    · obtain ⟨⟨j, w⟩, stored, rfl⟩ := List.mem_map.mp written
      rw [storeAll_of_mem h authorizedNumbers_nodup stored] at found
      exact .inl (List.mem_map.mpr ⟨(j, w), stored, found⟩)
    · rw [storeAll_of_notMem h written] at found
      exact .inr ⟨i, h, written, found⟩
  · rintro (authorized | ⟨i, h, unwritten, left⟩)
    · obtain ⟨⟨i, w⟩, stored, same⟩ := List.mem_map.mp authorized
      have h := authorizedNumbers_inBounds _ stored
      exact ⟨i, h, (storeAll_of_mem h authorizedNumbers_nodup stored).trans same⟩
    · exact ⟨i, h, (storeAll_of_notMem h unwritten).trans left⟩

theorem isDigit_asciiDigit (n : Nat) : isDigit (asciiDigit n) = true := by
  have all : ∀ d < 10, isDigit (BitVec.ofNat 8 (0x30 + d)) = true := by decide
  exact all _ (Nat.mod_lt n (by decide))

theorem toNat_asciiDigit (n : Nat) : (asciiDigit n).toNat - 0x30 = n % 10 := by
  have all : ∀ d < 10, (BitVec.ofNat 8 (0x30 + d)).toNat - 0x30 = d := by decide
  exact all _ (Nat.mod_lt n (by decide))

/-- A digit is neither a space nor a sign. -/
theorem digit_plain : ∀ b : Byte, isDigit b = true →
    isSpace b = false ∧ b ≠ 0x2D ∧ b ≠ 0x2B := by
  decide

theorem atoi_of_digit {b : Byte} (digit : isDigit b = true) (bytes : List Byte) :
    atoi (b :: bytes) = ((min (2 ^ 31 - 1) (readDigits 0 (b :: bytes)) : Nat) : Int) := by
  obtain ⟨notSpace, notMinus, notPlus⟩ := digit_plain b digit
  have kept : (b :: bytes).dropWhile isSpace = b :: bytes :=
    List.dropWhile_cons_of_neg (by rw [notSpace]; exact Bool.false_ne_true)
  rw [atoi, kept]
  split
  · next same => exact absurd (List.cons.inj same).1 notMinus
  · next same => exact absurd (List.cons.inj same).1 notPlus
  · omega

theorem readDigits_asciiDigit (m n : Nat) (bytes : List Byte) :
    readDigits m (asciiDigit n :: bytes) = readDigits (10 * m + n % 10) bytes := by
  rw [readDigits, if_pos (isDigit_asciiDigit n), toNat_asciiDigit]

theorem getuiGpioNum_gpioEntry {n : Nat} (small : n < 1000) (following : List Byte) :
    getuiGpioNum (gpioEntry n) following = BitVec.ofNat 32 (continuedNumber n following) := by
  have characters : (gpioEntry n).drop 9 = [asciiDigit (n / 100), asciiDigit (n / 10),
      asciiDigit n] := rfl
  have number : 10 * (10 * (10 * 0 + n / 100 % 10) + n / 10 % 10) + n % 10 = n := by omega
  rw [getuiGpioNum, characters]
  change BitVec.ofInt 32 (atoi (asciiDigit (n / 100) :: asciiDigit (n / 10) :: asciiDigit n ::
    following)) = _
  rw [atoi_of_digit (isDigit_asciiDigit _), readDigits_asciiDigit, readDigits_asciiDigit,
    readDigits_asciiDigit, number, BitVec.ofInt_natCast]
  rfl

/-- Without a digit after the array the number is that of the path. -/
theorem continuedNumber_of_not_digitFollows {n : Nat} (small : n < 1000) {following : List Byte}
    (none : ¬ DigitFollows following) : continuedNumber n following = n := by
  have stops : readDigits n following = n := by
    cases following with
    | nil => rfl
    | cons b bytes => exact if_neg fun digit => none ⟨b, rfl, digit⟩
  rw [continuedNumber, stops, min_eq_right (by omega)]

section check
variable (o : CGpio) (d : GpioDriver) (k : OpenReplies)

/-- The errors of the two checks. -/
def CheckError (ret : Int) : Prop :=
  ret = -errCgpioOpenSpecifiedPath ∨ ret = -errCgpioOpenGpioNotUseable

instance (ret : Int) : Decidable (CheckError ret) := inferInstanceAs (Decidable (_ ∨ _))

theorem openInputOutput_later : ¬ CheckError (openInputOutput o d k).1 := by
  unfold openInputOutput
  dsimp only
  split_ifs <;> dsimp only <;> decide

theorem openInterrupt_later : ¬ CheckError (openInterrupt o d k).1 := by
  unfold openInterrupt
  dsimp only
  split_ifs <;> dsimp only <;> decide

/-- `Open` goes on exactly when the number is found: no later error has the code of a check. -/
theorem goesOnToOpen_iff {o : CGpio} (path : o.gpioPath.take 9 = asciiBytes "/dev/gpio")
    (d : GpioDriver) (following : List Byte) (k : OpenReplies) :
    GoesOnToOpen o d following k ↔
      searchOnTable o.authorizedGpio (getuiGpioNum o.gpioPath following) = true := by
  rw [GoesOnToOpen, ← not_or]
  change ¬ CheckError (cgpioOpen o d following k).1 ↔ _
  unfold cgpioOpen
  rw [if_neg (not_not.mpr path)]
  cases useable : searchOnTable o.authorizedGpio (getuiGpioNum o.gpioPath following) with
  | false => exact iff_of_false (not_not.mpr (.inr rfl)) Bool.false_ne_true
  | true =>
      refine iff_of_true ?_ rfl
      rw [if_neg Bool.true_eq_false_eq_False]
      split
      · dsimp only
        decide
      · dsimp only
        split_ifs
        · dsimp only
          decide
        · exact openInputOutput_later _ _ k
        · exact openInterrupt_later _ _ k

end check

/-- For every path `/dev/gpioNNN`, `Open` goes on to open the device exactly for the authorized
numbers if and only if memory does not disturb the check. -/
theorem open_authorized_iff (memory : Vector Word maxGpioNb) (arguments : CGpioArguments)
    (n : Fin 1000) (d : GpioDriver) (following : List Byte) (k : OpenReplies) :
    (GoesOnToOpen (cgpioBuilt memory (gpioEntry n) arguments) d following k ↔
      AuthorizedNumber n) ↔ CheckUndisturbed memory following n := by
  have goesOn : GoesOnToOpen (cgpioBuilt memory (gpioEntry n) arguments) d following k ↔
      AuthorizedNumber (continuedNumber n following) ∨
        LeftInMemory memory (continuedNumber n following) := by
    rw [← searchOnTable_iff, ← getuiGpioNum_gpioEntry n.isLt]
    cases arguments with
    | inputOutput direction defaultValue => exact goesOnToOpen_iff rfl d following k
    | interrupt activeEvent => exact goesOnToOpen_iff rfl d following k
  have unchanged : ¬ DigitFollows following → continuedNumber n following = n :=
    continuedNumber_of_not_digitFollows n.isLt
  rw [goesOn]
  constructor
  · intro right
    exact ⟨fun unauthorized left => unauthorized (right.mp (.inr left)),
      fun authorized _ => right.mpr authorized,
      fun unauthorized _ led => unauthorized (right.mp (.inl led))⟩
  · intro undisturbed
    by_cases authorized : AuthorizedNumber n
    · refine iff_of_true ?_ authorized
      by_cases follows : DigitFollows following
      · exact undisturbed.leadAway authorized follows
      · rw [unchanged follows]
        exact .inl authorized
    · refine iff_of_false (not_or.mpr ⟨?_, undisturbed.slots authorized⟩) authorized
      by_cases follows : DigitFollows following
      · exact undisturbed.leadTo authorized follows
      · rw [unchanged follows]
        exact authorized

/-- In memory that was 0, slot 27 authorizes GPIO 0. -/
theorem open_authorized_refuted :
    ¬ ∀ (memory : Vector Word maxGpioNb) (arguments : CGpioArguments) (n : Fin 1000)
      (d : GpioDriver) (following : List Byte) (k : OpenReplies),
      GoesOnToOpen (cgpioBuilt memory (gpioEntry n) arguments) d following k ↔
        AuthorizedNumber n := by
  intro every
  have law := every (Vector.replicate _ 0) (.inputOutput inputDirection false) 0
    (gpioInitialize fun _ => 0) [0] ⟨.granted 0, .granted 0, .granted 0⟩
  have left : LeftInMemory (Vector.replicate _ 0) (continuedNumber 0 [0]) :=
    ⟨27, by decide, by decide, Vector.getElem_replicate _⟩
  have found := (searchOnTable_iff (Vector.replicate _ 0) (continuedNumber 0 [0])).mpr (.inr left)
  rw [← getuiGpioNum_gpioEntry (by decide)] at found
  exact absurd (law.mp ((goesOnToOpen_iff rfl _ _ _).mpr found)) (by decide)

end Gumstix.Classes
