import Gumstix.Library.ItemReader
import Gumstix.Library.OctetText

/-!
# Character streams

The input and output streams of C++ on a buffer of octets, with the two state bits that tell
whether the end of the buffer has been met and whether an operation has failed.
-/

namespace CharacterStreams
open ItemReader OctetText

/-- What is left in the buffer, and the state of the stream. -/
structure InputStream where
  buffer : List Octet
  eofbit : Bool
  failbit : Bool
  deriving DecidableEq

namespace InputStream

/-- A new stream on a buffer. -/
def attach (buffer : List Octet) : InputStream := ⟨buffer, false, false⟩

section operations
variable (s : InputStream)

def good : Bool := !s.eofbit && !s.failbit

/-- What a formatted extraction does first. -/
def skipSpace : InputStream :=
  if s.good then
    let rest := s.buffer.dropWhile isSpace
    if rest = [] then ⟨[], true, true⟩ else { s with buffer := rest }
  else { s with failbit := true }

/-- Extraction of a string. -/
def extractWord : List Octet × InputStream :=
  let s := s.skipSpace
  if s.failbit then ([], s)
  else
    let word := s.buffer.takeWhile notSpace
    let rest := s.buffer.dropWhile notSpace
    (word, ⟨rest, rest = [], word = []⟩)

/-- A sign, and what follows it. -/
def splitSign : List Octet → Bool × List Octet
  | 0x2D :: digits => (true, digits)
  | 0x2B :: digits => (false, digits)
  | digits => (false, digits)

/-- Extraction of an unsigned integer of 32 bits, `none` if the variable is not written. A number
that is too large is an error and leaves the largest one; a minus sign negates modulo `2 ^ 32`. -/
def extractUnsigned : Option (BitVec 32) × InputStream :=
  let s := s.skipSpace
  if s.failbit then (none, s)
  else
    let sign := splitSign s.buffer
    let digits := sign.2.takeWhile isDigit
    let rest := sign.2.dropWhile isDigit
    let value := BitVec.ofNat 32 (digitsValue digits)
    let large := decide (2 ^ 32 ≤ digitsValue digits)
    (some (if large then -1 else if sign.1 then -value else value),
      ⟨rest, rest = [], digits = [] || large⟩)

/-- A line without its line feed. At the end of the buffer the last line may have none. -/
def getline : List Octet × InputStream :=
  if s.good then
    match breakAt [lf] s.buffer with
    | some (line, rest) => (line, { s with buffer := rest })
    | none => (s.buffer, ⟨[], true, s.buffer = []⟩)
  else ([], { s with failbit := true })

end operations

theorem skipSpace_attach {buffer : List Octet} {b : Octet} (plain : isSpace b = false) :
    (attach (b :: buffer)).skipSpace = attach (b :: buffer) := by
  have kept : (b :: buffer).dropWhile isSpace = b :: buffer :=
    List.dropWhile_cons_of_neg (by rw [plain]; exact Bool.false_ne_true)
  change (if (b :: buffer).dropWhile isSpace = [] then _ else
    attach ((b :: buffer).dropWhile isSpace)) = _
  rw [kept, if_neg (List.cons_ne_nil b buffer)]

theorem skipSpace_space {buffer : List Octet} {b : Octet} (space : isSpace b = true) :
    (attach (b :: buffer)).skipSpace = (attach buffer).skipSpace := by
  have dropped : (b :: buffer).dropWhile isSpace = buffer.dropWhile isSpace :=
    List.dropWhile_cons_of_pos space
  change (if (b :: buffer).dropWhile isSpace = [] then _ else
    attach ((b :: buffer).dropWhile isSpace)) = _
  rw [dropped]
  rfl

/-- A word that a space ends is extracted whatever follows the space. -/
theorem extractWord_append {word : List Octet} (nonempty : word ≠ [])
    (plain : ∀ b ∈ word, isSpace b = false) {b : Octet} (space : isSpace b = true)
    (rest : List Octet) :
    (attach (word ++ b :: rest)).extractWord = (word, attach (b :: rest)) := by
  have skipped : (attach (word ++ b :: rest)).skipSpace = attach (word ++ b :: rest) := by
    obtain ⟨c, word, rfl⟩ := List.exists_cons_of_ne_nil nonempty
    exact skipSpace_attach (plain c List.mem_cons_self)
  have inWord : ∀ c ∈ word, notSpace c = true := fun c mem => by rw [notSpace, plain c mem]; rfl
  have ends : notSpace b = false := by rw [notSpace, space]; rfl
  rw [extractWord, skipped]
  change ((word ++ b :: rest).takeWhile notSpace, (⟨(word ++ b :: rest).dropWhile notSpace,
    (word ++ b :: rest).dropWhile notSpace = [],
    (word ++ b :: rest).takeWhile notSpace = []⟩ : InputStream)) = _
  rw [takeWhile_front inWord ends, dropWhile_front inWord ends,
    decide_eq_false (List.cons_ne_nil b rest), decide_eq_false nonempty]
  rfl

theorem splitSign_of_digit {b : Octet} (digit : isDigit b = true) (rest : List Octet) :
    splitSign (b :: rest) = (false, b :: rest) := by
  have noSign : ∀ b : Octet, isDigit b = true → b ≠ 0x2D ∧ b ≠ 0x2B := by decide
  rw [splitSign]
  · exact fun _ same => (noSign b digit).1 (List.cons.inj same).1
  · exact fun _ same => (noSign b digit).2 (List.cons.inj same).1

/-- A decimal number between a space and another octet than a digit. -/
theorem extractUnsigned_decimal {n : Nat} (small : n < 2 ^ 32) {b : Octet}
    (ends : isDigit b = false) (rest : List Octet) :
    (attach (0x20 :: (decimal n ++ b :: rest))).extractUnsigned =
      (some (BitVec.ofNat 32 n), attach (b :: rest)) := by
  obtain ⟨d, digits, same⟩ := List.exists_cons_of_ne_nil (decimal_ne_nil n)
  have allDigits : ∀ c ∈ decimal n, isDigit c = true := fun c mem => isDigit_of_mem_decimal mem
  have first : isDigit d = true := allDigits d (same ▸ List.mem_cons_self)
  have skipped : (attach (0x20 :: (decimal n ++ b :: rest))).skipSpace =
      attach (decimal n ++ b :: rest) := by
    rw [skipSpace_space rfl, same]
    exact skipSpace_attach (digit_plain d first).1
  have unsigned : splitSign (decimal n ++ b :: rest) = (false, decimal n ++ b :: rest) := by
    rw [same]
    exact splitSign_of_digit first _
  have tooLarge : ¬ 2 ^ 32 ≤ n := Nat.not_le.mpr small
  rw [extractUnsigned, skipped]
  simp only [attach, Bool.false_eq_true, if_false, unsigned, takeWhile_front allDigits ends,
    dropWhile_front allDigits ends, digitsValue_decimal, decide_eq_false tooLarge,
    decide_eq_false (List.cons_ne_nil b rest), decide_eq_false (decimal_ne_nil n), Bool.or_self]

/-- A line that a line feed ends is extracted whatever follows the line feed. -/
theorem getline_append {line : List Octet} (free : lf ∉ line) (rest : List Octet) :
    (attach (line ++ lf :: rest)).getline = (line, attach rest) := by
  have found : breakAt [lf] (line ++ lf :: rest) = some (line, rest) := by
    have cut := breakAt_append free [] rest
    rwa [List.append_assoc] at cut
  change (match breakAt [lf] (line ++ lf :: rest) with
    | some (line, rest) => (line, attach rest)
    | none => _) = _
  rw [found]

/-- A line that has been extracted has taken something from the buffer. -/
theorem getline_shorter {s : InputStream} (extracted : s.getline.2.failbit = false) :
    s.getline.2.buffer.length < s.buffer.length := by
  rw [getline] at extracted ⊢
  split at extracted
  · next good =>
      rw [if_pos good]
      cases cut : breakAt [lf] s.buffer with
      | none =>
          rw [cut] at extracted
          exact List.length_pos_iff.mpr (of_decide_eq_false extracted)
      | some parts =>
          obtain ⟨line, rest⟩ := parts
          have whole := congrArg List.length (eq_of_breakAt cut)
          rw [List.length_append, List.length_append, List.length_singleton] at whole
          change rest.length < _
          omega
  · exact absurd extracted (Bool.false_ne_true ∘ Eq.symm)

end InputStream

/-- What has been written, and whether an insertion has failed. -/
structure OutputStream where
  text : List Octet
  failbit : Bool
  deriving DecidableEq

namespace OutputStream
variable (s : OutputStream)

def put (text : List Octet) : OutputStream :=
  if s.failbit then s else { s with text := s.text ++ text }

/-- Insertion of a whole buffer, and what is left of it. Nothing to insert is a failure. -/
def putBuffer (buffer : List Octet) : OutputStream × List Octet :=
  if s.failbit then (s, buffer)
  else if buffer = [] then ({ s with failbit := true }, [])
  else ({ s with text := s.text ++ buffer }, [])

variable {s}

theorem put_nil (s : OutputStream) : s.put [] = s := by
  rw [put, List.append_nil, ite_self]

theorem put_put (first second : List Octet) :
    (s.put first).put second = s.put (first ++ second) := by
  cases failed : s.failbit with
  | true => simp only [put, failed, if_true]
  | false => simp only [put, failed, Bool.false_eq_true, if_false, List.append_assoc]

theorem put_of_good (good : s.failbit = false) (text : List Octet) :
    s.put text = ⟨s.text ++ text, false⟩ := by
  simp only [put, good, Bool.false_eq_true, if_false]

theorem putBuffer_of_good (good : s.failbit = false) {buffer : List Octet}
    (nonempty : buffer ≠ []) : s.putBuffer buffer = (⟨s.text ++ buffer, false⟩, []) := by
  simp only [putBuffer, good, Bool.false_eq_true, if_false, if_neg nonempty]

end OutputStream

end CharacterStreams
