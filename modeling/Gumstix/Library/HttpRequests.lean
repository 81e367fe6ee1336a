import Gumstix.Library.ItemReader
import Gumstix.Library.OctetText

/-!
# Requests of HTTP/1.1

A request is a request line, header lines up to an empty line, and as many octets of body as its
`Content-Length` says. Requests that follow one another are read in turn.
-/

namespace HttpRequests
open ItemReader OctetText

structure Field where
  name : List Octet
  value : List Octet
  deriving DecidableEq

structure Request where
  method : List Octet
  target : List Octet
  fields : List Field
  body : List Octet
  deriving DecidableEq

def takeLine (l : List Octet) : Option (List Octet × List Octet) := breakAt crlf l

theorem takeLine_append {line : List Octet} (free : cr ∉ line) (rest : List Octet) :
    takeLine (line ++ crlf ++ rest) = some (line, rest) := breakAt_append free [lf] rest

theorem takeLine_shorter {l line rest : List Octet} (found : takeLine l = some (line, rest)) :
    rest.length < l.length := by
  have length : crlf.length = 2 := rfl
  rw [eq_of_breakAt found, List.length_append, List.length_append, length]
  omega

/-- A reader of lines, which an empty line stops. -/
def lineReader : Reader Octet (List Octet) where
  read l := (takeLine l).filter fun cut => cut.1 ≠ []
  shorter found := takeLine_shorter (Option.filter_eq_some_iff.mp found).1

theorem lineReader_read (l : List Octet) :
    lineReader.read l = (takeLine l).filter fun cut => cut.1 ≠ [] := rfl

/-- The lines up to an empty one, and what follows it. -/
def takeLines (l : List Octet) : Option (List (List Octet) × List Octet) :=
  (takeLine (lineReader.all l).2).map fun cut => ((lineReader.all l).1, cut.2)

theorem takeLines_append {lines : List (List Octet)} (plain : ∀ line ∈ lines, line ≠ [] ∧ cr ∉ line)
    (rest : List Octet) :
    takeLines (lines.flatMap (· ++ crlf) ++ crlf ++ rest) = some (lines, rest) := by
  have empty : takeLine (crlf ++ rest) = some ([], rest) :=
    takeLine_append List.not_mem_nil rest
  have all : lineReader.all (lines.flatMap (· ++ crlf) ++ (crlf ++ rest)) =
      (lines.map id, crlf ++ rest) := by
    refine lineReader.all_flatMap (fun line mem rest' => ?_) ?_
    · rw [lineReader_read, takeLine_append (plain line mem).2]
      exact Option.filter_some_pos (decide_eq_true (plain line mem).1)
    · rw [lineReader_read, empty]
      rfl
  rw [List.append_assoc, takeLines, all]
  dsimp only
  rw [empty, List.map_id]
  rfl

theorem takeLines_shorter {l rest : List Octet} {lines : List (List Octet)}
    (found : takeLines l = some (lines, rest)) : rest.length < l.length := by
  obtain ⟨⟨line, rest'⟩, empty, same⟩ := Option.map_eq_some_iff.mp found
  obtain ⟨-, rfl⟩ := Prod.mk.inj same
  exact Nat.lt_of_lt_of_le (takeLine_shorter empty) (lineReader.length_left_le l)

/-- Method and target. -/
def readRequestLine (line : List Octet) : Option (List Octet × List Octet) := do
  let (method, line) ← breakAt [0x20] line
  let (target, version) ← breakAt [0x20] line
  if method ≠ [] ∧ version = octets "HTTP/1.1" then some (method, target) else none

def readField (line : List Octet) : Option Field := do
  let (name, value) ← breakAt [0x3A] line
  if name ≠ [] then some ⟨name, trimBlanks value⟩ else none

/-- Names are compared without regard to case. -/
def valueOf (name : String) (fields : List Field) : Option (List Octet) :=
  (fields.find? fun f => f.name.map toLower = octets name).map Field.value

def contentLength (fields : List Field) : Option Nat :=
  match valueOf "content-length" fields with
  | none => some 0
  | some digits => if digits ≠ [] ∧ digits.all isDigit then some (digitsValue digits) else none

def readRequest (l : List Octet) : Option (Request × List Octet) := do
  let (line, l) ← takeLine l
  let (method, target) ← readRequestLine line
  let (lines, l) ← takeLines l
  let fields ← lines.mapM readField
  let n ← contentLength fields
  if n ≤ l.length then some (⟨method, target, fields, l.take n⟩, l.drop n) else none

theorem readRequestLine_eq {method target : List Octet} (nonempty : method ≠ [])
    (methodPlain : 0x20 ∉ method) (targetPlain : 0x20 ∉ target) :
    readRequestLine (method ++ [0x20] ++ (target ++ [0x20] ++ octets "HTTP/1.1")) =
      some (method, target) := by
  rw [readRequestLine, breakAt_append methodPlain]
  dsimp only [bind, Option.bind]
  rw [breakAt_append targetPlain]
  exact if_pos ⟨nonempty, rfl⟩

theorem readField_eq {name : List Octet} (nonempty : name ≠ []) (plain : 0x3A ∉ name)
    (value : List Octet) :
    readField (name ++ [0x3A] ++ value) = some ⟨name, trimBlanks value⟩ := by
  rw [readField, breakAt_append plain]
  exact if_pos nonempty

theorem contentLength_decimal {fields : List Field} {n : Nat}
    (announced : valueOf "content-length" fields = some (decimal n)) :
    contentLength fields = some n := by
  have digits : (decimal n).all isDigit = true :=
    List.all_eq_true.mpr fun b mem => isDigit_of_mem_decimal mem
  rw [contentLength, announced]
  dsimp only
  rw [if_pos ⟨decimal_ne_nil n, digits⟩, digitsValue_decimal]

/-- A request line, header lines and the empty line. -/
def head (line : List Octet) (lines : List (List Octet)) : List Octet :=
  line ++ crlf ++ (lines.flatMap (· ++ crlf) ++ crlf)

/-- A request is read back from its parts, whatever follows it. -/
theorem readRequest_append {line : List Octet} {lines : List (List Octet)} {fields : List Field}
    {method target body : List Octet} (linePlain : cr ∉ line)
    (linesPlain : ∀ l ∈ lines, l ≠ [] ∧ cr ∉ l)
    (first : readRequestLine line = some (method, target))
    (parsed : lines.mapM readField = some fields)
    (announced : valueOf "content-length" fields = some (decimal body.length))
    (rest : List Octet) :
    readRequest (head line lines ++ (body ++ rest)) =
      some (⟨method, target, fields, body⟩, rest) := by
  have lineTaken : takeLine (head line lines ++ (body ++ rest)) =
      some (line, lines.flatMap (· ++ crlf) ++ crlf ++ (body ++ rest)) := by
    rw [head, List.append_assoc]
    exact takeLine_append linePlain _
  rw [readRequest, lineTaken]
  dsimp only [bind, Option.bind]
  rw [first]
  dsimp only
  rw [takeLines_append linesPlain]
  dsimp only
  rw [parsed]
  dsimp only
  rw [contentLength_decimal announced]
  dsimp only
  rw [if_pos (by rw [List.length_append]; exact Nat.le_add_right _ _), List.take_left,
    List.drop_left]

theorem readRequest_shorter {l rest : List Octet} {r : Request}
    (found : readRequest l = some (r, rest)) : rest.length < l.length := by
  simp only [readRequest, bind, Option.bind_eq_some_iff, Prod.exists] at found
  obtain ⟨line, l₁, lineTaken, method, target, -, lines, l₂, linesTaken, fields, -, n, -, body⟩ :=
    found
  have first := takeLine_shorter lineTaken
  have second := takeLines_shorter linesTaken
  split at body
  · obtain ⟨-, rfl⟩ := Prod.mk.inj (Option.some.inj body)
    rw [List.length_drop]
    omega
  · cases body

/-- An empty line is no request. -/
theorem readRequest_crlf (rest : List Octet) : readRequest (crlf ++ rest) = none := by
  have empty : takeLine (crlf ++ rest) = some ([], rest) :=
    takeLine_append List.not_mem_nil rest
  rw [readRequest, empty]
  rfl

def requestReader : Reader Octet Request where
  read := readRequest
  shorter := readRequest_shorter

/-- The list without an empty line in front of it. -/
def skipEmptyLine (l : List Octet) : List Octet := if crlf <+: l then l.drop 2 else l

theorem length_skipEmptyLine_le (l : List Octet) : (skipEmptyLine l).length ≤ l.length := by
  rw [skipEmptyLine]
  split
  · rw [List.length_drop]
    exact Nat.sub_le _ _
  · exact le_rfl

/-- A reader that ignores an empty line in front of a request line. -/
def tolerantReader : Reader Octet Request where
  read l := readRequest (skipEmptyLine l)
  shorter found := Nat.lt_of_lt_of_le (readRequest_shorter found) (length_skipEmptyLine_le _)

theorem tolerantReader_crlf (l : List Octet) :
    tolerantReader.read (crlf ++ l) = readRequest l := by
  change readRequest (skipEmptyLine (crlf ++ l)) = _
  rw [skipEmptyLine, if_pos (List.prefix_append crlf l)]
  rfl

end HttpRequests
