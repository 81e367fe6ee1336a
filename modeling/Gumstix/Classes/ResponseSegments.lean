import Gumstix.Classes.HTTPClient

/-!
# Responses that come in segments

What is printed of a response does not depend on how it is cut into chunks. The status line is
taken out of the buffer with its line end; where no header line follows, the delimiter of the
headers has lost its first half.
-/
namespace Gumstix.Classes.HTTPClient
open OctetText ItemReader CharacterStreams

/-- Lines that end in a line feed. -/
def linesText (lines : List (List Octet)) : List Octet := lines.flatMap (· ++ [lf])

theorem linesText_cons (line : List Octet) (lines : List (List Octet)) (rest : List Octet) :
    linesText (line :: lines) ++ rest = line ++ lf :: (linesText lines ++ rest) := by
  rw [linesText, List.flatMap_cons, List.append_assoc, List.append_assoc]
  rfl

/-- The text begins with these lines, an empty line follows, and then the content. -/
structure HeaderSplit (l : List Octet) (lines : List (List Octet)) (content : List Octet) :
    Prop where
  whole : l = linesText lines ++ (crlf ++ content)
  plain : ∀ line ∈ lines, lf ∉ line ∧ line ≠ [cr]

section split
variable {l content content' : List Octet} {lines lines' : List (List Octet)}

/-- The loop prints the lines and leaves the content. -/
theorem printHeaders_split (split : HeaderSplit l lines content) (cout : OutputStream) :
    printHeaders (.attach l) cout = (.attach content, cout.put (linesText lines)) := by
  obtain ⟨rfl, plain⟩ := split
  induction lines generalizing cout with
  | nil =>
      have carriage : lf ∉ [cr] := by decide
      have empty : (InputStream.attach (cr :: lf :: content)).getline = ([cr], .attach content) :=
        InputStream.getline_append carriage content
      change printHeaders (.attach (cr :: lf :: content)) cout = (_, cout.put [])
      rw [printHeaders, empty, OutputStream.put_nil]
      rfl
  | cons line lines ih =>
      obtain ⟨free, other⟩ := plain line List.mem_cons_self
      have later := ih (cout.put (line ++ [lf])) fun l mem =>
        plain l (List.mem_cons_of_mem line mem)
      have text : line ++ [lf] ++ linesText lines = linesText (line :: lines) := rfl
      have extracted :
          (InputStream.attach (linesText lines ++ (crlf ++ content))).failbit = false := rfl
      have carriage : octets "\r" = [cr] := rfl
      rw [OutputStream.put_put, text] at later
      rw [linesText_cons, printHeaders, InputStream.getline_append free, carriage]
      dsimp only
      rw [dif_pos extracted, if_neg other]
      exact later

theorem HeaderSplit.append (split : HeaderSplit l lines content) (more : List Octet) :
    HeaderSplit (l ++ more) lines (content ++ more) := by
  refine ⟨?_, split.plain⟩
  rw [split.whole, List.append_assoc, List.append_assoc]

/-- There is at most one split. -/
theorem HeaderSplit.unique (split : HeaderSplit l lines content)
    (split' : HeaderSplit l lines' content') :
    linesText lines = linesText lines' ∧ content = content' := by
  have same := (printHeaders_split split ⟨[], false⟩).symm.trans
    (printHeaders_split split' ⟨[], false⟩)
  exact ⟨congrArg (OutputStream.text ∘ Prod.snd) same,
    congrArg (InputStream.buffer ∘ Prod.fst) same⟩

theorem HeaderSplit.nil (content : List Octet) : HeaderSplit (crlf ++ content) [] content :=
  ⟨rfl, nofun⟩

theorem HeaderSplit.cons (split : HeaderSplit l lines content) {line : List Octet}
    (free : lf ∉ line) (other : line ≠ [cr]) :
    HeaderSplit (line ++ lf :: l) (line :: lines) content := by
  refine ⟨?_, List.forall_mem_cons.mpr ⟨⟨free, other⟩, split.plain⟩⟩
  rw [linesText_cons, split.whole]

/-- Two line ends in a row: the first empty line is there or earlier. -/
theorem exists_headerSplit (found : crlf ++ crlf <:+: l) :
    ∃ lines content, HeaderSplit l lines content := by
  obtain ⟨front, rest, rfl⟩ := found
  induction size : front.length using Nat.strongRecOn generalizing front with
  | ind n ih =>
      by_cases feed : lf ∈ front
      · obtain ⟨line, front, rfl, free⟩ := List.eq_append_cons_of_mem feed
        have whole : line ++ lf :: front ++ (crlf ++ crlf) ++ rest =
            line ++ lf :: (front ++ (crlf ++ crlf) ++ rest) := by
          simp only [List.append_assoc, List.cons_append]
        rw [whole]
        by_cases empty : line = [cr]
        · rw [empty]
          exact ⟨[], _, HeaderSplit.nil (front ++ (crlf ++ crlf) ++ rest)⟩
        · have shorter : front.length < n := by
            rw [← size, List.length_append, List.length_cons]
            omega
          obtain ⟨lines, content, split⟩ := ih _ shorter front rfl
          exact ⟨line :: lines, content, split.cons free empty⟩
      · have whole : front ++ (crlf ++ crlf) ++ rest = (front ++ [cr]) ++ lf :: (crlf ++ rest) := by
          simp only [crlf, List.append_assoc, List.cons_append, List.nil_append]
        rw [whole]
        cases front with
        | nil => exact ⟨[], _, HeaderSplit.nil (crlf ++ rest)⟩
        | cons b front =>
            have free : lf ∉ b :: front ++ [cr] := List.not_mem_append feed (by decide)
            have other : b :: front ++ [cr] ≠ [cr] := fun same =>
              absurd (List.append_left_eq_self.mp same) (List.cons_ne_nil b front)
            exact ⟨_, rest, (HeaderSplit.nil rest).cons free other⟩

end split

/-- What is still to be received. -/
def Session.received (s : Session) : List Octet := s.network.chunks.flatMap Chunk.content

/-- All octets that no handler has read. -/
def Session.unread (s : Session) : List Octet := s.client.response ++ s.received

/-- All that is printed until the session is at rest. -/
def Session.printed (s : Session) : List Octet := (ioService.run s).client.cout.text

/-- The output stream works, and the server closes the connection after the response. -/
structure Session.Sound (s : Session) : Prop where
  good : s.client.cout.failbit = false
  closed : s.network.ending = eof

section run
variable {s : Session}

theorem printed_step (s : Session) : s.step.printed = s.printed :=
  congrArg (fun t : Session => t.client.cout.text) (ioService.run_step s)

theorem printed_of_rest (rest : s.operation = none) : s.printed = s.client.cout.text := by
  have fixed : s.step = s := by rw [Session.step, rest]
  exact congrArg (fun t : Session => t.client.cout.text) (ioService.run_of_rest fixed)

theorem printResponse_of_good {c : HttpClient} (good : c.cout.failbit = false)
    (nonempty : c.response ≠ []) :
    printResponse c = ⟨c.request, [], ⟨c.cout.text ++ c.response, false⟩⟩ := by
  rw [printResponse, OutputStream.putBuffer_of_good good nonempty]

theorem step_content (sound : s.Sound) (reads : s.operation = some .asyncRead)
    (empty : s.client.response = []) {chunk : Chunk} {chunks : List Chunk}
    (coming : s.network.chunks = chunk :: chunks) :
    s.step =
      { s with
        client := ⟨s.client.request, [], ⟨s.client.cout.text ++ chunk.content, false⟩⟩
        network := { s.network with chunks := chunks } } := by
  have buffer : (s.receive chunk chunks).client.response = chunk.content := by
    change s.client.response ++ chunk.content = _
    rw [empty, List.nil_append]
  have nonempty : (s.receive chunk chunks).client.response ≠ [] := by
    rw [buffer]
    exact chunk.nonempty
  have good : (s.receive chunk chunks).client.cout.failbit = false := sound.good
  rw [Session.step, reads, coming]
  dsimp only
  rw [handleReadContent, printResponse_of_good good nonempty, buffer]
  rfl

/-- The content is printed as it comes. -/
theorem printed_content (sound : s.Sound) (reads : s.operation = some .asyncRead)
    (empty : s.client.response = []) : s.printed = s.client.cout.text ++ s.received := by
  induction coming : s.network.chunks generalizing s with
  | nil =>
      have ended : s.step = { s with operation := none } := by
        rw [Session.step, reads, coming]
        dsimp only
        rw [sound.closed]
        rfl
      rw [← printed_step, ended, printed_of_rest rfl, Session.received, coming]
      exact (List.append_nil _).symm
  | cons chunk chunks ih =>
      rw [← printed_step, step_content sound reads empty coming]
      refine Eq.trans (ih ⟨rfl, sound.closed⟩ reads rfl rfl) ?_
      change s.client.cout.text ++ chunk.content ++ chunks.flatMap Chunk.content = _
      rw [Session.received, coming, List.flatMap_cons, List.append_assoc]

section readUntil
variable {delimiter : List Octet} {handler : LineHandler}
  (waits : s.operation = some (.asyncReadUntil delimiter handler))
include waits

theorem step_found (found : delimiter <:+: s.client.response) :
    s.step = s.complete (handler.handle s.client none) := by
  rw [Session.step, waits]
  exact if_pos found

theorem step_missing (missing : ¬ delimiter <:+: s.client.response) {chunk : Chunk}
    {chunks : List Chunk} (coming : s.network.chunks = chunk :: chunks) :
    s.step = s.receive chunk chunks := by
  rw [Session.step, waits, coming]
  exact if_neg missing

theorem step_ended (missing : ¬ delimiter <:+: s.client.response) (ended : s.network.chunks = []) :
    s.step = s.complete (handler.handle s.client (some s.network.ending)) := by
  rw [Session.step, waits, ended]
  exact if_neg missing

end readUntil

/-- `t` is `s` after some chunks have been received. -/
structure Receives (s t : Session) : Prop where
  operation : t.operation = s.operation
  cout : t.client.cout = s.client.cout
  ending : t.network.ending = s.network.ending
  unread : t.unread = s.unread
  printed : t.printed = s.printed

theorem Receives.refl (s : Session) : Receives s s := ⟨rfl, rfl, rfl, rfl, rfl⟩

theorem Receives.trans {t u : Session} (first : Receives s t) (second : Receives t u) :
    Receives s u where
  operation := second.operation.trans first.operation
  cout := second.cout.trans first.cout
  ending := second.ending.trans first.ending
  unread := second.unread.trans first.unread
  printed := second.printed.trans first.printed

theorem Receives.sound {t : Session} (received : Receives s t) (sound : s.Sound) : t.Sound :=
  ⟨received.cout ▸ sound.good, received.ending ▸ sound.closed⟩

/-- The chunks are received until the buffer contains the delimiter, or to the last one. -/
theorem readUntil_receives {delimiter : List Octet} {handler : LineHandler}
    (waits : s.operation = some (.asyncReadUntil delimiter handler)) :
    ∃ t, Receives s t ∧
      (delimiter <:+: t.client.response ∨
        ¬ delimiter <:+: t.client.response ∧ t.network.chunks = []) := by
  induction coming : s.network.chunks generalizing s with
  | nil =>
      by_cases found : delimiter <:+: s.client.response
      · exact ⟨s, .refl s, .inl found⟩
      · exact ⟨s, .refl s, .inr ⟨found, coming⟩⟩
  | cons chunk chunks ih =>
      by_cases found : delimiter <:+: s.client.response
      · exact ⟨s, .refl s, .inl found⟩
      · have moved := step_missing waits found coming
        have unread : (s.receive chunk chunks).unread = s.unread := by
          change s.client.response ++ chunk.content ++ chunks.flatMap Chunk.content = _
          rw [Session.unread, Session.received, coming, List.flatMap_cons, List.append_assoc]
        have received : Receives s (s.receive chunk chunks) :=
          ⟨rfl, rfl, rfl, unread, moved ▸ printed_step s⟩
        obtain ⟨t, later, ends⟩ := ih (s := s.receive chunk chunks) waits rfl
        exact ⟨t, received.trans later, ends⟩

/-- The state after the handler of the headers. -/
theorem handleReadHeaders_split {c : HttpClient} (good : c.cout.failbit = false)
    {lines : List (List Octet)} {content : List Octet}
    (split : HeaderSplit c.response lines content) :
    handleReadHeaders c none =
      (⟨c.request, [], ⟨c.cout.text ++ (linesText lines ++ lf :: content), false⟩⟩,
        some .asyncRead) := by
  have headers := printHeaders_split split c.cout
  have text : (c.cout.put (linesText lines)).put [lf] =
      ⟨c.cout.text ++ (linesText lines ++ [lf]), false⟩ := by
    rw [OutputStream.put_put, OutputStream.put_of_good good]
  rw [handleReadHeaders, headers]
  dsimp only
  rw [text]
  cases content with
  | nil => rfl
  | cons b content =>
      have some : 0 < (InputStream.attach (b :: content)).buffer.length := Nat.succ_pos _
      rw [if_pos some, printResponse_of_good rfl (List.cons_ne_nil b content)]
      have whole : c.cout.text ++ (linesText lines ++ [lf]) ++ b :: content =
          c.cout.text ++ (linesText lines ++ lf :: b :: content) := by
        simp only [List.append_assoc, List.cons_append, List.nil_append]
      change ((⟨c.request, [], ⟨c.cout.text ++ (linesText lines ++ [lf]) ++ b :: content, false⟩⟩,
        _) : HttpClient × Option Operation) = _
      rw [whole]

/-- What is printed of the text that follows the line end of the status line. -/
inductive Outcome (l : List Octet) : List Octet → Prop where
  | headers {lines : List (List Octet)} {content : List Octet} (found : crlf ++ crlf <:+: l)
      (split : HeaderSplit l lines content) : Outcome l (linesText lines ++ lf :: content)
  | failed (missing : ¬ crlf ++ crlf <:+: l) :
      Outcome l (octets "Error: " ++ eof.printed ++ [lf])

theorem Outcome.unique {l text text' : List Octet} (out : Outcome l text)
    (out' : Outcome l text') : text = text' := by
  cases out with
  | headers found split =>
      cases out' with
      | headers _ split' =>
          obtain ⟨lines, content⟩ := split.unique split'
          rw [lines, content]
      | failed missing => exact absurd found missing
  | failed missing =>
      cases out' with
      | headers found _ => exact absurd found missing
      | failed _ => rfl

/-- From the handler of the status line on, what is printed depends on the octets alone. -/
theorem printed_headers (sound : s.Sound)
    (waits : s.operation = some (.asyncReadUntil (crlf ++ crlf) .headers)) :
    ∃ text, Outcome s.unread text ∧ s.printed = s.client.cout.text ++ text := by
  obtain ⟨t, received, ends⟩ := readUntil_receives waits
  have sound' := received.sound sound
  have waits' := received.operation.trans waits
  rw [← received.unread, ← received.printed, ← received.cout]
  rcases ends with found | ⟨missing, ended⟩
  · obtain ⟨lines, content, split⟩ := exists_headerSplit found
    have infixed : crlf ++ crlf <:+: t.unread := found.trans (List.prefix_append _ _).isInfix
    refine ⟨_, .headers infixed (split.append t.received), ?_⟩
    rw [← printed_step, step_found waits' found, LineHandler.handle,
      handleReadHeaders_split sound'.good split]
    refine Eq.trans (printed_content ⟨rfl, sound'.closed⟩ rfl rfl) ?_
    change t.client.cout.text ++ (linesText lines ++ lf :: content) ++ t.received = _
    simp only [List.append_assoc, List.cons_append]
  · have unread : t.unread = t.client.response := by
      rw [Session.unread, Session.received, ended, List.flatMap_nil, List.append_nil]
    refine ⟨_, .failed (unread ▸ missing), ?_⟩
    rw [← printed_step, step_ended waits' missing ended, sound'.closed, printed_of_rest rfl]
    exact congrArg OutputStream.text (OutputStream.put_of_good sound'.good _)

def statusLine (n : Nat) (reason : List Octet) : List Octet :=
  octets "HTTP/1.1" ++ 0x20 :: (decimal n ++ 0x20 :: reason)

theorem lf_notMem_statusLine (n : Nat) {reason : List Octet} (free : lf ∉ reason) :
    lf ∉ statusLine n reason := by
  have number : lf ∉ decimal n := fun mem => absurd (isDigit_of_mem_decimal mem) (by decide)
  have blank {l : List Octet} (free : lf ∉ l) : lf ∉ 0x20 :: l :=
    List.not_mem_cons_of_ne_of_not_mem (by decide) free
  exact List.not_mem_append (by decide) (blank (List.not_mem_append number (blank free)))

/-- The carriage return of the line end belongs to the line that `getline` takes. -/
theorem statusLine_crlf (n : Nat) (reason rest : List Octet) :
    statusLine n reason ++ (crlf ++ rest) = statusLine n (reason ++ [cr]) ++ lf :: rest := by
  rw [statusLine, statusLine]
  simp only [crlf, List.append_assoc, List.cons_append, List.nil_append]

theorem crlf_infix (front rest : List Octet) : crlf <:+: front ++ (crlf ++ rest) :=
  (List.prefix_append crlf rest).isInfix.trans (List.suffix_append _ _).isInfix

/-- The handler takes the status line with its line feed. -/
theorem handleReadStatusLine_eq {c : HttpClient} {n : Nat} (small : n < 2 ^ 32)
    {reason : List Octet} (free : lf ∉ reason) {rest : List Octet}
    (buffer : c.response = statusLine n reason ++ lf :: rest) :
    handleReadStatusLine c none =
      if n = 200 then
        (⟨c.request, rest, c.cout⟩, some (.asyncReadUntil (crlf ++ crlf) .headers))
      else
        (print ⟨c.request, rest, c.cout⟩
          (octets "Response returned with status code " ++ decimal n ++ [lf]), none) := by
  have text : c.response = octets "HTTP/1.1" ++
      0x20 :: (decimal n ++ 0x20 :: (reason ++ lf :: rest)) := by
    rw [buffer, statusLine]
    simp only [List.append_assoc, List.cons_append]
  have version : (InputStream.attach c.response).extractWord = (octets "HTTP/1.1",
      .attach (0x20 :: (decimal n ++ 0x20 :: (reason ++ lf :: rest)))) := by
    rw [text]
    exact InputStream.extractWord_append (by decide) (by decide) rfl _
  have code : (InputStream.attach
      (0x20 :: (decimal n ++ 0x20 :: (reason ++ lf :: rest)))).extractUnsigned =
        (some (BitVec.ofNat 32 n), .attach (0x20 :: (reason ++ lf :: rest))) :=
    InputStream.extractUnsigned_decimal small rfl _
  have message : (InputStream.attach (0x20 :: (reason ++ lf :: rest))).getline =
      (0x20 :: reason, .attach rest) :=
    InputStream.getline_append (List.not_mem_cons_of_ne_of_not_mem (by decide) free) rest
  have value : (BitVec.ofNat 32 n).toNat = n := by
    rw [BitVec.toNat_ofNat, Nat.mod_eq_of_lt small]
  have valid : ¬ ((InputStream.attach rest).failbit = true ∨
      (octets "HTTP/1.1").take 5 ≠ octets "HTTP/") :=
    not_or.mpr ⟨Bool.false_ne_true, not_not.mpr rfl⟩
  rw [handleReadStatusLine, version]
  dsimp only
  rw [code]
  dsimp only
  rw [message]
  dsimp only
  rw [if_neg valid]
  split_ifs with other ok ok
  · exact absurd (congrArg (some ∘ BitVec.ofNat 32) ok) other
  · rw [Option.getD_some, value]
    rfl
  · rfl
  · refine absurd ?_ ok
    rw [← value, Option.some.inj (not_not.mp other)]
    rfl

/-- The octets of a response are received until the status line is in the buffer, and its handler
runs. -/
theorem statusLine_handled
    (waits : s.operation = some (.asyncReadUntil crlf .statusLine)) (found : crlf <:+: s.unread)
    {front rest : List Octet} (free : lf ∉ front) (whole : s.unread = front ++ lf :: rest) :
    ∃ t rest', Receives s t ∧ t.step = t.complete (handleReadStatusLine t.client none) ∧
      t.client.response = front ++ lf :: rest' ∧ rest = rest' ++ t.received := by
  obtain ⟨t, received, ends⟩ := readUntil_receives waits
  have here : crlf <:+: t.client.response := by
    rcases ends with here | ⟨missing, ended⟩
    · exact here
    · have unread : t.unread = t.client.response := by
        rw [Session.unread, Session.received, ended, List.flatMap_nil, List.append_nil]
      rwa [← unread, received.unread]
  have feed : lf ∈ t.client.response := here.subset (by decide)
  obtain ⟨rest', buffer, same⟩ := front_of_append feed free (received.unread.trans whole)
  exact ⟨t, rest', received, step_found (received.operation.trans waits) here, buffer, same⟩

/-- Of a response with status 200 the text after the status line decides what is printed. -/
theorem printed_ok (sound : s.Sound)
    (waits : s.operation = some (.asyncReadUntil crlf .statusLine)) (found : crlf <:+: s.unread)
    {reason rest : List Octet} (free : lf ∉ reason)
    (whole : s.unread = statusLine 200 reason ++ lf :: rest) :
    ∃ text, Outcome rest text ∧ s.printed = s.client.cout.text ++ text := by
  obtain ⟨t, rest', received, handled, buffer, rfl⟩ :=
    statusLine_handled waits found (lf_notMem_statusLine 200 free) whole
  have sound' := received.sound sound
  rw [handleReadStatusLine_eq (by decide) free buffer, if_pos rfl] at handled
  obtain ⟨text, out, printed⟩ := printed_headers (s := t.step)
    (by rw [handled]; exact ⟨sound'.good, sound'.closed⟩) (by rw [handled]; rfl)
  rw [printed_step, received.printed] at printed
  rw [handled] at out printed
  rw [← received.cout]
  exact ⟨text, out, printed⟩

/-- Of a response with another status only the status is printed. -/
theorem printed_other (sound : s.Sound)
    (waits : s.operation = some (.asyncReadUntil crlf .statusLine)) (found : crlf <:+: s.unread)
    {n : Nat} (small : n < 2 ^ 32) (other : n ≠ 200) {reason rest : List Octet}
    (free : lf ∉ reason) (whole : s.unread = statusLine n reason ++ lf :: rest) :
    s.printed = s.client.cout.text ++
      (octets "Response returned with status code " ++ decimal n ++ [lf]) := by
  obtain ⟨t, rest', received, handled, buffer, -⟩ :=
    statusLine_handled waits found (lf_notMem_statusLine n free) whole
  have sound' := received.sound sound
  rw [handleReadStatusLine_eq small free buffer, if_neg other] at handled
  rw [← received.printed, ← printed_step, handled, printed_of_rest rfl, ← received.cout]
  exact congrArg OutputStream.text (OutputStream.put_of_good sound'.good _)

/-- What is printed of a response does not depend on how its octets are cut into chunks. -/
theorem printed_independent {s' : Session} (sound : s.Sound) (sound' : s'.Sound)
    (waits : s.operation = some (.asyncReadUntil crlf .statusLine))
    (waits' : s'.operation = some (.asyncReadUntil crlf .statusLine))
    (text : s.client.cout.text = s'.client.cout.text) (octets : s.unread = s'.unread)
    (found : crlf <:+: s.unread) {n : Nat} (small : n < 2 ^ 32) {reason rest : List Octet}
    (free : lf ∉ reason) (whole : s.unread = statusLine n reason ++ lf :: rest) :
    s.printed = s'.printed := by
  have found' : crlf <:+: s'.unread := octets ▸ found
  have whole' := octets.symm.trans whole
  by_cases ok : n = 200
  · subst ok
    obtain ⟨out, outcome, printed⟩ := printed_ok sound waits found free whole
    obtain ⟨out', outcome', printed'⟩ := printed_ok sound' waits' found' free whole'
    rw [printed, printed', text, outcome.unique outcome']
  · rw [printed_other sound waits found small ok free whole,
      printed_other sound' waits' found' small ok free whole', text]

end run

def headerText (lines : List (List Octet)) : List Octet := lines.flatMap (· ++ crlf)

def responseText (reason : List Octet) (lines : List (List Octet)) (body : List Octet) :
    List Octet :=
  octets "HTTP/1.1 200 " ++ reason ++ crlf ++ (headerText lines ++ (crlf ++ body))

/-- The header lines, the empty line, and the octets of the body. -/
def printedText (lines : List (List Octet)) (body : List Octet) : List Octet :=
  headerText lines ++ lf :: body

/-- `HandleWriteRequest` has started the chain on an empty buffer. -/
structure Session.AwaitsResponse (s : Session) : Prop extends s.Sound where
  waits : s.operation = (handleWriteRequest s.client none).2
  empty : s.client.response = []

/-- The two halves of the delimiter, after the status line and at the empty line. -/
structure Delimited (reason : List Octet) (lines : List (List Octet)) (body : List Octet) :
    Prop where
  noFeed : lf ∉ reason
  noEmptyLine : [] ∉ lines
  delimiter : lines ≠ [] ∨ crlf <+: body ∨ crlf ++ crlf <:+: body

section response
variable {reason body : List Octet} {lines : List (List Octet)}

theorem responseText_eq : responseText reason lines body =
    statusLine 200 reason ++ (crlf ++ (headerText lines ++ (crlf ++ body))) := by
  have start : octets "HTTP/1.1 200 " ++ reason = statusLine 200 reason := rfl
  rw [responseText, start, List.append_assoc]

/-- The header text as lines that end in a line feed. -/
theorem headerText_eq (lines : List (List Octet)) :
    headerText lines = linesText (lines.map (· ++ [cr])) := by
  rw [headerText, linesText, List.flatMap_map]
  simp only [crlf, List.append_assoc, List.cons_append, List.nil_append]

theorem headerSplit_headerText (free : ∀ l ∈ lines, cr ∉ l ∧ lf ∉ l) (nonempty : [] ∉ lines) :
    HeaderSplit (headerText lines ++ (crlf ++ body)) (lines.map (· ++ [cr])) body := by
  refine ⟨by rw [headerText_eq], ?_⟩
  intro line mem
  obtain ⟨l, present, rfl⟩ := List.mem_map.mp mem
  refine ⟨List.not_mem_append (free l present).2 (by decide), fun same => nonempty ?_⟩
  exact List.append_left_eq_self.mp same ▸ present

/-- Header lines end in a line end. -/
theorem headerText_ends (nonempty : lines ≠ []) : ∃ front, headerText lines = front ++ crlf := by
  obtain ⟨first, last, rfl⟩ := List.eq_nil_or_concat' lines |>.resolve_left nonempty
  refine ⟨headerText first ++ last, ?_⟩
  rw [headerText, List.flatMap_append, List.append_assoc]
  simp only [headerText, List.flatMap_cons, List.flatMap_nil, List.append_nil]

theorem delimiter_of_lines (nonempty : lines ≠ []) (front body : List Octet) :
    crlf ++ crlf <:+: front ++ (headerText lines ++ (crlf ++ body)) := by
  obtain ⟨before, ends⟩ := headerText_ends nonempty
  refine ⟨front ++ before, body, ?_⟩
  rw [ends]
  simp only [List.append_assoc]

/-- After a line end the delimiter is found at once or in the rest. -/
theorem delimiter_after_crlf :
    crlf ++ crlf <:+: crlf ++ body ↔ crlf <+: body ∨ crlf ++ crlf <:+: body := by
  have here : crlf ++ crlf <+: crlf ++ body ↔ crlf <+: body := List.prefix_append_right_inj crlf
  have notLater : ¬ crlf ++ crlf <+: lf :: body := fun start =>
    absurd (List.cons_prefix_cons.mp start).1 (by decide)
  change crlf ++ crlf <:+: cr :: lf :: body ↔ _
  rw [List.infix_cons_iff, List.infix_cons_iff, or_iff_right notLater]
  exact or_congr_left here

/-- The octets that the handlers start from. -/
theorem Session.AwaitsResponse.unread {s : Session} (awaits : s.AwaitsResponse) :
    s.unread = s.received := by
  rw [Session.unread, awaits.empty, List.nil_append]

/-- After a call of `POST` the chain comes to the response. -/
theorem written_awaitsResponse {c : HttpClient} (good : c.cout.failbit = false)
    (empty : c.response = []) {network : Network} (closed : network.ending = eof)
    {server path data : List Octet} : (written c server path data network).AwaitsResponse :=
  ⟨⟨good, closed⟩, rfl, empty⟩

theorem posted_printed (c : HttpClient) (server port path data : List Octet) {network : Network}
    (reached : network.Reached) : (posted c server port path data network).printed =
      (written c server path data network).printed :=
  congrArg (fun s : Session => s.client.cout.text) (posted_run c server port path data reached)

/-- Two networks that deliver the same response to a call, each in chunks of its own. -/
theorem posted_independent {c : HttpClient} (good : c.cout.failbit = false)
    (empty : c.response = []) {network network' : Network} (reached : network.Reached)
    (reached' : network'.Reached) (closed : network.ending = eof) (closed' : network'.ending = eof)
    {n : Nat} (small : n < 2 ^ 32) {reason rest : List Octet} (free : lf ∉ reason)
    (coming : network.chunks.flatMap Chunk.content = statusLine n reason ++ (crlf ++ rest))
    (coming' : network'.chunks.flatMap Chunk.content = statusLine n reason ++ (crlf ++ rest))
    (server port path data : List Octet) :
    (posted c server port path data network).printed =
      (posted c server port path data network').printed := by
  have awaits : (written c server path data network).AwaitsResponse :=
    written_awaitsResponse good empty closed
  have awaits' : (written c server path data network').AwaitsResponse :=
    written_awaitsResponse good empty closed'
  have unread := awaits.unread.trans coming
  have unread' := awaits'.unread.trans coming'
  have found : crlf <:+: (written c server path data network).unread := by
    rw [unread]
    exact crlf_infix _ rest
  rw [posted_printed c server port path data reached,
    posted_printed c server port path data reached']
  exact printed_independent awaits.toSound awaits'.toSound awaits.waits awaits'.waits rfl
    (unread.trans unread'.symm) found small (List.not_mem_append free (by decide))
    (unread.trans (statusLine_crlf n reason rest))

/-- With header lines the delimiter is there, without them it depends on the body. -/
theorem delimiter_iff : crlf ++ crlf <:+: headerText lines ++ (crlf ++ body) ↔
    lines ≠ [] ∨ crlf <+: body ∨ crlf ++ crlf <:+: body := by
  cases lines with
  | nil =>
      rw [or_iff_right (not_not.mpr rfl)]
      exact delimiter_after_crlf
  | cons line lines =>
      have nonempty := List.cons_ne_nil line lines
      exact iff_of_true (delimiter_of_lines nonempty [] body) (.inl nonempty)

/-- The first octet of the error tells it from what should be printed without header lines. -/
theorem outcome_iff (free : ∀ l ∈ lines, cr ∉ l ∧ lf ∉ l) (noEmptyLine : [] ∉ lines)
    {text : List Octet} (out : Outcome (headerText lines ++ (crlf ++ body)) text) :
    text = printedText lines body ↔ lines ≠ [] ∨ crlf <+: body ∨ crlf ++ crlf <:+: body := by
  cases out with
  | headers found split =>
      obtain ⟨text, content⟩ := split.unique (headerSplit_headerText free noEmptyLine)
      refine iff_of_true ?_ (delimiter_iff.mp found)
      rw [printedText, headerText_eq, text, content]
  | failed missing =>
      refine iff_of_false (fun same => ?_) (missing ∘ delimiter_iff.mpr)
      obtain rfl : lines = [] :=
        not_not.mp fun nonempty => missing (delimiter_iff.mpr (.inl nonempty))
      exact absurd (List.cons.inj same).1 (by decide)

/-- After an empty line among the header lines the rest of them is taken for content. -/
theorem outcome_of_emptyLine (free : ∀ l ∈ lines, cr ∉ l ∧ lf ∉ l) (emptyLine : [] ∈ lines)
    {text : List Octet} (out : Outcome (headerText lines ++ (crlf ++ body)) text) :
    text ≠ printedText lines body := by
  obtain ⟨before, after, rfl, noEmptyLine⟩ := List.eq_append_cons_of_mem emptyLine
  have cut : headerText (before ++ [] :: after) =
      headerText before ++ (crlf ++ headerText after) := by
    rw [headerText, List.flatMap_append, List.flatMap_cons]
    rfl
  have whole : headerText (before ++ [] :: after) ++ (crlf ++ body) =
      headerText before ++ (crlf ++ (headerText after ++ (crlf ++ body))) := by
    rw [cut, List.append_assoc, List.append_assoc]
  cases out with
  | headers found split =>
      rw [whole] at split
      obtain ⟨text, content⟩ := split.unique
        (headerSplit_headerText (fun l mem => free l (List.mem_append_left _ mem)) noEmptyLine)
      rw [text, content, printedText, cut, headerText_eq before, List.append_assoc]
      intro same
      exact absurd (List.cons.inj (List.append_cancel_left same)).1 (by decide)
  | failed missing =>
      exact absurd (delimiter_iff.mpr (.inl (List.append_ne_nil_of_right_ne_nil _
        (List.cons_ne_nil _ _)))) missing

/-- After a line feed in the reason too much is printed. -/
theorem outcome_of_feed {tail text : List Octet}
    (out : Outcome (tail ++ (crlf ++ (headerText lines ++ (crlf ++ body)))) text) :
    text ≠ printedText lines body := by
  cases out with
  | headers found split =>
      have two : crlf.length = 2 := rfl
      have length := congrArg List.length split.whole
      intro same
      have length' := congrArg List.length same
      rw [printedText] at length'
      simp only [List.length_append, List.length_cons, two] at length length'
      omega
  | failed missing =>
      have first : crlf ++ (headerText lines ++ (crlf ++ body)) =
          headerText ([] :: lines) ++ (crlf ++ body) := by
        rw [headerText, headerText, List.flatMap_cons, List.nil_append, List.append_assoc]
      refine absurd ?_ missing
      rw [first]
      exact delimiter_of_lines (List.cons_ne_nil [] lines) tail body

/-- However the response is cut, the handlers print its header lines and its body exactly if the
delimiter of the headers is left whole. -/
theorem response_printed_iff (free : ∀ l ∈ lines, cr ∉ l ∧ lf ∉ l) {s : Session}
    (awaits : s.AwaitsResponse) (coming : s.received = responseText reason lines body) :
    s.printed = s.client.cout.text ++ printedText lines body ↔ Delimited reason lines body := by
  have whole : s.unread = statusLine 200 reason ++
      (crlf ++ (headerText lines ++ (crlf ++ body))) := by
    rw [awaits.unread, coming, responseText_eq]
  have found : crlf <:+: s.unread := by
    rw [whole]
    exact crlf_infix _ _
  by_cases feed : lf ∈ reason
  · refine iff_of_false ?_ fun delimited => delimited.noFeed feed
    obtain ⟨front, tail, rfl, noFeed⟩ := List.eq_append_cons_of_mem feed
    have early : s.unread = statusLine 200 front ++
        lf :: (tail ++ (crlf ++ (headerText lines ++ (crlf ++ body)))) := by
      rw [whole, statusLine, statusLine]
      simp only [List.append_assoc, List.cons_append]
    obtain ⟨text, out, printed⟩ := printed_ok awaits.toSound awaits.waits found noFeed early
    rw [printed]
    exact fun same => outcome_of_feed out (List.append_cancel_left same)
  · have noFeed : lf ∉ reason ++ [cr] := List.not_mem_append feed (by decide)
    obtain ⟨text, out, printed⟩ := printed_ok awaits.toSound awaits.waits found noFeed
      (whole.trans (statusLine_crlf 200 reason _))
    rw [printed, List.append_right_inj]
    by_cases emptyLine : [] ∈ lines
    · exact iff_of_false (outcome_of_emptyLine free emptyLine out)
        fun delimited => delimited.noEmptyLine emptyLine
    · rw [outcome_iff free emptyLine out]
      exact ⟨fun delimiter => ⟨feed, emptyLine, delimiter⟩, Delimited.delimiter⟩

end response

/-- Chunks with these contents. -/
def chunksOf (contents : List (List Octet)) : List Chunk :=
  contents.filterMap fun content =>
    if nonempty : content ≠ [] then some ⟨content, nonempty⟩ else none

/-- A request has been written, and the server answers with these chunks. -/
def awaiting (chunks : List Chunk) : Session :=
  written (constructed ⟨[], false⟩) (octets "localhost") (octets "/") []
    ⟨none, none, none, chunks, eof⟩

theorem awaiting_awaitsResponse (chunks : List Chunk) : (awaiting chunks).AwaitsResponse :=
  written_awaitsResponse rfl rfl rfl

/-- Cut within a header line and within the body. -/
def threeChunks : List Chunk :=
  chunksOf [octets "HTTP/1.1 200 OK\r\nServer: Cow", octets "boy\r\n\r\no", octets "k"]

theorem response_printed_iff_threeChunks :
    (awaiting threeChunks).printed = octets "Server: Cowboy\r\n\nok" := by
  have coming : (awaiting threeChunks).received =
      responseText (octets "OK") [octets "Server: Cowboy"] (octets "ok") := rfl
  exact (response_printed_iff (by decide) (awaiting_awaitsResponse threeChunks) coming).mpr
    ⟨by decide, by decide, .inl (List.cons_ne_nil _ _)⟩

/-- A response without header lines. -/
theorem response_printed_refuted :
    ¬ ∀ (reason body : List Octet) (lines : List (List Octet)) (s : Session),
      (∀ l ∈ lines, cr ∉ l ∧ lf ∉ l) → s.AwaitsResponse →
      s.received = responseText reason lines body →
      s.printed = s.client.cout.text ++ printedText lines body := by
  intro every
  have printed := every (octets "OK") (octets "hello") []
    (awaiting (chunksOf [octets "HTTP/1.1 200 OK\r\n\r\nhello"])) (by decide)
    (awaiting_awaitsResponse _) rfl
  exact absurd printed (by decide)

end Gumstix.Classes.HTTPClient
