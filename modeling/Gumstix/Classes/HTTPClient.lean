import Gumstix.Library.CharacterStreams
import Gumstix.Library.Descent

/-!
# The class `HTTPClient`

`POST` appends a request to `request_` and starts a chain of asynchronous operations: the name is
resolved, the connection is made, the buffer is written, and three handlers that share `response_`
read what comes back.
-/
namespace Gumstix.Classes.HTTPClient
open OctetText CharacterStreams

/-- An error of Boost, with the text that `message()` gives. -/
structure ErrorCode where
  category : String
  value : Int
  message : List Octet
  deriving DecidableEq

/-- `boost::asio::error::eof` -/
def eof : ErrorCode := ⟨"asio.misc", 2, octets "End of file"⟩

/-- What `operator<<` writes for an error. -/
def ErrorCode.printed (err : ErrorCode) : List Octet :=
  octets err.category ++ octets ":" ++ octets (toString err.value)

/-- The handlers of `async_read_until`. -/
inductive LineHandler where
  | statusLine
  | headers

/-- An operation that has been started. Where the operation does not tell its handler, it names
it. -/
inductive Operation where
  | asyncResolve (server port : List Octet)
  | asyncConnect
  | asyncWrite
  | asyncReadUntil (delimiter : List Octet) (handler : LineHandler)
  | asyncRead

structure HttpClient where
  request : List Octet
  response : List Octet
  cout : OutputStream
  deriving DecidableEq

/-- The constructor. -/
def constructed (cout : OutputStream) : HttpClient := ⟨[], [], cout⟩

/-- The text that `POST` appends to the request. -/
def requestText (server path data : List Octet) : List Octet :=
  octets "POST " ++ path ++ octets " HTTP/1.1\r\n" ++
  (octets "Host: " ++ server ++ octets "\r\n") ++
  octets "Accept: */*\r\n" ++
  octets "Connection: close\r\n" ++
  (octets "Content-Length:" ++ decimal data.length ++ octets "\r\n\r\n") ++
  (data ++ octets "\r\n")

section handlers
variable (c : HttpClient)

/-- The calls and the handlers return the object and the operation that they start. -/
def post (server port path data : List Octet) : HttpClient × Option Operation :=
  ({ c with request := c.request ++ requestText server path data },
    some (.asyncResolve server port))

def print (text : List Octet) : HttpClient := { c with cout := c.cout.put text }

/-- `std::cout << &response_` -/
def printResponse : HttpClient :=
  { c with cout := (c.cout.putBuffer c.response).1, response := (c.cout.putBuffer c.response).2 }

/-- `std::cout << "Error: " << text << "\n"` -/
def printError (text : List Octet) : HttpClient := print c (octets "Error: " ++ text ++ [lf])

def handleResolve : Option ErrorCode → HttpClient × Option Operation
  | none => (c, some .asyncConnect)
  | some err => (printError c err.message, none)

def handleConnect : Option ErrorCode → HttpClient × Option Operation
  | none => (c, some .asyncWrite)
  | some err => (printError c err.message, none)

def handleWriteRequest : Option ErrorCode → HttpClient × Option Operation
  | none => (c, some (.asyncReadUntil (octets "\r\n") .statusLine))
  | some err => (printError c err.message, none)

def handleReadStatusLine : Option ErrorCode → HttpClient × Option Operation
  | none =>
      let httpVersion := (InputStream.attach c.response).extractWord
      let statusCode := httpVersion.2.extractUnsigned
      let statusMessage := statusCode.2.getline
      let c := { c with response := statusMessage.2.buffer }
      if statusMessage.2.failbit ∨ httpVersion.1.take 5 ≠ octets "HTTP/" then
        (print c (octets "Invalid response\n"), none)
      else if statusCode.1 ≠ some 200 then
        -- the variable has been written, else the stream has failed
        (print c (octets "Response returned with status code " ++
          decimal (statusCode.1.getD 0).toNat ++ [lf]), none)
      else (c, some (.asyncReadUntil (octets "\r\n\r\n") .headers))
  | some err => (printError c err.printed, none)

/-- The loop that prints the lines before the empty one. Each keeps its carriage return. -/
def printHeaders (s : InputStream) (cout : OutputStream) : InputStream × OutputStream :=
  if _ : s.getline.2.failbit = false then
    if s.getline.1 = octets "\r" then (s.getline.2, cout)
    else printHeaders s.getline.2 (cout.put (s.getline.1 ++ [lf]))
  else (s.getline.2, cout)
termination_by s.buffer.length
decreasing_by exact InputStream.getline_shorter ‹_›

def handleReadHeaders : Option ErrorCode → HttpClient × Option Operation
  | none =>
      let headers := printHeaders (InputStream.attach c.response) c.cout
      let c := { c with response := headers.1.buffer, cout := headers.2.put [lf] }
      (if 0 < c.response.length then printResponse c else c, some .asyncRead)
  | some err => (printError c err.printed, none)

def handleReadContent : Option ErrorCode → HttpClient × Option Operation
  | none => (printResponse c, some .asyncRead)
  | some err => (if err = eof then c else printError c err.printed, none)

def LineHandler.handle : LineHandler → Option ErrorCode → HttpClient × Option Operation
  | .statusLine => handleReadStatusLine c
  | .headers => handleReadHeaders c

end handlers

/-- What one call of `read_some` receives. -/
structure Chunk where
  content : List Octet
  nonempty : content ≠ []

/-- How the operations of one request go. A write that fails has sent some octets; the response
comes in chunks and ends in an error, which is `eof` where the server closes the connection. -/
structure Network where
  resolveError : Option ErrorCode
  connectError : Option ErrorCode
  writeError : Option (ErrorCode × Nat)
  chunks : List Chunk
  ending : ErrorCode

/-- An object with the operation that is under way, and the octets that it has sent. -/
structure Session where
  client : HttpClient
  operation : Option Operation
  sent : List Octet
  network : Network

namespace Session
variable (s : Session)

/-- The handler of the operation has run. -/
def complete (out : HttpClient × Option Operation) : Session :=
  { s with client := out.1, operation := out.2 }

def send (n : Nat) : Session :=
  { s with
    client := { s.client with request := s.client.request.drop n }
    sent := s.sent ++ s.client.request.take n }

def receive (chunk : Chunk) (chunks : List Chunk) : Session :=
  { s with
    client := { s.client with response := s.client.response ++ chunk.content }
    network := { s.network with chunks := chunks } }

/-- The operation under way makes one move. `async_read_until` completes as soon as the buffer
contains the delimiter, `async_read` with the first chunk, and both with the end of the stream. -/
def step : Session :=
  match s.operation with
  | none => s
  | some (.asyncResolve _ _) => s.complete (handleResolve s.client s.network.resolveError)
  | some .asyncConnect => s.complete (handleConnect s.client s.network.connectError)
  | some .asyncWrite =>
      match s.network.writeError with
      | none =>
          let s := s.send s.client.request.length
          s.complete (handleWriteRequest s.client none)
      | some (err, n) =>
          let s := s.send n
          s.complete (handleWriteRequest s.client (some err))
  | some (.asyncReadUntil delimiter handler) =>
      if delimiter <:+: s.client.response then s.complete (handler.handle s.client none)
      else
        match s.network.chunks with
        | [] => s.complete (handler.handle s.client (some s.network.ending))
        | chunk :: chunks => s.receive chunk chunks
  | some .asyncRead =>
      match s.network.chunks with
      | [] => s.complete (handleReadContent s.client (some s.network.ending))
      | chunk :: chunks =>
          let s := s.receive chunk chunks
          s.complete (handleReadContent s.client none)

end Session

/-- How far an operation is from the end of the chain. -/
def Operation.rank : Operation → Nat
  | .asyncResolve _ _ => 6
  | .asyncConnect => 5
  | .asyncWrite => 4
  | .asyncReadUntil _ .statusLine => 3
  | .asyncReadUntil _ .headers => 2
  | .asyncRead => 1

def startedRank (started : Option Operation) : Nat := (started.map Operation.rank).getD 0

def Session.rank (s : Session) : Nat := s.network.chunks.length + startedRank s.operation

/-! Every handler leads nearer to the end of the chain. -/

theorem handleResolve_rank (c : HttpClient) (err : Option ErrorCode) :
    startedRank (handleResolve c err).2 ≤ 5 := by
  cases err with
  | none => exact Nat.le_refl 5
  | some err => exact Nat.zero_le 5

theorem handleConnect_rank (c : HttpClient) (err : Option ErrorCode) :
    startedRank (handleConnect c err).2 ≤ 4 := by
  cases err with
  | none => exact Nat.le_refl 4
  | some err => exact Nat.zero_le 4

theorem handleReadStatusLine_rank (c : HttpClient) (err : Option ErrorCode) :
    startedRank (handleReadStatusLine c err).2 ≤ 2 := by
  cases err with
  | none =>
      unfold handleReadStatusLine
      dsimp only
      split_ifs
      · exact Nat.zero_le 2
      · exact Nat.zero_le 2
      · exact Nat.le_refl 2
  | some err => exact Nat.zero_le 2

theorem handleReadHeaders_rank (c : HttpClient) (err : Option ErrorCode) :
    startedRank (handleReadHeaders c err).2 ≤ 1 := by
  cases err with
  | none => exact Nat.le_refl 1
  | some err => exact Nat.zero_le 1

theorem handle_rank (h : LineHandler) (c : HttpClient) (err : Option ErrorCode)
    (delimiter : List Octet) :
    startedRank (h.handle c err).2 < (Operation.asyncReadUntil delimiter h).rank := by
  cases h with
  | statusLine => exact Nat.lt_succ_of_le (handleReadStatusLine_rank c err)
  | headers => exact Nat.lt_succ_of_le (handleReadHeaders_rank c err)

/-- A step runs a handler or receives a chunk. -/
theorem step_moves (s : Session) : s.step = s ∨
    s.step.network.chunks.length = s.network.chunks.length ∧
      startedRank s.step.operation < startedRank s.operation ∨
    s.step.network.chunks.length < s.network.chunks.length ∧
      startedRank s.step.operation ≤ startedRank s.operation := by
  obtain ⟨c, operation, sent, ⟨resolveError, connectError, writeError, chunks, ending⟩⟩ := s
  cases operation with
  | none => exact .inl rfl
  | some operation =>
      right
      cases operation with
      | asyncResolve server port =>
          exact .inl ⟨rfl, Nat.lt_succ_of_le (handleResolve_rank c resolveError)⟩
      | asyncConnect => exact .inl ⟨rfl, Nat.lt_succ_of_le (handleConnect_rank c connectError)⟩
      | asyncWrite =>
          cases writeError with
          | none => exact .inl ⟨rfl, Nat.lt_succ_self 3⟩
          | some failed => exact .inl ⟨rfl, Nat.succ_pos 3⟩
      | asyncReadUntil delimiter handler =>
          have nearer (err : Option ErrorCode) := handle_rank handler c err delimiter
          rw [Session.step]
          dsimp only
          split_ifs with found
          · exact .inl ⟨rfl, nearer none⟩
          · cases chunks with
            | nil => exact .inl ⟨rfl, nearer (some ending)⟩
            | cons chunk chunks => exact .inr ⟨Nat.lt_succ_self _, Nat.le_refl _⟩
      | asyncRead =>
          cases chunks with
          | nil => exact .inl ⟨rfl, Nat.succ_pos 0⟩
          | cons chunk chunks => exact .inr ⟨Nat.lt_succ_self _, Nat.le_refl 1⟩

theorem step_descends (s : Session) : s.step = s ∨ s.step.rank < s.rank := by
  rcases step_moves s with rest | ⟨chunks, operation⟩ | ⟨chunks, operation⟩
  · exact .inl rest
  · exact .inr (Nat.add_lt_add_of_le_of_lt chunks.le operation)
  · exact .inr (Nat.add_lt_add_of_lt_of_le chunks operation)

theorem step_operation_le (s : Session) :
    startedRank s.step.operation ≤ startedRank s.operation := by
  rcases step_moves s with rest | ⟨-, operation⟩ | ⟨-, operation⟩
  · rw [rest]
  · exact operation.le
  · exact operation

/-- The io_service runs the handlers until no operation is under way. -/
def ioService : Descent Session := ⟨Session.step, Session.rank, step_descends⟩

/-- `POST` has just been called. -/
def posted (c : HttpClient) (server port path data : List Octet) (network : Network) : Session :=
  ⟨(post c server port path data).1, (post c server port path data).2, [], network⟩

/-- The request has been written, all that was in the buffer with it. -/
def written (c : HttpClient) (server path data : List Octet) (network : Network) : Session :=
  ⟨⟨[], c.response, c.cout⟩, (handleWriteRequest c none).2,
    c.request ++ requestText server path data, network⟩

/-- No error before the response. -/
structure Network.Reached (network : Network) : Prop where
  resolved : network.resolveError = none
  connected : network.connectError = none
  written : network.writeError = none

section sending
variable (c : HttpClient) (server port path data : List Octet) {network : Network}

theorem posted_written (reached : network.Reached) :
    (posted c server port path data network).step.step.step =
      written c server path data network := by
  have resolved : (posted c server port path data network).step =
      ⟨(post c server port path data).1, some .asyncConnect, [], network⟩ := by
    rw [Session.step, posted, post]
    dsimp only
    rw [reached.resolved]
    rfl
  have connected : (Session.mk (post c server port path data).1 (some .asyncConnect) []
      network).step = ⟨(post c server port path data).1, some .asyncWrite, [], network⟩ := by
    rw [Session.step]
    dsimp only
    rw [reached.connected]
    rfl
  rw [resolved, connected, Session.step]
  dsimp only
  rw [reached.written, Session.send]
  dsimp only
  rw [List.drop_length, List.take_length]
  rfl

theorem posted_run (reached : network.Reached) :
    ioService.run (posted c server port path data network) =
      ioService.run (written c server path data network) := by
  rw [← posted_written c server port path data reached]
  exact ((ioService.run_step _).trans ((ioService.run_step _).trans (ioService.run_step _))).symm

/-- While the response is read nothing is sent. -/
theorem step_sent {s : Session} (late : startedRank s.operation ≤ 3) : s.step.sent = s.sent := by
  obtain ⟨c, operation, sent, ⟨resolveError, connectError, writeError, chunks, ending⟩⟩ := s
  cases operation with
  | none => rfl
  | some operation =>
      cases operation with
      | asyncResolve server port => exact absurd late (by decide : ¬ 6 ≤ 3)
      | asyncConnect => exact absurd late (by decide : ¬ 5 ≤ 3)
      | asyncWrite => exact absurd late (by decide : ¬ 4 ≤ 3)
      | asyncReadUntil delimiter handler =>
          rw [Session.step]
          dsimp only
          split_ifs with found
          · rfl
          · cases chunks <;> rfl
      | asyncRead => cases chunks <;> rfl

/-- The octets of the buffer are what the server receives. -/
theorem posted_sent (reached : network.Reached) :
    (ioService.run (posted c server port path data network)).sent =
      c.request ++ requestText server path data := by
  let Kept (s : Session) : Prop := startedRank s.operation ≤ 3 ∧
    s.sent = c.request ++ requestText server path data
  have kept : ∀ s, Kept s → Kept s.step := fun s kept =>
    ⟨(step_operation_le s).trans kept.1, (step_sent kept.1).trans kept.2⟩
  have start : Kept (written c server path data network) := ⟨Nat.le_refl 3, rfl⟩
  rw [posted_run c server port path data reached]
  exact (ioService.run_kept kept start).2

end sending

end Gumstix.Classes.HTTPClient
