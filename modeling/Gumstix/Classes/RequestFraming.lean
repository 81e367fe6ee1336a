import Gumstix.Classes.HTTPClient
import Gumstix.Library.HttpRequests

/-!
# Requests in the buffer of `HTTPClient`

The `Content-Length` that `POST` announces counts the octets of the data, and a line end follows
them that it does not count. What is read back stops after the first request.
-/
namespace Gumstix.Classes.HTTPClient
open OctetText ItemReader CharacterStreams HttpRequests

/-- The arguments of one call of `POST`. -/
structure Post where
  server : List Octet
  port : List Octet
  path : List Octet
  data : List Octet

/-- Neither spaces nor line ends in server and path. -/
structure Post.Plain (p : Post) : Prop where
  server : 0x20 ∉ p.server ∧ cr ∉ p.server ∧ lf ∉ p.server
  path : 0x20 ∉ p.path ∧ cr ∉ p.path ∧ lf ∉ p.path

def measureServer : List Octet := octets "enigmatic-cliffs-5746.herokuapp.com"

def measurePath : List Octet := octets "/alfheimweb/measure/"

/-- The call that `SendTemp` and `SendPresence` of `Gestionnaire` make. -/
def measurePost (sensorType value time : List Octet) : Post where
  server := measureServer
  port := octets "80"
  path := measurePath
  data := octets "sensor_type=" ++ sensorType ++ octets "&device_sn=0008&time=" ++ time ++
    octets "&value=" ++ value

def sendTemp (strTemp time : List Octet) : Post := measurePost (octets "temp") strTemp time

def sendPresence (presence time : List Octet) : Post :=
  measurePost (octets "presence") presence time

/-- Calls of `POST`, one after the other. -/
def postAll (c : HttpClient) : List Post → HttpClient
  | [] => c
  | p :: posts => postAll (post c p.server p.port p.path p.data).1 posts

/-- The request is what the call stands for. -/
structure IsPost (p : Post) (r : Request) : Prop where
  method : r.method = octets "POST"
  target : r.target = p.path
  host : valueOf "host" r.fields = some p.server
  body : r.body = p.data

/-- One request for each call, in their order, and no octet left. -/
def Framed (posts : List Post) (l : List Octet) : Prop :=
  List.Forall₂ IsPost posts (requestReader.all l).1 ∧ (requestReader.all l).2 = []

namespace Post
variable (p : Post)

def text : List Octet := requestText p.server p.path p.data

def requestLine : List Octet := octets "POST" ++ [0x20] ++ (p.path ++ [0x20] ++ octets "HTTP/1.1")

def headerLines : List (List Octet) :=
  [octets "Host" ++ [0x3A] ++ (0x20 :: p.server),
    octets "Accept" ++ [0x3A] ++ octets " */*",
    octets "Connection" ++ [0x3A] ++ octets " close",
    octets "Content-Length" ++ [0x3A] ++ decimal p.data.length]

def fields : List Field :=
  [⟨octets "Host", trimBlanks p.server⟩, ⟨octets "Accept", octets "*/*"⟩,
    ⟨octets "Connection", octets "close"⟩, ⟨octets "Content-Length", decimal p.data.length⟩]

/-- What a reader makes of the text. -/
def request : Request := ⟨octets "POST", p.path, p.fields, p.data⟩

end Post

theorem postAll_request (c : HttpClient) (posts : List Post) :
    (postAll c posts).request = c.request ++ posts.flatMap Post.text := by
  induction posts generalizing c with
  | nil => exact (List.append_nil _).symm
  | cons p posts ih =>
      rw [postAll, ih, List.flatMap_cons, ← List.append_assoc]
      rfl

section one
variable {p : Post}

/-- The line end after the data. -/
theorem text_eq (p : Post) : p.text = head p.requestLine p.headerLines ++ (p.data ++ crlf) := by
  have lineEnd : octets "\r\n" = crlf := rfl
  have version : octets " HTTP/1.1\r\n" = [0x20] ++ octets "HTTP/1.1" ++ crlf := rfl
  have accept : octets "Accept: */*\r\n" = octets "Accept" ++ [0x3A] ++ octets " */*" ++ crlf := rfl
  have connection : octets "Connection: close\r\n" =
      octets "Connection" ++ [0x3A] ++ octets " close" ++ crlf := rfl
  have method : octets "POST " = octets "POST" ++ [0x20] := rfl
  have host : octets "Host: " = octets "Host" ++ [0x3A] ++ [0x20] := rfl
  have length : octets "Content-Length:" = octets "Content-Length" ++ [0x3A] := rfl
  have twice : octets "\r\n\r\n" = crlf ++ crlf := rfl
  rw [Post.text, requestText, head, Post.requestLine, Post.headerLines, lineEnd, version, accept,
    connection, method, host, length, twice]
  simp only [List.flatMap_cons, List.flatMap_nil, List.append_assoc, List.cons_append,
    List.nil_append]

theorem cr_notMem_decimal (n : Nat) : cr ∉ decimal n := fun mem =>
  absurd (isDigit_of_mem_decimal mem) (by decide)

theorem requestLine_free (plain : p.Plain) : cr ∉ p.requestLine := by
  have method : cr ∉ octets "POST" ++ [0x20] := by decide
  have version : cr ∉ [0x20] ++ octets "HTTP/1.1" := by decide
  rw [Post.requestLine, List.append_assoc p.path]
  exact List.not_mem_append method (List.not_mem_append plain.path.2.1 version)

theorem headerLines_plain (plain : p.Plain) : ∀ l ∈ p.headerLines, l ≠ [] ∧ cr ∉ l := by
  have host : cr ∉ octets "Host" ++ [0x3A] ++ (0x20 :: p.server) := by
    refine List.not_mem_append (by decide) fun mem => ?_
    rcases List.mem_cons.mp mem with space | mem
    · exact absurd space (by decide)
    · exact plain.server.2.1 mem
  have length : cr ∉ octets "Content-Length" ++ [0x3A] ++ decimal p.data.length :=
    List.not_mem_append (by decide) (cr_notMem_decimal _)
  rw [Post.headerLines]
  simp only [List.forall_mem_cons, List.not_mem_nil, false_implies, implies_true, and_true]
  exact ⟨⟨List.cons_ne_nil _ _, host⟩, by decide, by decide, List.cons_ne_nil _ _, length⟩

theorem headerLines_fields (p : Post) : p.headerLines.mapM readField = some p.fields := by
  have host : readField (octets "Host" ++ [0x3A] ++ (0x20 :: p.server)) =
      some ⟨octets "Host", trimBlanks p.server⟩ := readField_eq (by decide) (by decide) _
  have accept : readField (octets "Accept" ++ [0x3A] ++ octets " */*") =
      some ⟨octets "Accept", octets "*/*"⟩ := by decide
  have connection : readField (octets "Connection" ++ [0x3A] ++ octets " close") =
      some ⟨octets "Connection", octets "close"⟩ := by decide
  have digits : trimBlanks (decimal p.data.length) = decimal p.data.length :=
    trimBlanks_of_notBlank fun b mem => (digit_plain b (isDigit_of_mem_decimal mem)).2
  have length : readField (octets "Content-Length" ++ [0x3A] ++ decimal p.data.length) =
      some ⟨octets "Content-Length", decimal p.data.length⟩ := by
    rw [readField_eq (by decide) (by decide), digits]
  rw [Post.headerLines]
  simp only [List.mapM_cons, List.mapM_nil, host, accept, connection, length]
  rfl

/-- The text of a call is read as its request, and the line end after the data is left. -/
theorem readRequest_text (plain : p.Plain) (rest : List Octet) :
    readRequest (p.text ++ rest) = some (p.request, crlf ++ rest) := by
  have line : readRequestLine p.requestLine = some (octets "POST", p.path) :=
    readRequestLine_eq (by decide) (by decide) plain.path.1
  rw [text_eq, List.append_assoc, List.append_assoc]
  exact readRequest_append (requestLine_free plain) (headerLines_plain plain) line
    (headerLines_fields p) rfl (crlf ++ rest)

/-- Without tabulators in the name of the server the request is the one that was meant. -/
theorem isPost_request (plain : p.Plain) (noTab : 0x09 ∉ p.server) : IsPost p p.request := by
  have kept : trimBlanks p.server = p.server := by
    refine trimBlanks_of_notBlank fun b mem => ?_
    rw [isBlank, Bool.or_eq_false_iff, decide_eq_false_iff_not, decide_eq_false_iff_not]
    exact ⟨fun space => plain.server.1 (space ▸ mem), fun tab => noTab (tab ▸ mem)⟩
  refine ⟨rfl, rfl, ?_, rfl⟩
  change some (trimBlanks p.server) = _
  rw [kept]

end one

/-- Reading stops at the line end after the data of the first call. -/
theorem all_texts {p : Post} (plain : p.Plain) (posts : List Post) :
    requestReader.all ((p :: posts).flatMap Post.text) =
      ([p.request], crlf ++ posts.flatMap Post.text) := by
  have first := readRequest_text plain (posts.flatMap Post.text)
  rw [List.flatMap_cons, Reader.all_of_some first,
    Reader.all_of_none (readRequest_crlf (posts.flatMap Post.text))]

/-- What a server reads of a single call on a network without errors. -/
theorem posted_read {c : HttpClient} (empty : c.request = []) {p : Post} (plain : p.Plain)
    {network : Network} (reached : network.Reached) :
    requestReader.all
        (ioService.run (posted c p.server p.port p.path p.data network)).sent =
      ([p.request], crlf) := by
  have sent := posted_sent c p.server p.port p.path p.data reached
  have text : p.text = [p].flatMap Post.text := (List.append_nil p.text).symm
  rw [sent, empty, List.nil_append]
  change requestReader.all p.text = _
  rw [text]
  exact all_texts plain []

/-- After a line end that is left of an earlier call, a reader that ignores an empty line finds
every call. -/
theorem tolerant_texts {posts : List Post} (plain : ∀ p ∈ posts, p.Plain) :
    tolerantReader.all (crlf ++ posts.flatMap Post.text) = (posts.map Post.request, crlf) := by
  induction posts with
  | nil => exact Reader.all_of_none rfl
  | cons p posts ih =>
      have read : tolerantReader.read (crlf ++ (p :: posts).flatMap Post.text) =
          some (p.request, crlf ++ posts.flatMap Post.text) := by
        rw [tolerantReader_crlf, List.flatMap_cons]
        exact readRequest_text (plain p List.mem_cons_self) _
      rw [Reader.all_of_some read, ih fun p' mem => plain p' (List.mem_cons_of_mem p mem)]
      rfl

/-- Such a reader finds every call in the buffer, and is left with the line end of the last. -/
theorem posts_read_tolerant {c : HttpClient} (empty : c.request = []) {posts : List Post}
    (plain : ∀ p ∈ posts, p.Plain) :
    tolerantReader.all (postAll c posts).request =
      (posts.map Post.request, if posts = [] then [] else crlf) := by
  rw [postAll_request, empty, List.nil_append]
  cases posts with
  | nil => rfl
  | cons p posts =>
      have first : tolerantReader.read ((p :: posts).flatMap Post.text) =
          some (p.request, crlf ++ posts.flatMap Post.text) := by
        rw [List.flatMap_cons]
        exact readRequest_text (plain p List.mem_cons_self) _
      rw [Reader.all_of_some first,
        tolerant_texts fun p' mem => plain p' (List.mem_cons_of_mem p mem),
        if_neg (List.cons_ne_nil p posts)]
      rfl

/-- Without tabulators in the names of the servers these are the requests that were meant. -/
theorem posts_meant_tolerant {c : HttpClient} (empty : c.request = []) {posts : List Post}
    (plain : ∀ p ∈ posts, p.Plain) (noTab : ∀ p ∈ posts, 0x09 ∉ p.server) :
    List.Forall₂ IsPost posts (tolerantReader.all (postAll c posts).request).1 := by
  rw [posts_read_tolerant empty plain, List.forall₂_map_right_iff, List.forall₂_same]
  exact fun p mem => isPost_request (plain p mem) (noTab p mem)

/-- `POST` frames its requests only as long as there are none. -/
theorem posts_framed_iff {c : HttpClient} (empty : c.request = []) {posts : List Post}
    (plain : ∀ p ∈ posts, p.Plain) : Framed posts (postAll c posts).request ↔ posts = [] := by
  rw [postAll_request, empty, List.nil_append, Framed]
  cases posts with
  | nil => exact iff_of_true ⟨.nil, rfl⟩ rfl
  | cons p posts =>
      rw [all_texts (plain p List.mem_cons_self)]
      exact iff_of_false (fun framed => absurd framed.2 (List.cons_ne_nil _ _))
        (List.cons_ne_nil p posts)

theorem measurePost_plain (sensorType value time : List Octet) :
    (measurePost sensorType value time).Plain := by
  have server : 0x20 ∉ measureServer ∧ cr ∉ measureServer ∧ lf ∉ measureServer := by decide
  have path : 0x20 ∉ measurePath ∧ cr ∉ measurePath ∧ lf ∉ measurePath := by decide
  exact ⟨server, path⟩

/-- One measurement, at a time that `GetTime` gives. -/
def oneMeasurement : List Post := [sendTemp (octets "21.5") (octets "04/12/2013 10:00:00")]

theorem oneMeasurement_plain : ∀ p ∈ oneMeasurement, p.Plain := fun _ mem =>
  List.mem_singleton.mp mem ▸ measurePost_plain _ _ _

theorem posts_framed_iff_oneMeasurement :
    ¬ Framed oneMeasurement (postAll (constructed ⟨[], false⟩) oneMeasurement).request := by
  intro framed
  exact absurd ((posts_framed_iff rfl oneMeasurement_plain).mp framed) (List.cons_ne_nil _ _)

/-- Already a single call leaves its line end. -/
theorem posts_framed_refuted :
    ¬ ∀ (c : HttpClient) (posts : List Post), c.request = [] → (∀ p ∈ posts, p.Plain) →
      Framed posts (postAll c posts).request := by
  intro every
  obtain ⟨-, left⟩ := every (constructed ⟨[], false⟩) oneMeasurement rfl oneMeasurement_plain
  rw [postAll_request] at left
  have read := all_texts (measurePost_plain (octets "temp") (octets "21.5")
    (octets "04/12/2013 10:00:00")) []
  exact absurd (left.symm.trans (congrArg Prod.snd read)) (List.cons_ne_nil _ _).symm

end Gumstix.Classes.HTTPClient
