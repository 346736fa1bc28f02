import FakeMuduo.Base.Search
import FakeMuduo.Http.HttpResponse
import FakeMuduo.Http.RequestText
import FakeMuduo.Net.BufferInvariant

/-! A client that takes the responses of a connection apart again: a head up to the first blank
line, and as many bytes of body as the head says. -/

namespace FakeMuduo.Http

open FakeMuduo.Base FakeMuduo.Net

namespace Client

/-- The end of a head: the last line's end and an empty line. -/
def headEnd : Text := [13, 10, 13, 10]

/-- The lines of a head, which its blank line no longer follows. -/
def headLines : Text → List Text
  | [] => [[]]
  | 13 :: 10 :: rest => [] :: headLines rest
  | byte :: rest =>
    match headLines rest with
    | [] => [[byte]]
    | line :: lines => (byte :: line) :: lines

def toLower (byte : Byte) : Byte := if 65 ≤ byte ∧ byte ≤ 90 then byte + 32 else byte

/-- Name and value of a header line; the value starts behind the colon and one space. -/
def field (line : Text) : Text × Text := (upTo 58 line, (startingAt 58 line).drop 2)

def isContentLength (name : Text) : Bool := name.map toLower == ascii "content-length"

def contentLength (fields : List (Text × Text)) : Option Nat := do
  let field ← fields.find? fun field => isContentLength field.1
  parseDecimal field.2

structure Message where
  statusLine : Text
  fields : List (Text × Text)
  body : Text
  deriving DecidableEq, Repr

/-- The first message of the bytes, and what comes after it. -/
def receive (bytes : Text) : Option (Message × Text) := do
  let offset ← search headEnd bytes
  let rest := bytes.drop (offset + headEnd.length)
  match headLines (bytes.take offset) with
  | [] => none
  | statusLine :: lines =>
    let fields := lines.map field
    let length ← contentLength fields
    if length ≤ rest.length then some (⟨statusLine, fields, rest.take length⟩, rest.drop length)
    else none

/-- Message after message until no byte is left; none is shorter than one byte. -/
def receiveUpTo : Nat → Text → Option (List Message)
  | _, [] => some []
  | 0, _ :: _ => none
  | fuel + 1, bytes => do
    let (message, rest) ← receive bytes
    let messages ← receiveUpTo fuel rest
    return message :: messages

def receiveAll (bytes : Text) : Option (List Message) := receiveUpTo bytes.length bytes

/-- The lines of a head with line ends between them. -/
def joined (first : Text) (lines : List Text) : Text :=
  first ++ lines.flatMap fun line => 13 :: 10 :: line

section Lines

variable {line : Text}

theorem headLines_line (free : 13 ∉ line) (rest : Text) :
    headLines (line ++ 13 :: 10 :: rest) = line :: headLines rest := by
  induction line with
  | nil => rfl
  | cons byte line ih =>
    have other : byte ≠ 13 := fun same => free (same ▸ List.mem_cons_self)
    have later := ih (List.not_mem_of_not_mem_cons free)
    rw [List.cons_append, headLines, later]
    intro more first
    exact absurd first other

theorem headLines_last (free : 13 ∉ line) : headLines line = [line] := by
  induction line with
  | nil => rfl
  | cons byte line ih =>
    have other : byte ≠ 13 := fun same => free (same ▸ List.mem_cons_self)
    rw [headLines, ih (List.not_mem_of_not_mem_cons free)]
    intro more first
    exact absurd first other

theorem joined_cons (first line : Text) (lines : List Text) :
    joined first (line :: lines) = first ++ 13 :: 10 :: joined line lines := by
  simp [joined]

/-- A line of a head can be told from the lines around it. -/
def IsLine (line : Text) : Prop := line ≠ [] ∧ 13 ∉ line

theorem headLines_joined {first : Text} {lines : List Text}
    (free : ∀ line ∈ first :: lines, IsLine line) :
    headLines (joined first lines) = first :: lines := by
  induction lines generalizing first with
  | nil =>
    rw [joined, List.flatMap_nil, List.append_nil]
    exact headLines_last (free first List.mem_cons_self).2
  | cons line lines ih =>
    rw [joined_cons, headLines_line (free first List.mem_cons_self).2]
    rw [ih (fun other member => free other (List.mem_cons_of_mem _ member))]

/-- The search for a pattern passes over a text without its first byte. -/
theorem search_skip {byte : Byte} (pattern : Text) (free : byte ∉ line) (rest : Text) :
    search (byte :: pattern) (line ++ rest) = (search (byte :: pattern) rest).map
      (· + line.length) := by
  induction line with
  | nil => simp
  | cons head line ih =>
    have other : byte ≠ head := List.ne_of_not_mem_cons free
    rw [List.cons_append, search, if_neg (by simp [other]), ih (List.not_mem_of_not_mem_cons free)]
    simp [Option.map_map, Function.comp_def, Nat.add_assoc]

/-- A line end is not the end of the head when another line follows. -/
theorem search_lineEnd (isLine : IsLine line) (rest : Text) :
    search headEnd (13 :: 10 :: (line ++ rest)) = (search headEnd (line ++ rest)).map (· + 2) := by
  obtain ⟨some, free⟩ := isLine
  cases line with
  | nil => exact absurd rfl some
  | cons byte line =>
    have other : 13 ≠ byte := List.ne_of_not_mem_cons free
    rw [search, if_neg (by simp [headEnd, other]), search, if_neg (by simp [headEnd])]
    simp [Option.map_map, Function.comp_def]

theorem search_joined {first : Text} {lines : List Text}
    (free : ∀ line ∈ first :: lines, IsLine line) (rest : Text) :
    search headEnd (joined first lines ++ (headEnd ++ rest)) =
      some (joined first lines).length := by
  induction lines generalizing first with
  | nil =>
    rw [joined, List.flatMap_nil, List.append_nil, headEnd,
      search_skip _ (free first List.mem_cons_self).2]
    simp [search]
  | cons line lines ih =>
    have later := ih (fun other member => free other (List.mem_cons_of_mem _ member))
    have next := free line (List.mem_cons_of_mem _ List.mem_cons_self)
    have passes : search headEnd (joined first (line :: lines) ++ (headEnd ++ rest)) =
        (search headEnd (13 :: 10 :: (joined line lines ++ (headEnd ++ rest)))).map
          (· + first.length) := by
      rw [joined_cons, List.append_assoc]
      exact search_skip _ (free first List.mem_cons_self).2 _
    rw [passes]
    have ends : search headEnd (13 :: 10 :: (joined line lines ++ (headEnd ++ rest))) =
        (search headEnd (joined line lines ++ (headEnd ++ rest))).map (· + 2) := by
      rw [joined, List.append_assoc]
      exact search_lineEnd next _
    rw [ends, later, joined_cons]
    simp
    omega

end Lines

theorem field_text {name : Text} (free : 58 ∉ name) (value : Text) :
    field (name ++ ascii ": " ++ value) = (name, value) := by
  have shape : name ++ ascii ": " ++ value = name ++ 58 :: 32 :: value := by
    simp [ascii]
  rw [field, shape, upTo_found free, startingAt_found free]
  rfl

/-- A head whose lines are lines and that says how long its body is, with that body behind it. -/
theorem receive_joined {first body : Text} {lines : List Text}
    (free : ∀ line ∈ first :: lines, IsLine line)
    (length : contentLength (lines.map field) = some body.length) (rest : Text) :
    receive (joined first lines ++ headEnd ++ (body ++ rest)) =
      some (⟨first, lines.map field, body⟩, rest) := by
  have taken : List.take (joined first lines).length
    (joined first lines ++ (headEnd ++ (body ++ rest))) =
      joined first lines := List.take_left
  have dropped : List.drop ((joined first lines).length + headEnd.length)
      (joined first lines ++ (headEnd ++ (body ++ rest))) = body ++ rest := by
    rw [← List.append_assoc, ← List.length_append, List.drop_left]
  simp only [receive, List.append_assoc, search_joined free, taken, dropped,
    headLines_joined free, length, Option.bind_eq_bind, Option.bind_some]
  simp

/-- Messages that are each received whatever follows them are received one after another. -/
theorem receiveUpTo_flatten {α : Type} {text : α → Text} {message : α → Message}
    {sent : List α} {fuel : Nat}
    (received : ∀ one ∈ sent, ∀ rest, receive (text one ++ rest) = some (message one, rest))
    (some : ∀ one ∈ sent, text one ≠ []) (enough : (sent.flatMap text).length ≤ fuel) :
    receiveUpTo fuel (sent.flatMap text) = .some (sent.map message) := by
  induction sent generalizing fuel with
  | nil => cases fuel <;> rfl
  | cons one sent ih =>
    have first := received one List.mem_cons_self (sent.flatMap text)
    have filled := some one List.mem_cons_self
    rw [List.flatMap_cons] at enough ⊢
    cases shape : text one with
    | nil => exact absurd shape filled
    | cons byte bytes =>
      rw [shape] at first enough
      cases fuel with
      | zero => simp at enough
      | succ fuel =>
        have shorter : (sent.flatMap text).length ≤ fuel := by
          simp only [List.cons_append, List.length_cons, List.length_append] at enough
          omega
        have later := ih (fun other member => received other (List.mem_cons_of_mem _ member))
          (fun other member => some other (List.mem_cons_of_mem _ member)) shorter
        simp only [List.cons_append] at first ⊢
        simp [receiveUpTo, first, later]

end Client

namespace HttpResponse

open Client

/-- What a client is to find of a response that keeps the connection open: its headers stand
behind the two that `appendToBuffer` adds. -/
def message (response : HttpResponse) : Message where
  statusLine := response.version.text ++ ascii " " ++
    decimal response.statusCode.value ++ ascii " " ++
    response.statusMessage
  fields := (ascii "Content-Length", decimal response.body.length) ::
    (ascii "Connection", ascii "keep-alive") :: response.headers
  body := response.body

/-- The responses that can be framed; a length of at most 13 digits fits in the
buffer of its line. -/
structure Framable (response : HttpResponse) : Prop where
  keepAlive : response.closeConnection = false
  versioned : response.version ≠ .kUnknownVersion
  statusMessage : 13 ∉ response.statusMessage ∧ 10 ∉ response.statusMessage
  names : ∀ header ∈ response.headers, 13 ∉ header.1 ∧ 10 ∉ header.1 ∧ 58 ∉ header.1
  values : ∀ header ∈ response.headers, 13 ∉ header.2 ∧ 10 ∉ header.2
  unframed : ∀ header ∈ response.headers, isContentLength header.1 = false
  body : response.body.length < 10000000000000

def fieldLine (field : Text × Text) : Text := field.1 ++ ascii ": " ++ field.2

variable {response : HttpResponse}

/-- The bytes of a response, laid out as a head and a body. -/
def bytes (response : HttpResponse) : Text :=
  joined response.message.statusLine (response.message.fields.map fieldLine) ++
    headEnd ++ response.body

theorem headerLines_flatten (headers : HeaderMap) :
    ascii "\r\n" ++ (headerLines headers).flatten =
      (headers.flatMap fun header => 13 :: 10 :: fieldLine header) ++ ascii "\r\n" := by
  induction headers with
  | nil => rfl
  | cons header headers ih =>
    have lineEnd : ascii "\r\n" = [13, 10] := rfl
    rw [List.flatMap_cons, List.append_assoc, ← ih]
    simp [headerLines, fieldLine, lineEnd]

theorem statusText_fits (version : Version) (statusCode : HttpStatusCode) :
    (version.text ++ ascii " " ++ decimal statusCode.value ++ ascii " ").length < 32 := by
  have digits : (decimal statusCode.value).length ≤ 3 := by
    apply decimal_length (by decide)
    cases statusCode <;> decide
  have letters : version.text.length ≤ 8 := by
    cases version <;> decide
  simp only [List.length_append, show (ascii " ").length = 1 from rfl]
  omega

theorem lengthText_fits {length : Nat} (bound : length < 10000000000000) :
    (ascii "Content-Length: " ++ decimal length ++ ascii "\r\n").length < 32 := by
  have digits : (decimal length).length ≤ 13 := decimal_length (by decide) bound
  simp only [List.length_append, show (ascii "Content-Length: ").length = 16 from rfl,
    show (ascii "\r\n").length = 2 from rfl]
  omega

/-- What `appendToBuffer` appends to a buffer is a head and a body. -/
theorem pieces_flatten (framable : Framable response) :
    ∃ pieces, response.pieces = .ok pieces ∧ pieces.flatten = response.bytes := by
  refine ⟨_, by simp only [pieces, versionToStr, check_pass _ framable.versioned, ok_bind]; rfl, ?_⟩
  have status := snprintf_fits (statusText_fits response.version response.statusCode)
  have length := snprintf_fits (lengthText_fits framable.body)
  have lineEnd : ascii "\r\n" = [13, 10] := rfl
  have separator : ascii "Content-Length: " = ascii "Content-Length" ++ ascii ": " := rfl
  have connection : ascii "Connection: keep-alive\r\n" =
      ascii "Connection" ++ (ascii ": " ++ (ascii "keep-alive" ++ [13, 10])) := rfl
  have headers : (response.headers.flatMap fun header => 13 :: 10 :: fieldLine header) ++
      (headEnd ++ response.body) =
      [13, 10] ++ ((headerLines response.headers).flatten ++ ([13, 10] ++ response.body)) := by
    calc
      _ = ((response.headers.flatMap fun header => 13 :: 10 :: fieldLine header) ++ ascii "\r\n") ++
          ([13, 10] ++ response.body) := by simp [headEnd, lineEnd]
      _ = _ := by rw [← headerLines_flatten, List.append_assoc, lineEnd]
  rw [status, length, framable.keepAlive, bytes, joined, List.append_assoc, List.append_assoc]
  simp only [message, List.map_cons, List.flatMap_cons, List.flatMap_map,
    List.append_assoc, headers]
  simp [fieldLine, lineEnd, separator, connection]

theorem fieldLine_isLine {field : Text × Text} (name : 13 ∉ field.1) (value : 13 ∉ field.2) :
    IsLine (fieldLine field) := by
  refine ⟨?_, ?_⟩
  · simp [fieldLine, ascii]
  · simp [fieldLine, ascii, name, value]

theorem decimal_free {byte : Byte} (other : Char.isDigit (Char.ofNat byte.toNat) = false)
    (number : Nat) :
    byte ∉ decimal number := by
  intro member
  have inside : Char.ofNat byte.toNat ∈ chars (decimal number) := List.mem_map_of_mem member
  rw [chars_decimal] at inside
  have digit := Nat.isDigit_of_mem_toDigits (by decide) (by decide) inside
  rw [other] at digit
  cases digit

theorem message_isLine (framable : Framable response) :
    ∀ line ∈ response.message.statusLine :: response.message.fields.map fieldLine, IsLine line := by
  have digits : ∀ number, 13 ∉ decimal number := decimal_free (by decide)
  intro line member
  rcases List.mem_cons.mp member with rfl | inFields
  · refine ⟨?_, ?_⟩
    · simp [message, ascii]
    · simp [message, ascii, RequestText.version_text_free, digits, framable.statusMessage]
  · obtain ⟨field, inside, rfl⟩ := List.mem_map.mp inFields
    rcases List.mem_cons.mp inside with rfl | later
    · exact fieldLine_isLine (by simp [ascii]) (digits _)
    · rcases List.mem_cons.mp later with rfl | user
      · exact fieldLine_isLine (by simp [ascii]) (by simp [ascii])
      · exact fieldLine_isLine (framable.names field user).1 (framable.values field user).1

theorem map_field_fieldLine (framable : Framable response) :
    (response.message.fields.map fieldLine).map field = response.message.fields := by
  rw [List.map_map]
  refine (List.map_congr_left ?_).trans (List.map_id _)
  intro entry inside
  have free : 58 ∉ entry.1 := by
    rcases List.mem_cons.mp inside with rfl | later
    · simp [ascii]
    · rcases List.mem_cons.mp later with rfl | user
      · simp [ascii]
      · exact (framable.names entry user).2.2
  exact field_text free entry.2

/-- A client that reads the bytes of a response finds it, whatever follows. -/
theorem receive_bytes (framable : Framable response) (rest : Text) :
    receive (response.bytes ++ rest) = some (response.message, rest) := by
  have fields := map_field_fieldLine framable
  have length : contentLength ((response.message.fields.map fieldLine).map field) =
      some response.body.length := by
    rw [fields]
    exact parseDecimal_decimal _
  have received := receive_joined (message_isLine framable) length rest
  rw [fields] at received
  rw [bytes, List.append_assoc]
  exact received

theorem appendToBuffer_bytes (framable : Framable response) {buffer : Buffer}
    (valid : buffer.Valid) :
    Buffer.Returns (response.appendToBuffer buffer) (buffer.toString ++ response.bytes) := by
  obtain ⟨pieces, returned, content⟩ := pieces_flatten framable
  rw [appendToBuffer, returned, ok_bind, ← content]
  exact Buffer.foldlM_append_returns pieces valid

theorem appendAll_bytes {responses : List HttpResponse}
    (framable : ∀ response ∈ responses, Framable response) {buffer : Buffer}
    (valid : buffer.Valid) :
    Buffer.Returns
      (responses.foldlM (fun outBuffer response => response.appendToBuffer outBuffer) buffer)
      (buffer.toString ++ responses.flatMap bytes) := by
  induction responses generalizing buffer with
  | nil => exact ⟨buffer, rfl, valid, by simp⟩
  | cons response responses ih =>
    obtain ⟨more, appended, moreValid, content⟩ :=
      appendToBuffer_bytes (framable response List.mem_cons_self) valid
    have later := ih (fun other member => framable other (List.mem_cons_of_mem _ member)) moreValid
    rw [content] at later
    simpa [List.foldlM_cons, appended] using later

/-- Responses appended one after another are found again by the client, all of
them and nothing else. -/
theorem responses_framed (responses : List HttpResponse)
    (framable : ∀ response ∈ responses, Framable response) {buffer : Buffer} (valid : buffer.Valid)
    (empty : buffer.toString = []) :
    ∃ filled, responses.foldlM (fun outBuffer response => response.appendToBuffer outBuffer)
      buffer = .ok filled ∧
      receiveAll filled.toString = some (responses.map message) := by
  obtain ⟨filled, returned, _, content⟩ := appendAll_bytes framable valid
  refine ⟨filled, returned, ?_⟩
  rw [content, empty, List.nil_append]
  refine receiveUpTo_flatten ?_ ?_ (Nat.le_refl _)
  · intro response member rest
    exact receive_bytes (framable response member) rest
  · intro response _
    simp [bytes, headEnd]

/-- A body that looks like the end of a head. -/
def blankPage : HttpResponse :=
  ⟨.kHttp11, .k200OK, ascii "OK", [(ascii "Connection", ascii " : x")], false, [13, 10, 13, 10, 0]⟩

theorem blankPage_framable : Framable blankPage := by
  refine ⟨rfl, ?_, ?_, ?_, ?_, ?_, ?_⟩
  · simp [blankPage]
  · simp [blankPage, ascii]
  · simp [blankPage, ascii]
  · simp [blankPage, ascii]
  · simp [blankPage, ascii, isContentLength, toLower]
  · simp [blankPage]

theorem responses_framed_blankPage :
    ∃ filled, [blankPage, blankPage].foldlM (fun outBuffer response =>
      response.appendToBuffer outBuffer)
        (Buffer.create Buffer.kInitialSize) = .ok filled ∧
      receiveAll filled.toString = some [blankPage.message, blankPage.message] :=
  responses_framed [blankPage, blankPage] (by simp [blankPage_framable]) (Buffer.create_valid _)
    (Buffer.create_toString _)

end HttpResponse

end FakeMuduo.Http
