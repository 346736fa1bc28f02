import FakeMuduo.Http.HttpResponse
import FakeMuduo.Http.LineParser

/-! Requests as a client writes them, and that the parser reads them back. -/

namespace FakeMuduo.Http

open FakeMuduo.Base FakeMuduo.Net HttpContext StateTransition

/-- A header line, with optional white space around its value. -/
structure FieldLine where
  field : Text
  leading : Text
  value : Text
  trailing : Text
  plainField : ∀ byte ∈ field, byte ≠ 58 ∧ byte ≠ 13 ∧ byte ≠ 10
  plainValue : ∀ byte ∈ value, byte ≠ 13 ∧ byte ≠ 10
  startsDark : ∀ byte ∈ value.head?, isspace byte = false
  endsDark : ∀ byte ∈ value.getLast?, isspace byte = false
  blankLeading : ∀ byte ∈ leading, byte = 32 ∨ byte = 9
  blankTrailing : ∀ byte ∈ trailing, byte = 32 ∨ byte = 9

def FieldLine.text (line : FieldLine) : Text :=
  line.field ++ 58 :: (line.leading ++ line.value ++ line.trailing)

/-- A well-formed request without a body. -/
structure RequestText where
  method : Method
  path : Text
  query : Text
  version : Version
  fields : List FieldLine
  knownMethod : method ≠ .kInvalidMethod
  knownVersion : version ≠ .kUnknownVersion
  plainPath : ∀ byte ∈ path, byte ≠ 32 ∧ byte ≠ 63 ∧ byte ≠ 13 ∧ byte ≠ 10
  plainQuery : ∀ byte ∈ query, byte ≠ 32 ∧ byte ≠ 13 ∧ byte ≠ 10
  markedQuery : ∀ byte ∈ query.head?, byte = 63

namespace RequestText

def line (text : RequestText) : Text :=
  text.method.text ++ 32 :: (text.path ++ text.query ++ 32 :: text.version.text)

def fieldBytes (fields : List FieldLine) : Text :=
  fields.flatMap fun field => field.text ++ Buffer.kCRLF

def bytes (text : RequestText) : Text :=
  text.line ++ Buffer.kCRLF ++ (fieldBytes text.fields ++ Buffer.kCRLF)

/-- The headers, in which a later line replaces an earlier one of the same field. -/
def assigned (fields : List FieldLine) (headers : HeaderMap) : HeaderMap :=
  fields.foldl (fun headers line => headers.assign line.field line.value) headers

/-- The request that the text denotes, without a time of arrival. -/
def request (text : RequestText) : HttpRequest :=
  ⟨text.method, text.version, text.path, text.query, 0, assigned text.fields []⟩

end RequestText

section Tokens

variable {byte : Byte} {before : Text}

theorem upTo_found (absent : byte ∉ before) (after : Text) :
    upTo byte (before ++ byte :: after) = before := by
  rw [upTo, List.takeWhile_append_of_pos, List.takeWhile_cons_of_neg, List.append_nil]
  · simp
  · intro other member
    exact bne_iff_ne.mpr (ne_of_mem_of_not_mem member absent)

theorem startingAt_found (absent : byte ∉ before) (after : Text) :
    startingAt byte (before ++ byte :: after) = byte :: after := by
  rw [startingAt, List.dropWhile_append_of_pos, List.dropWhile_cons_of_neg]
  · simp
  · intro other member
    exact bne_iff_ne.mpr (ne_of_mem_of_not_mem member absent)

theorem upTo_absent (absent : byte ∉ before) : upTo byte before = before := by
  rw [upTo, List.takeWhile_eq_self_iff]
  intro other member
  exact bne_iff_ne.mpr (ne_of_mem_of_not_mem member absent)

theorem startingAt_absent (absent : byte ∉ before) : startingAt byte before = [] := by
  rw [startingAt, List.dropWhile_eq_nil_iff]
  intro other member
  exact bne_iff_ne.mpr (ne_of_mem_of_not_mem member absent)

theorem isspace_of_blank {byte : Byte} (blank : byte = 32 ∨ byte = 9) : isspace byte = true := by
  rcases blank with space | tab
  · subst space
    rfl
  · subst tab
    rfl

theorem dropWhile_blank {blank rest : Text} (spaces : ∀ byte ∈ blank, isspace byte = true)
    (dark : ∀ byte ∈ rest.head?, isspace byte = false) :
    (blank ++ rest).dropWhile isspace = rest := by
  rw [List.dropWhile_append_of_pos spaces]
  rcases rest with _ | ⟨first, rest⟩
  · rfl
  · rw [List.dropWhile_cons_of_neg (by simp [dark first rfl])]

/-- Trimming gives back a value that neither starts nor ends with white space. -/
theorem FieldLine.trim (line : FieldLine) :
    ((line.leading ++ line.value ++ line.trailing).dropWhile isspace).rdropWhile isspace =
      line.value := by
  have leading : ∀ byte ∈ line.leading, isspace byte = true := fun byte member =>
    isspace_of_blank (line.blankLeading byte member)
  have trailing : ∀ byte ∈ line.trailing, isspace byte = true := fun byte member =>
    isspace_of_blank (line.blankTrailing byte member)
  rw [List.append_assoc]
  rcases empty : line.value with _ | ⟨first, rest⟩
  · rw [List.nil_append, List.dropWhile_append_of_pos leading,
      List.dropWhile_eq_nil_iff.mpr trailing, List.rdropWhile_nil]
  · have front : (line.leading ++ (first :: rest ++ line.trailing)).dropWhile isspace =
        first :: rest ++ line.trailing := by
      refine dropWhile_blank leading ?_
      intro byte head
      exact line.startsDark byte (by rw [empty]; exact head)
    rw [front, ← empty, List.rdropWhile, List.reverse_append, dropWhile_blank, List.reverse_reverse]
    · simpa using trailing
    · rw [List.head?_reverse]
      exact line.endsDark

end Tokens

section Lines

variable {line : Text}

/-- The first line of a text, when it has no CR. -/
theorem first_line (free : 13 ∉ line) (rest : Text) :
    search Buffer.kCRLF (line ++ Buffer.kCRLF ++ rest) = some line.length ∧
      (line ++ Buffer.kCRLF ++ rest).take line.length = line ∧
      (line ++ Buffer.kCRLF ++ rest).drop (line.length + 2) = rest := by
  refine ⟨search_first [10] rest free, by simp, ?_⟩
  rw [List.append_assoc, ← List.drop_drop, List.drop_left]
  rfl

theorem lineStep_requestLine {request after : HttpRequest} (free : 13 ∉ line)
    (accepted : processRequestLine request line = (true, after)) (rest : Text) :
    lineStep (⟨.kParseRequestLine, request⟩, line ++ Buffer.kCRLF ++ rest) =
      some (⟨.kParseHeaders, after⟩, rest) := by
  obtain ⟨found, first, left⟩ := first_line free rest
  simp only [lineStep, found, first, left, accepted, if_true]

theorem FieldLine.free (line : FieldLine) : 13 ∉ line.text := by
  intro member
  rcases List.mem_append.mp member with inField | inRest
  · exact (line.plainField 13 inField).2.1 rfl
  · rcases List.mem_cons.mp inRest with colon | inRest
    · cases colon
    · rw [List.mem_append, List.mem_append] at inRest
      rcases inRest with (inLeading | inValue) | inTrailing
      · rcases line.blankLeading 13 inLeading with blank | blank <;> cases blank
      · exact (line.plainValue 13 inValue).1 rfl
      · rcases line.blankTrailing 13 inTrailing with blank | blank <;> cases blank

theorem lineStep_field (request : HttpRequest) (line : FieldLine) (rest : Text) :
    lineStep (⟨.kParseHeaders, request⟩, line.text ++ Buffer.kCRLF ++ rest) =
      some (⟨.kParseHeaders,
        { request with headers := request.headers.assign line.field line.value }⟩, rest) := by
  obtain ⟨found, first, left⟩ := first_line line.free rest
  have noColon : 58 ∉ line.field := fun member => (line.plainField 58 member).1 rfl
  simp only [lineStep, found, first, left]
  rw [FieldLine.text, upTo_found noColon, startingAt_found noColon]
  simp only [HttpRequest.addHeader, FieldLine.trim]

theorem lineStep_blank (request : HttpRequest) (rest : Text) :
    lineStep (⟨.kParseHeaders, request⟩, Buffer.kCRLF ++ rest) =
      some (⟨.kAllDone, request⟩, rest) := by
  obtain ⟨found, first, left⟩ := first_line (List.not_mem_nil : (13 : Byte) ∉ []) rest
  simp only [List.nil_append] at found first left
  simp only [lineStep, found, first, left]
  rfl

theorem reaches_fields (fields : List FieldLine) (request : HttpRequest) (rest : Text) :
    Reaches lineStep (⟨.kParseHeaders, request⟩, RequestText.fieldBytes fields ++
      Buffer.kCRLF ++ rest)
      (⟨.kAllDone, { request with headers := RequestText.assigned fields request.headers }⟩,
        rest) := by
  induction fields generalizing request with
  | nil => exact .single (lineStep_blank request rest)
  | cons line fields ih =>
    have split : RequestText.fieldBytes (line :: fields) ++ Buffer.kCRLF ++ rest =
        line.text ++ Buffer.kCRLF ++ (RequestText.fieldBytes fields ++ Buffer.kCRLF ++ rest) := by
      simp [RequestText.fieldBytes]
    rw [split]
    exact .head (lineStep_field request line _) (ih _)

end Lines

namespace RequestText

variable (text : RequestText)

theorem version_text_free (version : Version) : 13 ∉ version.text := by
  cases version <;> decide

theorem method_text_free (method : Method) : 13 ∉ method.text ∧ 32 ∉ method.text := by
  cases method <;> decide

theorem line_free : 13 ∉ text.line := by
  intro member
  simp only [line, List.mem_append, List.mem_cons] at member
  rcases member with inMethod | space | (inPath | inQuery) | space | inVersion
  · exact (method_text_free text.method).1 inMethod
  · cases space
  · exact (text.plainPath 13 inPath).2.2.1 rfl
  · exact (text.plainQuery 13 inQuery).2.1 rfl
  · cases space
  · exact version_text_free text.version inVersion

theorem processVersion_text (request : HttpRequest) :
    processVersion request text.version.text = (true, request.setVersion text.version) := by
  rcases version : text.version
  · exact (text.knownVersion version).elim
  all_goals rfl

theorem setMethod_text (request : HttpRequest) :
    request.setMethod text.method.text = (true, { request with method := text.method }) := by
  rcases method : text.method
  · exact (text.knownMethod method).elim
  all_goals rfl

theorem processTarget_text (request : HttpRequest) (unqueried : request.query = []) :
    processTarget request (text.path ++ text.query) =
      { request with path := text.path, query := text.query } := by
  have noMark : 63 ∉ text.path := fun member => (text.plainPath 63 member).2.1 rfl
  unfold processTarget
  rcases query : text.query with _ | ⟨mark, rest⟩
  · rw [List.append_nil, upTo_absent noMark, startingAt_absent noMark]
    simp [HttpRequest.setPath, unqueried]
  · have isMark : mark = 63 := text.markedQuery mark (by rw [query]; rfl)
    subst isMark
    rw [upTo_found noMark, startingAt_found noMark]
    rfl

theorem processRequestLine_text :
    processRequestLine .new text.line =
      (true, ⟨text.method, text.version, text.path, text.query, 0, []⟩) := by
  have noSpace := (method_text_free text.method).2
  have target : 32 ∉ text.path ++ text.query := by
    intro member
    rcases List.mem_append.mp member with inPath | inQuery
    · exact (text.plainPath 32 inPath).1 rfl
    · exact (text.plainQuery 32 inQuery).1 rfl
  simp only [processRequestLine, line, startingAt_found noSpace, upTo_found noSpace, setMethod_text,
    startingAt_found target, upTo_found target, if_true]
  rw [processTarget_text _ _ rfl, processVersion_text]
  rfl

/-- A request is read back whatever follows it. -/
theorem reaches_request (rest : Text) :
    Reaches lineStep (.new, text.bytes ++ rest) (⟨.kAllDone, text.request⟩, rest) := by
  have split : text.bytes ++ rest =
      text.line ++ Buffer.kCRLF ++ (fieldBytes text.fields ++ Buffer.kCRLF ++ rest) := by
    simp [bytes]
  rw [split]
  exact .head (lineStep_requestLine text.line_free text.processRequestLine_text _)
    (reaches_fields text.fields _ rest)

/-- `GET /?q HTTP/1.1` with a `Host`. -/
def queried : RequestText where
  method := .kGet
  path := ascii "/"
  query := ascii "?q"
  version := .kHttp11
  fields := [⟨ascii "Host", ascii " ", ascii "fm", [], by simp [ascii], by simp [ascii], by
    simp [ascii, isspace], by simp [ascii, isspace], by simp [ascii], by simp⟩]
  knownMethod := by simp
  knownVersion := by simp
  plainPath := by simp [ascii]
  plainQuery := by simp [ascii]
  markedQuery := by simp [ascii]

/-- `PUT /a HTTP/1.0` with `X` twice. -/
def repeated : RequestText where
  method := .kPut
  path := ascii "/a"
  query := []
  version := .kHttp10
  fields :=
    [⟨ascii "X", ascii " ", ascii "1", [], by simp [ascii], by simp [ascii], by
        simp [ascii, isspace], by simp [ascii, isspace], by simp [ascii], by simp⟩,
      ⟨ascii "X", ascii " ", ascii "2", [], by simp [ascii], by simp [ascii], by
        simp [ascii, isspace], by simp [ascii, isspace], by simp [ascii], by simp⟩]
  knownMethod := by simp
  knownVersion := by simp
  plainPath := by simp [ascii]
  plainQuery := by simp
  markedQuery := by simp

end RequestText

end FakeMuduo.Http
