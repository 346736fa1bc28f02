import FakeMuduo.Http.RequestLine
import FakeMuduo.Http.Segmentation

/-! When the parser's loop ends, and which line it takes for the end of the headers. -/

namespace FakeMuduo.Http.HttpContext

open FakeMuduo.Base FakeMuduo.Net StateTransition

section Termination

variable {context : HttpContext} {buffer : Buffer}

theorem processRequestLine_accepts_congr (first second : HttpRequest) (line : Text) :
    (processRequestLine first line).1 = (processRequestLine second line).1 := by
  rw [Bool.eq_iff_iff, processRequestLine_accepts_iff, processRequestLine_accepts_iff]

/-- A rejected request line stays at the front of the buffer and is rejected again. -/
theorem Rejects.parseLoop (rejects : Rejects context buffer.toString) (valid : buffer.Valid)
    (receivedTime : Int) (fuel : Nat) (ok : Bool) :
    parseLoop receivedTime fuel ok context buffer = .error .outOfFuel := by
  induction fuel generalizing ok context with
  | zero => rfl
  | succ fuel ih =>
    obtain ⟨requestLine, offset, found, refused⟩ := rejects
    obtain ⟨first, line, _⟩ := findCRLF_line Buffer.valid_retrieves valid found
    simp only [HttpContext.parseLoop, requestLine, first, Nat.add_sub_cancel_left, line, refused,
      Bool.false_eq_true, if_false]
    refine @ih ⟨.kParseRequestLine, _⟩ ⟨rfl, offset, found, ?_⟩ false
    rw [processRequestLine_accepts_congr _ context.request]
    exact refused

/-- The call returns, and tells whether the request line is rejected. -/
def Settles (context : HttpContext) (buffer : Buffer) (receivedTime : Int) : Prop :=
  ∃ fuel ok after left, parseRequest fuel context buffer receivedTime = .ok (ok, after, left) ∧
    (context.state = .kParseRequestLine →
      (ok = false ↔ ∃ crlf, search Buffer.kCRLF buffer.toString = some crlf ∧
        (processRequestLine context.request (buffer.toString.take crlf)).1 = false))

/-- The loop ends exactly if the buffer does not start with a request line that is rejected. -/
theorem settles_iff_accepted (context : HttpContext) (start : IsOpen context) (buffer : Buffer)
    (valid : buffer.Valid) (receivedTime : Int) : Settles context buffer receivedTime ↔
    ¬ Rejects context buffer.toString := by
  constructor
  · rintro ⟨fuel, ok, after, left, returned, _⟩ rejects
    rw [parseRequest, rejects.parseLoop valid] at returned
    cases returned
  · intro accepted
    obtain ⟨after, left, returned, _⟩ :=
      parseLoop_returns Buffer.valid_retrieves receivedTime
        (buffer.toString.length + 1) valid start accepted (Nat.lt_succ_self _)
    refine ⟨_, true, after, left, returned, ?_⟩
    intro requestLine
    constructor
    · intro refused
      cases refused
    · intro refused
      exact (accepted ⟨requestLine, refused⟩).elim

/-- A new context with a whole request line in its buffer. -/
theorem settles_iff_accepted_line :
    ∃ buffer, (Buffer.create 16).append (ascii "GET / HTTP/1.1\r\n") = .ok buffer ∧
      Settles .new buffer 0 := by
  obtain ⟨buffer, appended, valid, content⟩ :=
    Buffer.append_returns (Buffer.create_valid 16) (ascii "GET / HTTP/1.1\r\n")
  rw [Buffer.create_toString, List.nil_append] at content
  refine ⟨buffer, appended, (settles_iff_accepted .new (.inl rfl) buffer valid 0).mpr ?_⟩
  rintro ⟨_, crlf, found, refused⟩
  rw [content] at found refused
  have first : search Buffer.kCRLF (ascii "GET / HTTP/1.1\r\n") = some 14 := by decide
  cases first.symm.trans found
  revert refused
  decide

/-- A line that is no request line keeps the loop going for ever. -/
theorem bad_line_loops :
    ∃ buffer, (Buffer.create 16).append (ascii "BAD\r\n") = .ok buffer ∧
      ¬ Settles .new buffer 0 := by
  obtain ⟨buffer, appended, valid, content⟩ :=
    Buffer.append_returns (Buffer.create_valid 16) (ascii "BAD\r\n")
  rw [Buffer.create_toString, List.nil_append] at content
  refine ⟨buffer, appended, ?_⟩
  rintro ⟨fuel, ok, after, left, returned, _⟩
  have rejects : Rejects .new buffer.toString := by
    rw [content]
    exact ⟨rfl, 3, by decide, by decide⟩
  rw [parseRequest, rejects.parseLoop valid] at returned
  cases returned

end Termination

/-- The lines that CRLF ends, and the bytes after the last one. -/
def splitLines : Text → List Text × Text
  | [] => ([], [])
  | [byte] => ([], [byte])
  | byte :: next :: rest =>
    if byte = 13 ∧ next = 10 then ([] :: (splitLines rest).1, (splitLines rest).2)
    else
      match splitLines (next :: rest) with
      | ([], left) => ([], byte :: left)
      | (line :: lines, left) => ((byte :: line) :: lines, left)

theorem search_crlf_later {byte next : Byte} (differs : ¬ (byte = 13 ∧ next = 10)) (rest : Text) :
    search Buffer.kCRLF (byte :: next :: rest) =
      (search Buffer.kCRLF (next :: rest)).map (· + 1) := by
  rw [search, if_neg]
  rintro here
  obtain ⟨first, second⟩ : 13 = byte ∧ 10 = next := by simpa [Buffer.kCRLF] using here
  exact differs ⟨first.symm, second.symm⟩

theorem splitLines_of_none {bytes : Text} (absent : search Buffer.kCRLF bytes = none) :
    splitLines bytes = ([], bytes) := by
  induction bytes with
  | nil => rfl
  | cons byte bytes ih =>
    cases bytes with
    | nil => rfl
    | cons next rest =>
      by_cases ends : byte = 13 ∧ next = 10
      · obtain ⟨rfl, rfl⟩ := ends
        simp [search, Buffer.kCRLF] at absent
      · rw [search_crlf_later ends, Option.map_eq_none_iff] at absent
        rw [splitLines, if_neg ends, ih absent]

theorem splitLines_of_some {bytes : Text} {crlf : Nat}
    (found : search Buffer.kCRLF bytes = some crlf) :
    splitLines bytes =
      (bytes.take crlf :: (splitLines (bytes.drop (crlf + 2))).1,
        (splitLines (bytes.drop (crlf + 2))).2) := by
  induction bytes generalizing crlf with
  | nil => simp [search, Buffer.kCRLF] at found
  | cons byte bytes ih =>
    cases bytes with
    | nil => simp [search, Buffer.kCRLF] at found
    | cons next rest =>
      by_cases ends : byte = 13 ∧ next = 10
      · obtain ⟨rfl, rfl⟩ := ends
        have here : crlf = 0 := by simpa [search, Buffer.kCRLF] using found.symm
        subst here
        rw [splitLines, if_pos ⟨rfl, rfl⟩]
        rfl
      · rw [search_crlf_later ends] at found
        obtain ⟨later, inRest, rfl⟩ := Option.map_eq_some_iff.mp found
        rw [splitLines, if_neg ends, ih inRest]
        rfl

/-- The first of the lines, and what the others are the lines of. -/
theorem splitLines_cons {bytes line left : Text} {lines : List Text}
    (split : splitLines bytes = (line :: lines, left)) :
    search Buffer.kCRLF bytes = some line.length ∧ bytes.take line.length = line ∧
      splitLines (bytes.drop (line.length + 2)) = (lines, left) ∧
      bytes = line ++ Buffer.kCRLF ++ bytes.drop (line.length + 2) := by
  rcases found : search Buffer.kCRLF bytes with _ | crlf
  · rw [splitLines_of_none found] at split
    cases split
  · rw [splitLines_of_some found] at split
    have bound := search_crlf_bound found
    have length : (bytes.take crlf).length = crlf := by
      rw [List.length_take]
      omega
    obtain ⟨⟨rfl, rfl⟩, rfl⟩ :
      (bytes.take crlf = line ∧ (splitLines (bytes.drop (crlf + 2))).1 = lines) ∧
        (splitLines (bytes.drop (crlf + 2))).2 = left := by simpa using split
    rw [length]
    refine ⟨rfl, rfl, rfl, ?_⟩
    obtain ⟨rest, whole⟩ := search_found bytes found
    have tail : bytes.drop (crlf + 2) = rest := by
      rw [← List.drop_drop, ← whole]
      rfl
    rw [tail, List.append_assoc, whole, List.take_append_drop]

theorem splitLines_nil {bytes left : Text} (split : splitLines bytes = ([], left)) :
    search Buffer.kCRLF bytes = none ∧ left = bytes := by
  rcases found : search Buffer.kCRLF bytes with _ | crlf
  · rw [splitLines_of_none found] at split
    cases split
    exact ⟨rfl, rfl⟩
  · rw [splitLines_of_some found] at split
    cases split

/-- Lines as they stand in a text. -/
def joinLines (lines : List Text) : Text := lines.flatMap (· ++ Buffer.kCRLF)

section Headers

variable {bytes left header : Text} {headers before later : List Text}

theorem lineStep_colon (split : splitLines bytes = (header :: headers, left)) (colon : 58 ∈ header)
    (request : HttpRequest) :
    ∃ after, lineStep (⟨.kParseHeaders, request⟩, bytes) =
      some (⟨.kParseHeaders, after⟩, bytes.drop (header.length + 2)) := by
  obtain ⟨found, first, _⟩ := splitLines_cons split
  obtain ⟨field, value, rfl, absent⟩ := List.eq_append_cons_of_mem colon
  refine ⟨request.addHeader field value, ?_⟩
  simp only [lineStep, found, first, startingAt_found absent, upTo_found absent]

theorem lineStep_colonless (split : splitLines bytes = (header :: headers, left))
    (colonless : 58 ∉ header) (request : HttpRequest) :
    lineStep (⟨.kParseHeaders, request⟩, bytes) =
      some (⟨.kAllDone, request⟩, bytes.drop (header.length + 2)) := by
  obtain ⟨found, first, _⟩ := splitLines_cons split
  simp only [lineStep, found, first, startingAt_absent colonless]

/-- The headers end at the first line without a colon. -/
theorem reaches_allDone (split : splitLines bytes = (before ++ header :: later, left))
    (colons : ∀ line ∈ before, 58 ∈ line) (colonless : 58 ∉ header) (request : HttpRequest) :
    ∃ after rest, Reaches lineStep (⟨.kParseHeaders, request⟩, bytes) (⟨.kAllDone, after⟩, rest) ∧
      bytes = joinLines (before ++ [header]) ++ rest := by
  induction before generalizing bytes request with
  | nil =>
    have step := lineStep_colonless split colonless request
    obtain ⟨_, _, _, whole⟩ := splitLines_cons split
    refine ⟨request, _, .single step, ?_⟩
    simpa [joinLines] using whole
  | cons line before ih =>
    obtain ⟨after, step⟩ := lineStep_colon split (colons line List.mem_cons_self) request
    obtain ⟨_, _, remains, whole⟩ := splitLines_cons split
    obtain ⟨last, rest, reached, joined⟩ :=
      ih remains (fun line member => colons line (List.mem_cons_of_mem _ member)) after
    refine ⟨last, rest, .head step reached, ?_⟩
    rw [joined] at whole
    simpa [joinLines] using whole

/-- Without such a line the headers do not end. -/
theorem reaches_headers (split : splitLines bytes = (headers, left))
    (colons : ∀ line ∈ headers, 58 ∈ line) (request : HttpRequest) :
    ∃ after, Reaches lineStep (⟨.kParseHeaders, request⟩, bytes) (⟨.kParseHeaders, after⟩, left) ∧
      search Buffer.kCRLF left = none := by
  induction headers generalizing bytes request with
  | nil =>
    obtain ⟨absent, rfl⟩ := splitLines_nil split
    exact ⟨request, .refl, absent⟩
  | cons line headers ih =>
    obtain ⟨after, step⟩ := lineStep_colon split (colons line List.mem_cons_self) request
    obtain ⟨_, _, remains, _⟩ := splitLines_cons split
    obtain ⟨last, reached, absent⟩ :=
      ih remains (fun line member => colons line (List.mem_cons_of_mem _ member)) after
    exact ⟨last, .head step reached, absent⟩

end Headers

/-- Parsing the bytes at once, with a new context. -/
def parseWhole (fuel initialSize : Nat) (bytes : Text) (receivedTime : Int) :
    Checked (Bool × HttpContext × Buffer) :=
  (Buffer.create initialSize).append bytes >>= fun filled =>
    parseRequest fuel .new filled receivedTime

/-- The first line that has no colon, if there is one, is empty. -/
def EmptyFirst (headers : List Text) : Prop :=
  ∀ header ∈ headers.find? (fun header => decide (58 ∉ header)), header = []

/-- The headers end at the first empty line, after lines with a colon only. -/
def EndsAtEmptyLine (bytes line : Text) (headers : List Text)
    (result : Checked (Bool × HttpContext × Buffer)) : Prop :=
  ∃ ok after rest, result = .ok (ok, after, rest) ∧
    (after.state = .kAllDone ↔
      ∃ before later, headers = before ++ [] :: later ∧ ∀ header ∈ before, 58 ∈ header) ∧
    (after.state = .kAllDone →
      ∃ before later, headers = before ++ [] :: later ∧ [] ∉ before ∧
        bytes = joinLines (line :: before ++ [[]]) ++ rest.toString)

section Outcome

variable {bytes line left : Text} {headers : List Text}

theorem lineStep_firstLine (split : splitLines bytes = (line :: headers, left))
    (accepted : (processRequestLine .new line).1 = true) :
    ∃ request, lineStep (.new, bytes) =
      some (⟨.kParseHeaders, request⟩, bytes.drop (line.length + 2)) := by
  obtain ⟨found, first, _⟩ := splitLines_cons split
  refine ⟨(processRequestLine .new line).2, ?_⟩
  simp only [lineStep, HttpContext.new, found, first, accepted, if_true]

/-- What the call returns is where the steps over the lines end. -/
theorem parseWhole_returns (split : splitLines bytes = (line :: headers, left))
    (accepted : (processRequestLine .new line).1 = true) {context : HttpContext} {rest : Text}
    (reached : Reaches lineStep (.new, bytes) (context, rest))
    (stopped : lineStep (context, rest) = none) (initialSize : Nat) (receivedTime : Int)
    {fuel : Nat} (enough : bytes.length < fuel) :
    ∃ after remains, parseWhole fuel initialSize bytes receivedTime = .ok (true, after, remains) ∧
      after.state = context.state ∧ remains.toString = rest := by
  obtain ⟨found, first, _⟩ := splitLines_cons split
  have served : ¬ Rejects .new bytes := by
    rintro ⟨_, crlf, here, refused⟩
    cases found.symm.trans here
    rw [first] at refused
    cases accepted.symm.trans refused
  obtain ⟨after, remains, returned, _, evaluated⟩ :=
    parseRequest_append (Buffer.create_valid initialSize)
    (.inl rfl) bytes receivedTime (by rwa [Buffer.create_toString])
      (by rwa [Buffer.create_toString])
  rw [Buffer.create_toString] at evaluated
  have same := Part.mem_unique evaluated (mem_eval.mpr ⟨reached, stopped⟩)
  exact ⟨after, remains, returned, congrArg (·.1.state) same, congrArg Prod.snd same⟩

/-- For bytes that start with an accepted request line, the headers end as they should exactly if
the first header line without a colon is empty. -/
theorem endsAtEmptyLine_iff (bytes line left : Text) (headers : List Text)
    (split : splitLines bytes = (line :: headers, left))
    (accepted : (processRequestLine .new line).1 = true) (initialSize : Nat) (receivedTime : Int)
    (fuel : Nat) (enough : bytes.length < fuel) :
    EndsAtEmptyLine bytes line headers (parseWhole fuel initialSize bytes receivedTime) ↔
      EmptyFirst headers := by
  obtain ⟨request, step⟩ := lineStep_firstLine split accepted
  obtain ⟨_, _, remains, whole⟩ := splitLines_cons split
  rcases first : headers.find? (fun header => decide (58 ∉ header)) with _ | header
  · have colons : ∀ header ∈ headers, 58 ∈ header := by simpa using first
    obtain ⟨last, reached, absent⟩ := reaches_headers remains colons request
    obtain ⟨after, rest, returned, state, _⟩ :=
      parseWhole_returns split accepted (.head step reached)
      (lineStep_no_line absent) initialSize receivedTime enough
    refine iff_of_true ⟨true, after, rest, returned, ?_, ?_⟩ ?_
    · refine iff_of_false (fun done => HttpRequestParseState.noConfusion (state.symm.trans done)) ?_
      rintro ⟨before, later, rfl, _⟩
      exact List.not_mem_nil (colons [] (List.mem_append_right _ List.mem_cons_self))
    · intro done
      cases state.symm.trans done
    · intro header member
      cases first.symm.trans member
  · obtain ⟨colonless, before, later, rfl, others⟩ := List.find?_eq_some_iff_append.mp first
    have colonless : 58 ∉ header := of_decide_eq_true colonless
    have colons : ∀ line ∈ before, 58 ∈ line := by simpa using others
    obtain ⟨last, rest, reached, joined⟩ := reaches_allDone remains colons colonless request
    obtain ⟨after, remaining, returned, done, unread⟩ :=
      parseWhole_returns split accepted (.head step reached)
      (lineStep_allDone rfl) initialSize receivedTime enough
    by_cases empty : header = []
    · subst empty
      refine iff_of_true ⟨true, after, remaining, returned, ?_, ?_⟩ ?_
      · exact iff_of_true done ⟨before, later, rfl, colons⟩
      · intro _
        refine ⟨before, later, rfl, fun member => List.not_mem_nil (colons [] member), ?_⟩
        rw [joined, ← unread] at whole
        simpa [joinLines] using whole
      · intro header member
        cases first.symm.trans member
        rfl
    · refine iff_of_false ?_ (fun holds => empty (holds header first))
      rintro ⟨ok, other, otherRest, result, ends, _⟩
      cases returned.symm.trans result
      obtain ⟨otherBefore, otherLater, same, otherColons⟩ := ends.mp done
      have found : (before ++ header :: later).find? (fun header =>
          decide (58 ∉ header)) = some [] := by
        refine List.find?_eq_some_iff_append.mpr ⟨by decide, otherBefore, otherLater, same, ?_⟩
        simpa using otherColons
      cases first.symm.trans found
      exact empty rfl

/-- A request with a header, and the start of the next one. -/
def wholeRequest : Text := ascii "GET / HTTP/1.1\r\nHost: fm\r\n\r\nPOST"

theorem endsAtEmptyLine_iff_whole :
    EndsAtEmptyLine wholeRequest (ascii "GET / HTTP/1.1") [ascii "Host: fm", []]
      (parseWhole 100 64 wholeRequest 0) := by
  refine (endsAtEmptyLine_iff wholeRequest (ascii "GET / HTTP/1.1") (ascii "POST")
    [ascii "Host: fm", []]
    (by decide) (by decide) 64 0 100 (by decide)).mpr ?_
  intro header member
  have first : [ascii "Host: fm", []].find? (fun header => decide (58 ∉ header)) =
    some [] := by decide
  cases first.symm.trans member
  rfl

/-- A request whose first header line has no colon. -/
def smuggledRequest : Text := ascii "GET / HTTP/1.1\r\nnonsense\r\nHost: fm\r\n\r\n"

/-- The line without a colon ends the headers, and the next one is left for the next request. -/
theorem colonless_line_ends_headers :
    splitLines smuggledRequest =
      ([ascii "GET / HTTP/1.1", ascii "nonsense", ascii "Host: fm", []], []) ∧
      (processRequestLine .new (ascii "GET / HTTP/1.1")).1 = true ∧
      ¬ EndsAtEmptyLine smuggledRequest (ascii "GET / HTTP/1.1")
        [ascii "nonsense", ascii "Host: fm", []]
        (parseWhole 100 64 smuggledRequest 0) := by
  refine ⟨by decide, by decide, ?_⟩
  rintro ⟨ok, after, rest, returned, ends, _⟩
  have parsed : (parseWhole 100 64 smuggledRequest 0).toOption.map (·.2.1.state) =
      some .kAllDone := by
    decide +kernel
  rw [returned] at parsed
  obtain ⟨before, later, split, colons⟩ := ends.mp (Option.some.inj parsed)
  rcases before with _ | ⟨line, before⟩
  · cases split
  · have first : ascii "nonsense" = line := (List.cons.inj split).1
    have colon := colons line List.mem_cons_self
    rw [← first] at colon
    revert colon
    decide

end Outcome

end FakeMuduo.Http.HttpContext
