import FakeMuduo.Http.LineParser

/-! Parsing a request that arrives in pieces. -/

namespace FakeMuduo.Http.HttpContext

open FakeMuduo.Base FakeMuduo.Net StateTransition

/-- Each chunk is appended to the buffer and parsed, until the context is done. The chunks
not yet fed are left over. -/
def feed (fuel : Nat) : HttpContext → Buffer → List (Text × Int) →
    Checked (HttpContext × Buffer × List Text)
  | context, buffer, [] => .ok (context, buffer, [])
  | context, buffer, (chunk, receivedTime) :: later => do
    let buffer ← buffer.append chunk
    let (_, context, buffer) ← parseRequest fuel context buffer receivedTime
    if context.isAllDone then return (context, buffer, later.map Prod.fst)
    else feed fuel context buffer later

/-- The bytes of all chunks. -/
def arriving (chunks : List (Text × Int)) : Text := (chunks.map Prod.fst).flatten

section Append

variable {context : HttpContext} {buffer : Buffer} {fuel : Nat}

/-- A chunk appended and parsed, seen on the bytes. -/
theorem parseRequest_append (valid : buffer.Valid) (start : IsOpen context) (chunk : Text)
    (receivedTime : Int) (accepted : ¬ Rejects context (buffer.toString ++ chunk))
    (enough : (buffer.toString ++ chunk).length < fuel) :
    ∃ after left, (buffer.append chunk >>= fun filled =>
      parseRequest fuel context filled receivedTime) =
        .ok (true, after, left) ∧
      left.Valid ∧ (untimed after, left.toString) ∈
        eval lineStep (untimed context, buffer.toString ++ chunk) := by
  obtain ⟨filled, appended, filledValid, content⟩ := Buffer.append_returns valid chunk
  rw [← content] at accepted enough ⊢
  rw [appended, ok_bind]
  exact parseLoop_returns Buffer.valid_retrieves receivedTime fuel filledValid start accepted enough

theorem untimed_inj {other : HttpContext} (same : untimed context = untimed other) :
    context.state = other.state ∧ context.request.method = other.request.method ∧
      context.request.version = other.request.version ∧ context.request.path = other.request.path ∧
      context.request.query = other.request.query ∧ context.request.headers =
        other.request.headers := by
  simpa [untimed, HttpRequest.setReceivedTime] using same

/-- What is left to read is not rejected either. -/
theorem accepted_after {after : HttpContext} {bytes rest more : Text}
    (reached : Reaches lineStep (untimed context, bytes) (untimed after, rest))
    (accepted : ¬ Rejects context (bytes ++ more)) : ¬ Rejects after (rest ++ more) := by
  intro rejects
  obtain ⟨same, unread⟩ := Reaches.requestLine reached rejects.1
  have earlier := rejects.untimed
  rw [same, unread] at earlier
  exact accepted earlier.of_untimed

theorem feed_returns (chunks : List (Text × Int)) (valid : buffer.Valid) (start : IsOpen context)
    (settled : lineStep (untimed context, buffer.toString) = none)
    (accepted : ¬ Rejects context (buffer.toString ++ arriving chunks))
    (enough : (buffer.toString ++ arriving chunks).length < fuel) :
    ∃ after left unfed, feed fuel context buffer chunks = .ok (after, left, unfed) ∧
      (untimed after, left.toString ++ unfed.flatten) ∈
        eval lineStep (untimed context, buffer.toString ++ arriving chunks) := by
  induction chunks generalizing context buffer with
  | nil =>
    refine ⟨context, buffer, [], rfl, ?_⟩
    simpa [arriving] using mem_eval.mpr ⟨.refl, settled⟩
  | cons piece later ih =>
    obtain ⟨chunk, receivedTime⟩ := piece
    have joined : buffer.toString ++ arriving ((chunk, receivedTime) :: later) =
        buffer.toString ++ chunk ++ arriving later := by
      simp [arriving]
    rw [joined] at accepted enough ⊢
    rw [List.length_append] at enough
    obtain ⟨after, left, parsed, leftValid, evaluated⟩ :=
      parseRequest_append valid start chunk receivedTime
      (fun rejects => accepted (rejects.append _))
        (Nat.lt_of_le_of_lt (Nat.le_add_right _ _) enough)
    obtain ⟨reached, stopped⟩ := mem_eval.mp evaluated
    obtain ⟨filled, appended, parsed⟩ := bind_eq_ok.mp parsed
    have moved := Reaches.append reached (arriving later)
    by_cases done : after.isAllDone
    · refine ⟨after, left, later.map Prod.fst, ?_, mem_eval.mpr ⟨moved, lineStep_allDone ?_⟩⟩
      · simp only [feed, appended, ok_bind, parsed, done, if_true]
        rfl
      · exact of_decide_eq_true done
    · have still : IsOpen after := by
        rcases Reaches.isOpen reached start with more | complete
        · exact more
        · exact (done (decide_eq_true complete)).elim
      have shorter : (left.toString ++ arriving later).length < fuel := by
        have bound := (Reaches.suffix reached).length_le
        rw [List.length_append]
        omega
      obtain ⟨last, remaining, unfed, fed, final⟩ :=
        ih leftValid still stopped (accepted_after reached accepted) shorter
      refine ⟨last, remaining, unfed, ?_, ?_⟩
      · simp only [feed, appended, ok_bind, parsed, done]
        exact fed
      · rw [reaches_eval moved]
        exact final

end Append

/-- A request that arrives in pieces is parsed as if it had arrived at once. -/
theorem feed_eq_oneShot (context : HttpContext) (waits : context.state = .kParseRequestLine)
    (chunks : List (Text × Int)) (receivedTime : Int) (initialSize otherSize fuel : Nat)
    (enough : (arriving chunks).length < fuel)
    (accepted : ∀ crlf, search Buffer.kCRLF (arriving chunks) = some crlf →
      (processRequestLine context.request ((arriving chunks).take crlf)).1 = true) :
    ∃ after left unfed whole rest,
      feed fuel context (.create initialSize) chunks = .ok (after, left, unfed) ∧
      ((Buffer.create otherSize).append (arriving chunks) >>= fun filled =>
        parseRequest fuel context filled receivedTime) = .ok (true, whole, rest) ∧
      after.state = whole.state ∧ after.request.method = whole.request.method ∧
      after.request.path = whole.request.path ∧ after.request.query = whole.request.query ∧
      after.request.version = whole.request.version ∧ after.request.headers =
        whole.request.headers ∧
      left.toString ++ unfed.flatten = rest.toString := by
  have notRejected : ¬ Rejects context (arriving chunks) := by
    rintro ⟨_, crlf, found, refused⟩
    rw [accepted crlf found] at refused
    cases refused
  obtain ⟨after, left, unfed, fed, inPieces⟩ :=
    feed_returns chunks (Buffer.create_valid initialSize)
    (.inl waits) (lineStep_no_line (by rw [Buffer.create_toString]; rfl))
    (by rwa [Buffer.create_toString]) (by rwa [Buffer.create_toString])
  obtain ⟨whole, rest, parsed, _, atOnce⟩ := parseRequest_append (Buffer.create_valid otherSize)
    (.inl waits) (arriving chunks) receivedTime
    (by rwa [Buffer.create_toString]) (by rwa [Buffer.create_toString])
  rw [Buffer.create_toString] at inPieces atOnce
  have same := Part.mem_unique inPieces atOnce
  obtain ⟨state, method, version, path, query, headers⟩ := untimed_inj (congrArg Prod.fst same)
  exact ⟨after, left, unfed, whole, rest, fed, parsed, state, method, path, query, version, headers,
    congrArg Prod.snd same⟩

theorem feed_eq_oneShot_split_request :
    let chunks := [(ascii "GE", 1), (ascii "T /a?b HTTP/1.1\r", 2),
      (ascii "\nHost: fm \r\n\r\nPO", 3), (ascii "ST", 4)]
    ∃ after left unfed whole rest,
      feed 64 .new (.create 16) chunks = .ok (after, left, unfed) ∧
      ((Buffer.create 1024).append (arriving chunks) >>= fun filled =>
        parseRequest 64 .new filled 9) =
        .ok (true, whole, rest) ∧
      after.state = whole.state ∧ after.request.method = whole.request.method ∧
      after.request.path = whole.request.path ∧ after.request.query = whole.request.query ∧
      after.request.version = whole.request.version ∧ after.request.headers =
        whole.request.headers ∧
      left.toString ++ unfed.flatten = rest.toString := by
  refine feed_eq_oneShot .new rfl _ 9 16 1024 64 (by decide) ?_
  intro crlf found
  have first : search Buffer.kCRLF (arriving [(ascii "GE", 1), (ascii "T /a?b HTTP/1.1\r", 2),
      (ascii "\nHost: fm \r\n\r\nPO", 3), (ascii "ST", 4)]) = some 17 := by
    decide
  cases first.symm.trans found
  decide

end FakeMuduo.Http.HttpContext
