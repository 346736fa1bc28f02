import FakeMuduo.Http.RequestText

/-! A context that was used before reads a request as a new one does. -/

namespace FakeMuduo.Http

open FakeMuduo.Base FakeMuduo.Net HttpContext StateTransition

namespace HeaderMap

theorem find_assign (field value : Text) (headers : HeaderMap) (other : Text) :
    (headers.assign field value).find other = if field = other then some value
      else headers.find other := by
  induction headers with
  | nil => by_cases same : field = other <;> simp [assign, find, same]
  | cons entry rest ih =>
    rcases entry with ⟨name, old⟩
    unfold assign
    by_cases named : name = field
    · subst named
      by_cases same : name = other <;> simp [find, same]
    · rw [if_neg named]
      by_cases here : name = other
      · subst here
        simp [find, Ne.symm named]
      · have rest : find ((name, old) :: assign field value rest) other =
            (assign field value rest).find other := by
          simp [find, here]
        rw [rest, ih]
        simp [find, here]

theorem mem_assign (field value : Text) (headers : HeaderMap) (name : Text) :
    name ∈ (headers.assign field value).map Prod.fst ↔ name = field ∨
      name ∈ headers.map Prod.fst := by
  induction headers with
  | nil => simp [assign]
  | cons entry rest ih =>
    rcases entry with ⟨first, old⟩
    unfold assign
    by_cases named : first = field
    · simp [named]
    · rw [if_neg named, List.map_cons, List.mem_cons, ih, List.map_cons, List.mem_cons]
      exact or_left_comm

/-- A field keeps its only entry. -/
theorem nodup_assign (field value : Text) {headers : HeaderMap}
    (distinct : (headers.map Prod.fst).Nodup) :
    ((headers.assign field value).map Prod.fst).Nodup := by
  induction headers with
  | nil => simp [assign]
  | cons entry rest ih =>
    rcases entry with ⟨name, old⟩
    obtain ⟨unique, others⟩ := List.nodup_cons.mp distinct
    unfold assign
    by_cases named : name = field
    · rw [if_pos named]
      exact distinct
    · rw [if_neg named, List.map_cons]
      refine List.nodup_cons.mpr ⟨?_, ih others⟩
      intro member
      rcases (mem_assign field value rest name).mp member with same | old
      · exact named same
      · exact unique old

end HeaderMap

namespace RequestText

/-- The value of a field: that of its last line. -/
def lastValue (fields : List FieldLine) (field : Text) : Option Text :=
  (fields.reverse.find? fun line => line.field == field).map FieldLine.value

theorem assigned_find (fields : List FieldLine) (headers : HeaderMap) (field : Text) :
    (assigned fields headers).find field = (lastValue fields field <|> headers.find field) := by
  induction fields generalizing headers with
  | nil => rfl
  | cons line fields ih =>
    have after : assigned (line :: fields) headers =
      assigned fields (headers.assign line.field line.value) := rfl
    rw [after, ih, HeaderMap.find_assign]
    by_cases same : line.field = field
    · simp [lastValue, List.find?_append, same]
    · simp [lastValue, List.find?_append, same]

theorem assigned_nodup (fields : List FieldLine) {headers : HeaderMap}
    (distinct : (headers.map Prod.fst).Nodup) :
    ((assigned fields headers).map Prod.fst).Nodup := by
  induction fields generalizing headers with
  | nil => exact distinct
  | cons line fields ih => exact ih (HeaderMap.nodup_assign line.field line.value distinct)

end RequestText

namespace HttpContext

/-- Some calls of `parseRequest`, on whatever arrived for them. -/
inductive Parses : HttpContext → HttpContext → Prop where
  | none (context : HttpContext) : Parses context context
  | call {start context after : HttpContext} {fuel : Nat} {buffer left : Buffer}
      {receivedTime : Int} {ok : Bool}
      (before : Parses start context)
      (returned : context.parseRequest fuel buffer receivedTime = .ok (ok, after, left)) :
        Parses start after

/-- A context that waits for a request: it is new, or every request it read before was
complete and moved out of it. `moved` is what the move left. -/
inductive Ready : HttpContext → Prop where
  | new : Ready .new
  | reset {context after : HttpContext} (ready : Ready context) (parsed : Parses context after)
      (complete : after.isAllDone = true) (moved : HttpRequest) :
        Ready { after with request := moved }.reset

variable {context : HttpContext} {buffer : Buffer}

/-- Nothing of the earlier requests is left. -/
theorem Ready.untimed_eq (ready : Ready context) : untimed context = .new := by
  cases ready with
  | new => rfl
  | reset => rfl

theorem Ready.state (ready : Ready context) : context.state = .kParseRequestLine := by
  cases ready with
  | new => rfl
  | reset => rfl

theorem Ready.accepts (ready : Ready context) (text : RequestText) (rest : Text) :
    ¬ Rejects context (text.bytes ++ rest) := by
  intro rejects
  have step : HttpContext.lineStep (.new, text.bytes ++ rest) = none := by
    rw [← ready.untimed_eq]
    exact rejects.untimed.lineStep
  have split : text.bytes ++ rest =
      text.line ++ Buffer.kCRLF ++
        (RequestText.fieldBytes text.fields ++ Buffer.kCRLF ++ rest) := by
    simp [RequestText.bytes]
  rw [split] at step
  cases step.symm.trans (lineStep_requestLine text.line_free text.processRequestLine_text _)

/-- Every request is read back, whatever follows it and whatever the context read before. -/
theorem parseRequest_round_trip (ready : Ready context) (text : RequestText) (trailing : Text)
    (valid : buffer.Valid) (content : buffer.toString = text.bytes ++ trailing)
    (receivedTime : Int) (fuel : Nat) (enough : buffer.toString.length < fuel) :
    ∃ after left, context.parseRequest fuel buffer receivedTime = .ok (true, after, left) ∧
      after.isAllDone = true ∧ after.request.method = text.method ∧ after.request.path = text.path ∧
      after.request.query = text.query ∧ after.request.version = text.version ∧
      (after.request.headers.map Prod.fst).Nodup ∧
      (∀ field, after.request.headers.find field = RequestText.lastValue text.fields field) ∧
      left.Valid ∧ left.toString = trailing := by
  have accepted : ¬ Rejects context buffer.toString := by
    rw [content]
    exact ready.accepts text trailing
  obtain ⟨after, left, returned, leftValid, evaluated⟩ :=
    parseLoop_returns Buffer.valid_retrieves receivedTime fuel valid
      (.inl ready.state) accepted enough
  have reached : (⟨.kAllDone, text.request⟩, trailing) ∈
      eval lineStep (untimed context, buffer.toString) := by
    rw [ready.untimed_eq, content]
    exact mem_eval.mpr ⟨text.reaches_request trailing, lineStep_allDone rfl⟩
  obtain ⟨same, rest⟩ := Prod.mk.inj (Part.mem_unique evaluated reached)
  have state : after.state = .kAllDone := congrArg HttpContext.state same
  have headers : after.request.headers = RequestText.assigned text.fields [] :=
    congrArg (fun context => context.request.headers) same
  refine ⟨after, left, returned, decide_eq_true state,
    congrArg (fun context => context.request.method) same,
    congrArg (fun context => context.request.path) same,
    congrArg (fun context => context.request.query) same,
    congrArg (fun context => context.request.version) same, ?_, ?_, leftValid, rest⟩
  · rw [headers]
    exact RequestText.assigned_nodup text.fields List.nodup_nil
  · intro field
    rw [headers, RequestText.assigned_find]
    simp [HeaderMap.find]

theorem buffer_holding (bytes : Text) :
    ∃ buffer : Buffer, buffer.Valid ∧ buffer.toString = bytes := by
  obtain ⟨buffer, _, valid, content⟩ :=
    Buffer.append_returns (Buffer.create_valid Buffer.kInitialSize) bytes
  exact ⟨buffer, valid, by simpa using content⟩

/-- The second request of a connection, with the first byte of a third. -/
theorem parseRequest_round_trip_second :
    ∃ context buffer after left, Ready context ∧ context.request.receivedTime = 3 ∧
      buffer.toString = RequestText.repeated.bytes ++ ascii "G" ∧
      context.parseRequest 100 buffer 4 = .ok (true, after, left) ∧ after.isAllDone = true ∧
      after.request.query = [] ∧ after.request.headers.find (ascii "Host") = none ∧
      after.request.headers.find (ascii "X") = some (ascii "2") ∧ left.toString = ascii "G" := by
  obtain ⟨first, firstValid, firstBytes⟩ := buffer_holding (RequestText.queried.bytes ++ [])
  obtain ⟨earlier, _, parsed, complete, _⟩ :=
    parseRequest_round_trip .new .queried [] firstValid firstBytes 3 100
      (by rw [firstBytes]; decide)
  obtain ⟨second, secondValid, secondBytes⟩ :=
    buffer_holding (RequestText.repeated.bytes ++ ascii "G")
  have ready : Ready { earlier with
      request := RequestText.queried.request.setReceivedTime 3 }.reset :=
    .reset .new (.call (.none _) parsed) complete _
  obtain ⟨after, left, returned, done, _, _, query, _, _, headers, _, rest⟩ :=
    parseRequest_round_trip ready .repeated (ascii "G") secondValid secondBytes 4 100
      (by rw [secondBytes]; decide)
  exact ⟨_, second, after, left, ready, rfl, secondBytes, returned, done, query,
    (headers _).trans (by decide), (headers _).trans (by decide), rest⟩

end HttpContext

end FakeMuduo.Http
