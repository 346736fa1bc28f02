import FakeMuduo.Base.Serving
import FakeMuduo.Http.HttpServer
import FakeMuduo.Http.ResponseVersion
import FakeMuduo.Http.RequestText
import FakeMuduo.Http.Segmentation

/-! Which requests of a connection's byte stream reach the callback. -/

namespace FakeMuduo.Http

open FakeMuduo.Base FakeMuduo.Net HttpContext StateTransition

section Offsets

/-- The offsets at which the pieces of a stream end. -/
def endsFrom (start : Nat) : List Text → List Nat
  | [] => []
  | piece :: rest => (start + piece.length) :: endsFrom (start + piece.length) rest

theorem le_of_mem_endsFrom {start offset : Nat} {pieces : List Text}
    (member : offset ∈ endsFrom start pieces) :
    start ≤ offset := by
  induction pieces generalizing start with
  | nil => cases member
  | cons piece rest ih =>
    rcases List.mem_cons.mp member with same | later
    · omega
    · have bound := ih later
      omega

theorem endsFrom_ordered (start : Nat) (pieces : List Text) :
    (endsFrom start pieces).Pairwise (· ≤ ·) := by
  induction pieces generalizing start with
  | nil => exact .nil
  | cons piece rest ih => exact .cons (fun _ later => le_of_mem_endsFrom later) (ih _)

@[simp] theorem endsFrom_eq_nil {start : Nat} {pieces : List Text} :
    endsFrom start pieces = [] ↔ pieces = [] := by
  cases pieces <;> simp [endsFrom]

end Offsets

/-- The bytes of requests sent one after another. -/
def stream (texts : List RequestText) : Text := (texts.map RequestText.bytes).flatten

section Stream

variable {text : RequestText} {texts : List RequestText} {bytes more : Text}

theorem stream_cons (text : RequestText) (texts : List RequestText) :
    stream (text :: texts) = text.bytes ++ stream texts := rfl

theorem eval_request (text : RequestText) (rest : Text) :
    (⟨.kAllDone, text.request⟩, rest) ∈ eval lineStep (.new, text.bytes ++ rest) :=
  mem_eval.mpr ⟨text.reaches_request rest, lineStep_allDone rfl⟩

theorem request_accepted (text : RequestText) (rest : Text) :
    ¬ Rejects .new (text.bytes ++ rest) := by
  intro rejects
  rcases Relation.ReflTransGen.cases_head (text.reaches_request rest) with same | ⟨next, step, _⟩
  · cases same
  · rw [rejects.lineStep] at step
    cases step

/-- No beginning of a stream of requests is rejected. -/
theorem stream_accepted (cut : bytes ++ more = stream texts) : ¬ Rejects .new bytes := by
  intro rejects
  have whole := rejects.append more
  rw [cut] at whole
  rcases texts with _ | ⟨text, texts⟩
  · obtain ⟨_, crlf, found, _⟩ := whole
    cases found
  · exact request_accepted text (stream texts) whole

theorem stream_split (cut : bytes ++ more = stream (text :: texts)) :
    (∃ rest, bytes = text.bytes ++ rest ∧ rest ++ more = stream texts) ∨
      ∃ missing, missing ≠ [] ∧ text.bytes = bytes ++ missing := by
  rw [stream_cons] at cut
  rcases List.append_eq_append_iff.mp cut with ⟨missing, longer, _⟩ | ⟨rest, shorter, left⟩
  · rcases missing with _ | ⟨first, missing⟩
    · refine .inl ⟨[], ?_, ?_⟩
      · simpa using longer.symm
      · rw [longer, List.append_nil] at cut
        exact List.append_cancel_left cut
    · exact .inr ⟨first :: missing, List.cons_ne_nil _ _, longer⟩
  · exact .inl ⟨rest, shorter, left.symm⟩

theorem incomplete_request (missing : Text) (lacks : missing ≠ [])
    (split : text.bytes = bytes ++ missing) :
    ∀ after rest, (after, rest) ∈ eval lineStep (.new, bytes) → after.state ≠ .kAllDone := by
  intro after rest evaluated done
  have whole := eval_request text []
  rw [List.append_nil, split] at whole
  have reached := Reaches.append (mem_eval.mp evaluated).1 missing
  have same := Part.mem_unique (mem_eval.mpr ⟨reached, lineStep_allDone done⟩) whole
  have nothing : rest ++ missing = [] := congrArg Prod.snd same
  exact lacks (List.append_eq_nil_iff.mp nothing).2

theorem incomplete_nothing :
    ∀ after rest, (after, rest) ∈ eval lineStep (.new, []) → after.state ≠ .kAllDone := by
  intro after rest evaluated done
  have same := Part.mem_unique evaluated (mem_eval.mpr ⟨.refl, lineStep_no_line rfl⟩)
  cases same
  cases done

end Stream

namespace HttpServer

variable {σ : Type} {httpCallback : HttpCallback σ} {session : HttpSession σ} {fuel : Nat}

/-- The callback leaves a version in every response. -/
def Versioned (httpCallback : HttpCallback σ) : Prop :=
  ∀ user request close, (httpCallback user request (.new close)).1.version ≠ .kUnknownVersion

theorem onRequest_returns (versioned : Versioned httpCallback) (session : HttpSession σ)
    (request : HttpRequest) :
    ∃ user calls, onRequest httpCallback session request =
      .ok { session with user, dispatched := session.dispatched ++ [request], calls } := by
  obtain ⟨buffer, _, returned, _⟩ := HttpResponse.appendToBuffer_versioned
    (versioned session.user request
      (decide (request.getHeader (ascii "Connection") = ascii "close" ∨
        request.version = .kHttp10)))
    (Buffer.create_valid Buffer.kInitialSize)
  simp only [onRequest, onRequestInThreadPool, returned, ok_bind]
  exact ⟨_, _, rfl⟩

theorem onRequest_dispatches {request : HttpRequest} {after : HttpSession σ}
    (done : onRequest httpCallback session request = .ok after) :
    after.dispatched = session.dispatched ++ [request] ∧
      after.inputBuffer = session.inputBuffer := by
  obtain ⟨buffer, _, done⟩ := bind_eq_ok.mp done
  cases done
  exact ⟨rfl, rfl⟩

/-- The input buffer while the bytes of `missing` were read but found no room. -/
def Holding (missing : Text) (buffer : Buffer) : Prop :=
  if missing = [] then buffer.Valid else buffer.Spilled

theorem holding_retrieves (missing : Text) : Buffer.Retrieves (Holding missing) := by
  unfold Holding
  split
  · exact Buffer.valid_retrieves
  · exact Buffer.spilled_retrieves

/-- A read puts the beginning of the chunk into the buffer, and nothing once bytes are missing. -/
theorem Holding.read {missing : Text} {buffer : Buffer} (holding : Holding missing buffer)
    (chunk : Text) :
    ∃ bytes lost filled, buffer.readFd 0 (.delivered chunk) = .ok (chunk.length, 0, filled) ∧
      Holding lost filled ∧ filled.toString = buffer.toString ++ bytes ∧
        bytes ++ lost = missing ++ chunk ∧
      (lost = [] ↔ missing = [] ∧ chunk.length ≤ buffer.writableBytes) := by
  rcases missing with _ | ⟨first, missing⟩
  · have valid : buffer.Valid := holding
    by_cases fits : chunk.length ≤ buffer.writableBytes
    · obtain ⟨filled, read, filledValid, content⟩ := Buffer.readFd_fits valid 0 fits
      exact ⟨chunk, [], filled, read, filledValid, content, List.append_nil _,
        iff_of_true rfl ⟨rfl, fits⟩⟩
    · obtain ⟨filled, read, spilled, content⟩ :=
        Buffer.readFd_spills valid 0 (Nat.lt_of_not_le fits)
      have some : chunk.drop buffer.writableBytes ≠ [] := by
        rw [Ne, List.drop_eq_nil_iff]
        exact fits
      refine ⟨chunk.take buffer.writableBytes, chunk.drop buffer.writableBytes, filled,
        read, ?_, content, List.take_append_drop _ _, iff_of_false some fun all => fits all.2⟩
      rw [Holding, if_neg some]
      exact spilled
  · have spilled : buffer.Spilled := holding
    obtain ⟨filled, read, still, content⟩ := spilled.readFd 0 chunk
    refine ⟨[], first :: missing ++ chunk, filled, read, still, ?_, rfl,
      iff_of_false (List.cons_ne_nil _ _) fun all => List.cons_ne_nil _ _ all.1⟩
    rw [content, List.append_nil]

/-- `arrived` are the bytes in the buffer or parsed since the last request was dispatched. -/
structure Reading (session : HttpSession σ) (arrived : Text) : Prop where
  isOpen : IsOpen session.userContext
  reached : Reaches lineStep (.new, arrived)
    (untimed session.userContext, session.inputBuffer.toString)

theorem onConnection_reading (initialSize : Nat) (user : σ) :
    Reading (onConnection (.create initialSize) user) [] where
  isOpen := .inl rfl
  reached := by
    rw [onConnection, Buffer.create_toString]
    exact .refl

section Receive

variable {Good : Buffer → Prop} {arrived bytes chunk : Text} {filled : Buffer} {receivedTime : Int}

/-- The parser's part of a call, seen on the bytes since the last dispatch. -/
theorem Reading.parse (reading : Reading session arrived) (retrieves : Buffer.Retrieves Good)
    (good : Good filled) (content : filled.toString = session.inputBuffer.toString ++ bytes)
    (receivedTime : Int) (accepted : ¬ Rejects .new (arrived ++ bytes))
    (enough : (arrived ++ bytes).length < fuel) :
    ∃ after left, parseRequest fuel session.userContext filled receivedTime =
      .ok (true, after, left) ∧ Good left ∧
      (untimed after, left.toString) ∈ eval lineStep (.new, arrived ++ bytes) := by
  have shorter : filled.toString.length < fuel := by
    have bound := (Reaches.suffix reading.reached).length_le
    rw [content, List.length_append]
    rw [List.length_append] at enough
    omega
  have reached : Reaches lineStep (untimed .new, arrived)
    (untimed session.userContext, session.inputBuffer.toString) := reading.reached
  have open' := accepted_after reached accepted
  rw [← content] at open'
  obtain ⟨after, left, parsed, leftGood, evaluated⟩ :=
    parseLoop_returns retrieves receivedTime fuel good reading.isOpen open' shorter
  rw [content, ← reaches_eval (Reaches.append reached bytes)] at evaluated
  exact ⟨after, left, parsed, leftGood, evaluated⟩

/-- Bytes that do not complete a request. -/
theorem Reading.receive_more (reading : Reading session arrived) (retrieves : Buffer.Retrieves Good)
    (httpCallback : HttpCallback σ)
    (read : session.inputBuffer.readFd 0 (.delivered chunk) = .ok (chunk.length, 0, filled))
    (good : Good filled) (content : filled.toString = session.inputBuffer.toString ++ bytes)
    (receivedTime : Int) (accepted : ¬ Rejects .new (arrived ++ bytes))
    (enough : (arrived ++ bytes).length < fuel)
    (incomplete : ∀ after rest, (after, rest) ∈ eval lineStep (.new, arrived ++ bytes) →
      after.state ≠ .kAllDone) :
    ∃ after, receive httpCallback fuel session (chunk, receivedTime) = .ok after ∧
      after.dispatched = session.dispatched ∧ Good after.inputBuffer ∧
        Reading after (arrived ++ bytes) := by
  obtain ⟨context, left, parsed, leftGood, evaluated⟩ :=
    reading.parse retrieves good content receivedTime accepted enough
  have reached := (mem_eval.mp evaluated).1
  have undone : context.state ≠ .kAllDone := incomplete (untimed context) left.toString evaluated
  have notDone : context.isAllDone = false := decide_eq_false undone
  refine ⟨{ session with
    userContext := context, inputBuffer := left, calls := session.calls ++ [] }, ?_, rfl,
    leftGood, ?_, reached⟩
  · simp only [receive, read, ok_bind, onMessage, parsed, notDone, if_true]
    rfl
  · rcases Reaches.isOpen reached (.inl rfl) with still | done
    · exact still
    · exact (undone done).elim

/-- Bytes with the end of a request, which is handed to the callback. -/
theorem Reading.receive_request (reading : Reading session arrived)
    (retrieves : Buffer.Retrieves Good) (httpCallback : HttpCallback σ)
    (read : session.inputBuffer.readFd 0 (.delivered chunk) = .ok (chunk.length, 0, filled))
    (good : Good filled) (content : filled.toString = session.inputBuffer.toString ++ bytes)
    (receivedTime : Int) (accepted : ¬ Rejects .new (arrived ++ bytes))
    (enough : (arrived ++ bytes).length < fuel) {request : HttpRequest} {rest : Text}
    (complete : (⟨.kAllDone, request⟩, rest) ∈ eval lineStep (.new, arrived ++ bytes)) :
    (∀ after, receive httpCallback fuel session (chunk, receivedTime) = .ok after →
      ∃ dispatched, after.dispatched = session.dispatched ++ [dispatched] ∧
        dispatched.setReceivedTime 0 = request ∧ Good after.inputBuffer ∧ Reading after rest) ∧
      (Versioned httpCallback → ∃ after, receive httpCallback fuel session (chunk, receivedTime) =
        .ok after) := by
  obtain ⟨context, left, parsed, leftGood, evaluated⟩ :=
    reading.parse retrieves good content receivedTime accepted enough
  have same := Part.mem_unique evaluated complete
  have unread : left.toString = rest := congrArg Prod.snd same
  have contexts : untimed context = ⟨.kAllDone, request⟩ := congrArg Prod.fst same
  have done : context.isAllDone = true := decide_eq_true (congrArg HttpContext.state contexts)
  simp only [receive, read, ok_bind, onMessage, parsed, done, if_true, HttpRequest.move]
  constructor
  · intro after received
    obtain ⟨answered, handed, returned⟩ := bind_eq_ok.mp received
    cases returned
    obtain ⟨dispatched, inputBuffer⟩ := onRequest_dispatches handed
    refine ⟨context.request, dispatched, congrArg HttpContext.request contexts, ?_, .inl rfl, ?_⟩
    · rw [inputBuffer]
      exact leftGood
    · rw [inputBuffer, unread]
      exact .refl
  · intro versioned
    obtain ⟨user, calls, answered⟩ := onRequest_returns versioned
      { session with userContext := context, inputBuffer := left, calls := session.calls ++ [] }
      context.request
    exact ⟨_, bind_eq_ok.mpr ⟨_, answered, rfl⟩⟩

/-- What a chunk does to the requests that were sent and not dispatched: it completes none, or the
first. `arrived` are the bytes since the last dispatch, those of the chunk included. -/
inductive Outcome (session : HttpSession σ) (arrived : Text) (pending : List RequestText)
    (after : HttpSession σ) :
    Prop where
  | more (longer : ∀ text texts, pending = text :: texts → arrived.length < text.bytes.length)
      (same : after.dispatched = session.dispatched) (reads : Reading after arrived)
  | request {text : RequestText} {texts : List RequestText} {rest : Text} {dispatched : HttpRequest}
      (first : pending = text :: texts) (ends : arrived = text.bytes ++ rest)
      (gains : after.dispatched = session.dispatched ++ [dispatched])
      (denoted : dispatched.setReceivedTime 0 = text.request) (reads : Reading after rest)

theorem Reading.outcome (reading : Reading session arrived) {lost : Text}
    (httpCallback : HttpCallback σ)
    (read : session.inputBuffer.readFd 0 (.delivered chunk) = .ok (chunk.length, 0, filled))
    (holding : Holding lost filled)
    (content : filled.toString = session.inputBuffer.toString ++ bytes) (receivedTime : Int)
    {pending : List RequestText} {later : Text}
    (cut : arrived ++ bytes ++ (lost ++ later) = stream pending)
    (enough : (stream pending).length < fuel) :
    (∀ after, receive httpCallback fuel session (chunk, receivedTime) = .ok after →
      Holding lost after.inputBuffer ∧ Outcome session (arrived ++ bytes) pending after) ∧
      (Versioned httpCallback → ∃ after, receive httpCallback fuel session (chunk, receivedTime) =
        .ok after) := by
  have accepted := stream_accepted cut
  have short : (arrived ++ bytes).length < fuel := by
    rw [← cut, List.length_append] at enough
    omega
  by_cases complete : ∃ text texts rest, pending = text :: texts ∧
    arrived ++ bytes = text.bytes ++ rest
  · obtain ⟨text, texts, rest, first, ends⟩ := complete
    have evaluated := eval_request text rest
    rw [← ends] at evaluated
    obtain ⟨handed, returns⟩ :=
      reading.receive_request (holding_retrieves lost) httpCallback read holding content
      receivedTime accepted short evaluated
    refine ⟨?_, returns⟩
    intro after received
    obtain ⟨dispatched, gains, denoted, kept, reads⟩ := handed after received
    exact ⟨kept, .request first ends gains denoted reads⟩
  · have incomplete : (∀ after rest, (after, rest) ∈ eval lineStep (.new, arrived ++ bytes) →
          after.state ≠ .kAllDone) ∧
        ∀ text texts, pending = text :: texts → (arrived ++ bytes).length < text.bytes.length := by
      rcases pending with _ | ⟨text, texts⟩
      · have nothing : arrived ++ bytes = [] := (List.append_eq_nil_iff.mp cut).1
        rw [nothing]
        exact ⟨incomplete_nothing, fun _ _ impossible => by cases impossible⟩
      · rcases stream_split cut with ⟨rest, ends, _⟩ | ⟨absent, lacks, ends⟩
        · exact absurd ⟨text, texts, rest, rfl, ends⟩ complete
        · refine ⟨incomplete_request absent lacks ends, ?_⟩
          rintro _ _ ⟨rfl, rfl⟩
          have some : 0 < absent.length := List.length_pos_iff.mpr lacks
          rw [ends, @List.length_append _ _ absent]
          omega
    obtain ⟨next, received, same, kept, reads⟩ :=
      reading.receive_more (holding_retrieves lost) httpCallback read
      holding content receivedTime accepted short incomplete.1
    refine ⟨?_, fun _ => ⟨next, received⟩⟩
    intro after returned
    cases received.symm.trans returned
    exact ⟨kept, .more incomplete.2 same reads⟩

end Receive

section Run

variable {pending : List RequestText} {arrived missing : Text} {arrivals : List (Text × Int)}
  {after : HttpSession σ} {served left : List RequestText}

/-- Some requests are dispatched and the others are left. -/
structure Served (session after : HttpSession σ)
    (pending served left : List RequestText) : Prop where
  parts : pending = served ++ left
  dispatched : after.dispatched.map (·.setReceivedTime 0) =
    session.dispatched.map (·.setReceivedTime 0) ++ served.map RequestText.request

theorem Served.more {next : HttpSession σ} (same : next.dispatched = session.dispatched)
    (later : Served next after pending served left) : Served session after pending served left where
  parts := later.parts
  dispatched := by rw [later.dispatched, same]

theorem Served.request {next : HttpSession σ} {request : HttpRequest} {text : RequestText}
    (gains : next.dispatched = session.dispatched ++ [request])
    (denoted : request.setReceivedTime 0 = text.request)
    (later : Served next after pending served left) :
    Served session after (text :: pending) (text :: served) left where
  parts := by rw [later.parts, List.cons_append]
  dispatched := by
    rw [later.dispatched, gains, List.map_append, List.append_assoc]
    simp [denoted]

/-- The bytes of a chunk join those that arrived and those that were lost. -/
theorem cut_read {bytes lost chunk later whole : Text} (joined : bytes ++ lost = missing ++ chunk)
    (cut : arrived ++ (missing ++ (chunk ++ later)) = whole) :
    arrived ++ bytes ++ (lost ++ later) = whole := by
  rw [← cut, List.append_assoc, ← List.append_assoc bytes, joined, List.append_assoc]

theorem arriving_cons (arrival : Text × Int) (arrivals : List (Text × Int)) :
    arriving (arrival :: arrivals) = arrival.1 ++ arriving arrivals := rfl

/-- What remains of the stream when its first request is dispatched. -/
theorem cut_request {text : RequestText} {bytes rest more : Text}
    (ends : bytes = text.bytes ++ rest) (cut : bytes ++ more = stream (text :: pending)) :
    rest ++ more = stream pending := by
  rw [ends, stream_cons, List.append_assoc] at cut
  exact List.append_cancel_left cut

/-- The server answers as long as the callback leaves versions. -/
theorem Reading.receiveAll_returns (versioned : Versioned httpCallback)
    (reading : Reading session arrived) (holding : Holding missing session.inputBuffer)
    (cut : arrived ++ (missing ++ arriving arrivals) = stream pending)
    (enough : (stream pending).length < fuel) :
    ∃ after, receiveAll httpCallback fuel session arrivals = .ok after := by
  induction arrivals generalizing session pending arrived missing with
  | nil => exact ⟨session, rfl⟩
  | cons arrival arrivals ih =>
    obtain ⟨bytes, lost, filled, read, held, content, joined, _⟩ := holding.read arrival.1
    rw [arriving_cons] at cut
    have split := cut_read joined cut
    obtain ⟨effect, returns⟩ :=
      reading.outcome httpCallback read held content arrival.2 split enough
    obtain ⟨next, received⟩ := returns versioned
    obtain ⟨kept, outcome⟩ := effect next received
    obtain ⟨after, rest⟩ :
        ∃ after, HttpServer.receiveAll httpCallback fuel next arrivals = .ok after := by
      cases outcome with
      | more _ _ reads => exact ih reads kept split enough
      | request first ends _ _ reads =>
        subst first
        refine ih reads kept (cut_request ends split) ?_
        rw [stream_cons, List.length_append] at enough
        omega
    refine ⟨after, ?_⟩
    rw [HttpServer.receiveAll, List.foldlM_cons, received]
    exact rest

/-- Nothing is left exactly when all chunks fit and each request that has ended is served by the end
of a chunk of its own. -/
theorem Reading.receiveAll (reading : Reading session arrived)
    (holding : Holding missing session.inputBuffer)
    (cut : arrived ++ (missing ++ arriving arrivals) = stream pending)
    (enough : (stream pending).length < fuel)
    (received : receiveAll httpCallback fuel session arrivals = .ok after) (start : Nat) :
    ∃ served left, Served session after pending served left ∧
      (left = [] ↔ missing = [] ∧ allFit httpCallback fuel session arrivals = true ∧
        unserved (endsFrom start (pending.map RequestText.bytes))
          (endsFrom (start + arrived.length) (arrivals.map Prod.fst)) = []) := by
  induction arrivals generalizing session pending arrived missing start with
  | nil =>
    cases received
    refine ⟨[], pending, ⟨rfl, by simp⟩, ?_⟩
    simp only [List.map_nil, endsFrom, unserved, endsFrom_eq_nil, List.map_eq_nil_iff,
      allFit, true_and]
    refine ⟨?_, And.right⟩
    rintro rfl
    exact ⟨(List.append_eq_nil_iff.mp (List.append_eq_nil_iff.mp cut).2).1, rfl⟩
  | cons arrival arrivals ih =>
    obtain ⟨bytes, lost, filled, read, held, content, joined, whole⟩ := holding.read arrival.1
    rw [arriving_cons] at cut
    have split := cut_read joined cut
    rw [HttpServer.receiveAll, List.foldlM_cons] at received
    obtain ⟨next, first, rest⟩ := bind_eq_ok.mp received
    obtain ⟨kept, outcome⟩ :=
      (reading.outcome httpCallback read held content arrival.2 split enough).1 next first
    have fits : (missing = [] ∧ allFit httpCallback fuel session (arrival :: arrivals) = true) ↔
        lost = [] ∧ allFit httpCallback fuel next arrivals = true := by
      rw [allFit, first, Bool.and_eq_true_iff, decide_eq_true_iff, whole, and_assoc]
    have position : lost = [] →
        start + arrived.length + arrival.1.length = start + (arrived ++ bytes).length := by
      intro none
      obtain rfl := (whole.mp none).1
      rw [none, List.append_nil] at joined
      rw [joined, List.nil_append, List.length_append, Nat.add_assoc]
    rw [← and_assoc, fits, and_assoc, List.map_cons, endsFrom]
    cases outcome with
    | more longer same reads =>
      obtain ⟨served, left, later, all⟩ := ih reads kept split enough rest start
      refine ⟨served, left, later.more same,
        all.trans (and_congr_right fun none => and_congr_right fun _ => ?_)⟩
      rw [position none]
      rcases pending with _ | ⟨text, texts⟩
      · simp [endsFrom]
      · have short := longer text texts rfl
        rw [List.map_cons, endsFrom, unserved, if_neg (by omega)]
    | @request text texts rest' dispatched one ends gains denoted reads =>
      subst one
      have fewer : (stream texts).length < fuel := by
        rw [stream_cons, List.length_append] at enough
        omega
      obtain ⟨served, left, later, all⟩ :=
        ih reads kept (cut_request ends split) fewer rest (start + text.bytes.length)
      refine ⟨text :: served, left, later.request gains denoted,
        all.trans (and_congr_right fun none => and_congr_right fun _ => ?_)⟩
      rw [position none, List.map_cons, endsFrom, unserved, ends, List.length_append,
        if_pos (by omega), ← Nat.add_assoc]

/-- Every request reaches the callback, in order, exactly when each chunk fits into the buffer and
each request ends with at least as many chunks to come (counting the chunk it ends in) as there are
requests from it on. -/
theorem dispatched_iff_enough_chunks (httpCallback : HttpCallback σ)
    (versioned : Versioned httpCallback) (user : σ) (texts : List RequestText)
    (arrivals : List (Text × Int)) (cut : arriving arrivals = stream texts)
    (initialSize fuel : Nat) (enough : (stream texts).length < fuel) :
    (∃ session, receiveAll httpCallback fuel (onConnection (.create initialSize) user) arrivals =
        .ok session ∧
        session.dispatched.map (·.setReceivedTime 0) = texts.map RequestText.request) ↔
      allFit httpCallback fuel (onConnection (.create initialSize) user) arrivals = true ∧
        EnoughTicks (endsFrom 0 (texts.map RequestText.bytes))
          (endsFrom 0 (arrivals.map Prod.fst)) := by
  have reading := onConnection_reading initialSize user
  have holding : Holding [] (onConnection (.create initialSize) user).inputBuffer :=
    Buffer.create_valid initialSize
  obtain ⟨after, returned⟩ := reading.receiveAll_returns versioned holding cut enough
  obtain ⟨served, left, run, whole⟩ := reading.receiveAll holding cut enough returned 0
  rw [← unserved_eq_nil_iff (endsFrom_ordered _ _) (endsFrom_ordered _ _)]
  simp only [List.length_nil, Nat.add_zero, true_and] at whole
  rw [← whole]
  have dispatched : after.dispatched.map (·.setReceivedTime 0) = served.map RequestText.request :=
    run.dispatched
  constructor
  · rintro ⟨session, received, all⟩
    cases returned.symm.trans received
    rw [dispatched, run.parts, List.map_append] at all
    have fewer := congrArg List.length all
    rw [List.length_append, List.length_map, List.length_map] at fewer
    exact List.length_eq_zero_iff.mp (by omega)
  · intro none
    refine ⟨after, returned, ?_⟩
    rw [dispatched, run.parts, none, List.append_nil]

/-- A callback that answers every request. -/
def answerOk : HttpCallback Unit := fun _ _ response =>
  ((response.setVersion .kHttp11).setStatusCode .k200OK |>.setStatusMessage (ascii "OK"), ())

theorem answerOk_versioned : Versioned answerOk := by
  intro user request close unknown
  cases unknown

/-- `GET /?q HTTP/1.1` with one header. -/
def getRoot : RequestText := .queried

theorem dispatched_three_chunks :
    ∃ session, receiveAll answerOk 100 (onConnection (.create Buffer.kInitialSize) ())
        [(getRoot.bytes.take 20, 1), (getRoot.bytes.drop 20 ++ getRoot.bytes.take 5, 2),
          (getRoot.bytes.drop 5, 3)] =
          .ok session ∧
      session.dispatched.map (·.setReceivedTime 0) = [getRoot, getRoot].map RequestText.request :=
  (dispatched_iff_enough_chunks answerOk answerOk_versioned () [getRoot, getRoot] _ (by decide)
    Buffer.kInitialSize 100 (by decide)).mpr (by decide +kernel)

theorem second_request_of_chunk_not_dispatched :
    arriving [(getRoot.bytes ++ getRoot.bytes, 1)] = stream [getRoot, getRoot] ∧
      ¬ ∃ session, receiveAll answerOk 100 (onConnection (.create Buffer.kInitialSize) ())
          [(getRoot.bytes ++ getRoot.bytes, 1)] = .ok session ∧
        session.dispatched.map (·.setReceivedTime 0) =
          [getRoot, getRoot].map RequestText.request := by
  refine ⟨by decide, ?_⟩
  rintro ⟨session, returned, all⟩
  have one : (receiveAll answerOk 100 (onConnection (.create Buffer.kInitialSize) ())
      [(getRoot.bytes ++ getRoot.bytes, 1)]).toOption.map (·.dispatched.length) = some 1 := by
    decide +kernel
  rw [returned] at one
  have two := congrArg List.length all
  rw [List.length_map] at two
  cases (Option.some.inj one).symm.trans two

end Run

end HttpServer

end FakeMuduo.Http
