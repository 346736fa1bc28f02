import FakeMuduo.Http.Dispatch
import FakeMuduo.Http.ParseOutcome
import FakeMuduo.Http.ResponseFraming
import FakeMuduo.Net.Conversation

/-! What a client of the HTTP server gets over its connection: from the bytes it sends to the bytes
the kernel takes, whatever the sizes of reads and writes. -/

namespace FakeMuduo.Http

open FakeMuduo.Base FakeMuduo.Net FakeMuduo.Util HttpContext Conversation

def ConnectionCall.call : ConnectionCall → Call
  | send data => .send data
  | shutdown => .shutdown

namespace HttpResponse

/-- The text of a response that has a version. -/
def text (response : HttpResponse) : Text :=
  match response.pieces with
  | .ok pieces => pieces.flatten
  | .error _ => []

theorem appendToBuffer_text {response : HttpResponse} {outBuffer buffer : Buffer}
    (valid : outBuffer.Valid) (appended : response.appendToBuffer outBuffer = .ok buffer) :
    buffer.toString = outBuffer.toString ++ response.text := by
  obtain ⟨pieces, known, appended⟩ := bind_eq_ok.mp appended
  obtain ⟨_, returned, _, content⟩ := Buffer.foldlM_append_returns pieces valid
  cases returned.symm.trans appended
  rw [content, text, known]

/-- What `onRequestInThreadPool` does with a response. -/
def calls (response : HttpResponse) : List ConnectionCall :=
  .send response.text :: if response.closeConnection then [.shutdown] else []

/-- The texts up to the first response that closes, and that one. -/
def untilClosed : List HttpResponse → List Text
  | [] => []
  | response :: responses => response.text :: if response.closeConnection then []
      else untilClosed responses

theorem spoken_calls (responses : List HttpResponse) :
    spoken ((responses.flatMap calls).map ConnectionCall.call) = untilClosed responses := by
  induction responses with
  | nil => rfl
  | cons response responses ih =>
    cases closes : response.closeConnection with
    | true => simp [calls, closes, untilClosed, ConnectionCall.call, spoken]
    | false => simpa [calls, closes, untilClosed, ConnectionCall.call, spoken] using ih

theorem shutdown_mem_calls {responses : List HttpResponse} :
    .shutdown ∈ (responses.flatMap calls).map ConnectionCall.call ↔
      ∃ response ∈ responses, response.closeConnection = true := by
  induction responses with
  | nil => simp
  | cons response responses ih =>
    rw [List.flatMap_cons, List.map_append, List.mem_append, ih, List.exists_mem_cons_iff]
    refine or_congr_left ?_
    cases closes : response.closeConnection <;> simp [calls, closes, ConnectionCall.call]

theorem Framable.text_eq {response : HttpResponse} (framable : Framable response) :
    response.text = response.bytes := by
  obtain ⟨pieces, known, content⟩ := pieces_flatten framable
  rw [text, known]
  exact content

/-- When no response closes, a client finds all of them in the bytes. -/
theorem receiveAll_untilClosed {responses : List HttpResponse}
    (framable : ∀ response ∈ responses, Framable response) :
    Client.receiveAll (untilClosed responses).flatten = some (responses.map message) := by
  have bytes : (untilClosed responses).flatten = responses.flatMap bytes := by
    induction responses with
    | nil => rfl
    | cons response responses ih =>
      have first := framable response List.mem_cons_self
      rw [untilClosed, first.keepAlive, if_neg Bool.false_ne_true, List.flatten_cons,
        List.flatMap_cons, first.text_eq, ih fun other member =>
          framable other (List.mem_cons_of_mem _ member)]
  rw [bytes]
  refine Client.receiveUpTo_flatten ?_ ?_ (Nat.le_refl _)
  · intro response member rest
    exact receive_bytes (framable response member) rest
  · intro response _
    simp [HttpResponse.bytes, Client.headEnd]

end HttpResponse

section Parse

variable {context : HttpContext} {buffer : Buffer} {receivedTime : Int} {fuel : Nat} {ok : Bool}

theorem parseLoop_refused {crlf : Nat} (requestLine : context.state = .kParseRequestLine)
    (found : buffer.findCRLF = some crlf)
    (refused : (processRequestLine context.request
      (window buffer.buffer buffer.peek (crlf - buffer.peek))).1 = false) :
    parseLoop receivedTime fuel ok context buffer = .error .outOfFuel := by
  induction fuel generalizing ok context with
  | zero => rfl
  | succ fuel ih =>
    simp only [parseLoop, requestLine, found, refused, Bool.false_eq_true, if_false]
    refine @ih ⟨.kParseRequestLine, _⟩ false rfl ?_
    rw [processRequestLine_accepts_congr _ context.request]
    exact refused

/-- A call of `parseRequest` that returns does not refuse: the loop does not end after a line that
is no request line. -/
theorem parseLoop_ok {after : HttpContext} {left : Buffer}
    (parsed : parseLoop receivedTime fuel true context buffer = .ok (ok, after, left)) :
    ok = true := by
  induction fuel generalizing context buffer with
  | zero => cases parsed
  | succ fuel ih =>
    unfold parseLoop at parsed
    split at parsed
    case h_1 requestLine =>
      split at parsed
      case h_1 crlf found =>
        dsimp only at parsed
        split at parsed
        case isTrue accepted =>
          obtain ⟨rest, _, parsed⟩ := bind_eq_ok.mp parsed
          rw [accepted] at parsed
          exact ih parsed
        case isFalse refused =>
          rw [Bool.not_eq_true] at refused
          let line := window buffer.buffer buffer.peek (crlf - buffer.peek)
          have stuck := @parseLoop_refused { context with
            request := (processRequestLine context.request line).2 } buffer
            receivedTime fuel false crlf requestLine found
              ((processRequestLine_accepts_congr _ _ line).trans refused)
          cases stuck.symm.trans parsed
      case h_2 =>
        cases parsed
        rfl
    case h_2 =>
      split at parsed
      case h_1 =>
        dsimp only at parsed
        split at parsed
        case h_1 =>
          obtain ⟨rest, _, parsed⟩ := bind_eq_ok.mp parsed
          exact ih parsed
        case h_2 =>
          obtain ⟨rest, _, parsed⟩ := bind_eq_ok.mp parsed
          cases parsed
          rfl
      case h_2 =>
        cases parsed
        rfl
    case h_3 => exact ih parsed
    case h_4 => exact ih parsed

end Parse

namespace HttpServer

variable {σ : Type}

/-- The message callback that `HttpServer` sets. -/
def messageCallback (httpCallback : HttpCallback σ) (fuel : Nat) :
    MessageCallback (HttpSession σ) :=
  fun session inputBuffer _ receiveTime => do
    let after ← onMessage httpCallback fuel { session with inputBuffer } receiveTime
    return (after, after.inputBuffer,
      (after.calls.drop session.calls.length).map ConnectionCall.call)

/-- The response that the user's callback makes for a request, and its new state. -/
def respond (httpCallback : HttpCallback σ) (user : σ) (request : HttpRequest) : HttpResponse × σ :=
  httpCallback user request
    (.new (decide (request.getHeader (ascii "Connection") = ascii "close" ∨
      request.version = .kHttp10)))

/-- The responses to requests, one after another. -/
def responses (httpCallback : HttpCallback σ) : σ → List HttpRequest → List HttpResponse
  | _, [] => []
  | user, request :: requests =>
    let (response, next) := respond httpCallback user request
    response :: responses httpCallback next requests

/-- The state of the user's callback after requests. -/
def userAfter (httpCallback : HttpCallback σ) (user : σ) (requests : List HttpRequest) : σ :=
  requests.foldl (fun user request => (respond httpCallback user request).2) user

theorem responses_append (httpCallback : HttpCallback σ) (user : σ)
    (requests more : List HttpRequest) :
    responses httpCallback user (requests ++ more) =
      responses httpCallback user requests ++ responses httpCallback
        (userAfter httpCallback user requests) more := by
  induction requests generalizing user with
  | nil => rfl
  | cons request requests ih => exact congrArg (_ :: ·) (ih _)

/-- How a session came from another one: by these requests. -/
structure Follows (httpCallback : HttpCallback σ) (session after : HttpSession σ)
    (requests : List HttpRequest) :
    Prop where
  dispatched : after.dispatched = session.dispatched ++ requests
  calls : after.calls = session.calls ++ (responses httpCallback session.user requests).flatMap
    HttpResponse.calls
  user : after.user = userAfter httpCallback session.user requests

section Follows

variable {httpCallback : HttpCallback σ} {session middle after : HttpSession σ}
  {requests more : List HttpRequest} {fuel : Nat}

theorem Follows.refl (httpCallback : HttpCallback σ) (session : HttpSession σ) :
    Follows httpCallback session session [] :=
  ⟨(List.append_nil _).symm, (List.append_nil _).symm, rfl⟩

theorem Follows.trans (first : Follows httpCallback session middle requests)
    (second : Follows httpCallback middle after more) :
    Follows httpCallback session after (requests ++ more) := by
  refine ⟨?_, ?_, ?_⟩
  · rw [second.dispatched, first.dispatched, List.append_assoc]
  · rw [second.calls, first.calls, first.user, responses_append, List.flatMap_append,
      List.append_assoc]
  · rw [second.user, first.user, userAfter, userAfter, userAfter, List.foldl_append]

theorem onRequest_follows {request : HttpRequest}
    (done : onRequest httpCallback session request = .ok after) :
    Follows httpCallback session after [request] := by
  obtain ⟨buffer, appended, done⟩ := bind_eq_ok.mp done
  cases done
  have text := HttpResponse.appendToBuffer_text (Buffer.create_valid Buffer.kInitialSize) appended
  rw [Buffer.create_toString, List.nil_append] at text
  refine ⟨rfl, ?_, rfl⟩
  dsimp only
  rw [text]
  simp [responses, respond, HttpResponse.calls]

/-- A call of `onMessage` hands on what the parser completes. -/
theorem onMessage_follows {receivedTime : Int}
    (done : onMessage httpCallback fuel session receivedTime = .ok after) :
    ∃ requests, Follows httpCallback session after requests := by
  obtain ⟨⟨ok, context, buffer⟩, parsed, done⟩ := bind_eq_ok.mp done
  cases parseLoop_ok parsed
  dsimp only at done
  rw [if_pos rfl, List.append_nil] at done
  split at done
  case isFalse =>
    cases done
    exact ⟨[], (List.append_nil _).symm, (List.append_nil _).symm, rfl⟩
  case isTrue =>
    obtain ⟨answered, handed, done⟩ := bind_eq_ok.mp done
    cases done
    have follows := onRequest_follows handed
    exact ⟨[context.request], follows.dispatched, follows.calls, follows.user⟩

theorem receive_follows {arrival : Text × Int}
    (done : receive httpCallback fuel session arrival = .ok after) :
    ∃ requests, Follows httpCallback session after requests := by
  obtain ⟨⟨_, _, filled⟩, _, done⟩ := bind_eq_ok.mp done
  obtain ⟨requests, follows⟩ := onMessage_follows done
  exact ⟨requests, follows.dispatched, follows.calls, follows.user⟩

theorem receiveAll_follows {arrivals : List (Text × Int)}
    (done : receiveAll httpCallback fuel session arrivals = .ok after) :
    ∃ requests, Follows httpCallback session after requests := by
  induction arrivals generalizing session with
  | nil =>
    cases done
    exact ⟨[], .refl httpCallback _⟩
  | cons arrival arrivals ih =>
    rw [receiveAll, List.foldlM_cons] at done
    obtain ⟨next, first, rest⟩ := bind_eq_ok.mp done
    obtain ⟨requests, follows⟩ := receive_follows first
    obtain ⟨more, later⟩ := ih rest
    exact ⟨requests ++ more, follows.trans later⟩

end Follows

section Client

variable {httpCallback : HttpCallback σ} {log : Log} {fuel : Nat} {user : σ}
  {world : World (HttpSession σ)} {steps : List Step}
  {writeCompleteCallback highWaterMarkCallback : Bool}

/-- Enough reads of well-formed requests dispatch all of them. -/
theorem dispatched_texts {heard : List (Text × Int)} {session : HttpSession σ}
    {texts : List RequestText}
    (received : receiveAll httpCallback fuel (onConnection (.create Buffer.kInitialSize) user)
      heard = .ok session)
    (fits : allFit httpCallback fuel (onConnection (.create Buffer.kInitialSize) user) heard = true)
    (cut : arriving heard = stream texts) (enough : (stream texts).length < fuel)
    (ticks : EnoughTicks (endsFrom 0 (texts.map RequestText.bytes))
      (endsFrom 0 (heard.map Prod.fst))) :
    session.dispatched.map (·.setReceivedTime 0) = texts.map RequestText.request := by
  have holding : Holding [] (onConnection (.create Buffer.kInitialSize) user).inputBuffer :=
    Buffer.create_valid Buffer.kInitialSize
  obtain ⟨served, left, done, whole⟩ :=
    (onConnection_reading Buffer.kInitialSize user).receiveAll holding cut enough received 0
  have all : left = [] := by
    refine whole.mpr ⟨rfl, fits, ?_⟩
    rw [List.length_nil, Nat.add_zero, unserved_eq_nil_iff (endsFrom_ordered _ _)
      (endsFrom_ordered _ _)]
    exact ticks
  rw [done.dispatched, done.parts, all, List.append_nil]
  rfl

/-- The session's calls are the answers to its requests. -/
theorem received_answers {heard : List (Text × Int)} {session : HttpSession σ}
    {conn : TcpConnection} {calls : List Call} (conversing : Conversing conn calls)
    (received : receiveAll httpCallback fuel (onConnection (.create Buffer.kInitialSize) user)
      heard = .ok session)
    (made : session.calls.map ConnectionCall.call = calls) :
    Answers conn (HttpResponse.untilClosed (responses httpCallback user session.dispatched)).flatten
      (∃ response ∈ responses httpCallback user session.dispatched,
        response.closeConnection = true) := by
  obtain ⟨requests, follows⟩ := receiveAll_follows received
  obtain rfl : session.dispatched = requests := follows.dispatched.trans (List.nil_append _)
  have all : session.calls = (responses httpCallback user session.dispatched).flatMap
      HttpResponse.calls :=
    follows.calls.trans (List.nil_append _)
  rw [← HttpResponse.spoken_calls, ← propext HttpResponse.shutdown_mem_calls, ← all, made]
  exact conversing.answers

theorem receiveAll_concat {arrivals : List (Text × Int)} {arrival : Text × Int}
    {session next after : HttpSession σ}
    (received : receiveAll httpCallback fuel session arrivals = .ok next)
    (last : receive httpCallback fuel next arrival = .ok after) :
    receiveAll httpCallback fuel session (arrivals ++ [arrival]) = .ok after := by
  rw [receiveAll, List.foldlM_append, show List.foldlM _ _ arrivals = _ from
    received, ok_bind, List.foldlM_cons, last]
  rfl

theorem allFit_concat {arrivals : List (Text × Int)} {arrival : Text × Int}
    {session next : HttpSession σ}
    (received : receiveAll httpCallback fuel session arrivals = .ok next)
    (fit : allFit httpCallback fuel session arrivals = true)
    (fits : arrival.1.length ≤ next.inputBuffer.writableBytes) :
    allFit httpCallback fuel session (arrivals ++ [arrival]) = true := by
  induction arrivals generalizing session with
  | nil =>
    cases received
    rw [List.nil_append, allFit, decide_eq_true fits, Bool.true_and]
    split <;> rfl
  | cons earlier arrivals ih =>
    rw [receiveAll, List.foldlM_cons] at received
    obtain ⟨middle, first, rest⟩ := bind_eq_ok.mp received
    rw [allFit, first, Bool.and_eq_true_iff] at fit
    rw [List.cons_append, allFit, first, Bool.and_eq_true_iff]
    exact ⟨fit.1, ih rest fit.2⟩

/-- The session is what the reads made of a new one; the input buffer and the calls are its own. -/
structure Hears (httpCallback : HttpCallback σ) (fuel : Nat) (user : σ) (session : HttpSession σ)
    (inputBuffer : Buffer) (calls : List Call) (heard : List (Text × Int)) : Prop where
  received : receiveAll httpCallback fuel (onConnection (.create Buffer.kInitialSize) user) heard =
    .ok session
  fit : allFit httpCallback fuel (onConnection (.create Buffer.kInitialSize) user) heard = true
  buffer : session.inputBuffer = inputBuffer
  calls : session.calls.map ConnectionCall.call = calls

/-- The connection's reads are the arrivals of the session. -/
theorem heard_received
    (run : (machine log (messageCallback httpCallback fuel)).Run
      (.initial writeCompleteCallback highWaterMarkCallback
        (onConnection (.create Buffer.kInitialSize) user)) steps world) :
    Conversing world.conn world.calls ∧
      Hears httpCallback fuel user world.user world.conn.inputBuffer world.calls world.heard := by
  refine Run.told (Hears httpCallback fuel user) ⟨rfl, rfl, rfl, rfl⟩ ?_ run
  rintro session _ _ heard data receiveTime filled next left more ⟨received, fit, rfl, rfl⟩ _ fits
    read called
  obtain ⟨after, answered, called⟩ := bind_eq_ok.mp called
  cases called
  have arrived : receive httpCallback fuel session (data, receiveTime) = .ok next := by
    rw [receive, read]
    exact answered
  obtain ⟨requests, follows⟩ := receive_follows arrived
  refine ⟨receiveAll_concat received arrived, allFit_concat received fit fits, rfl, ?_⟩
  rw [follows.calls, List.drop_left, List.map_append]

/-- Whatever the sizes of reads and writes, the kernel has got or will get the responses of the
user's callback to the requests it was given, in order and up to the first that closes; then, and
only then, the connection is shut down. -/
theorem client_gets_responses
    (run : (machine log (messageCallback httpCallback fuel)).Run
      (.initial writeCompleteCallback highWaterMarkCallback
        (onConnection (.create Buffer.kInitialSize) user)) steps
      world) :
    Answers world.conn
      (HttpResponse.untilClosed (responses httpCallback user world.user.dispatched)).flatten
      (∃ response ∈ responses httpCallback user world.user.dispatched,
        response.closeConnection = true) := by
  obtain ⟨conversing, hears⟩ := heard_received run
  exact received_answers conversing hears.received hears.calls

/-- A request in two reads that asks for the connection to be closed, and one after it. -/
def closingSteps : List Step :=
  [.handleRead (.delivered (getRoot.bytes.take 20)) 1 [],
    .handleRead (.delivered (getRoot.bytes.drop 20)) 2 [.wrote 5],
    .handleRead (.delivered (ascii "GET / HTTP/1.0\r\n\r\n")) 3 [], .handleWrite (.wrote 7),
    .handleRead (.delivered getRoot.bytes) 4 [], .handleWrite (.wrote 1000)]

theorem client_gets_responses_closing :
    ∃ world, (machine ⟨.kINFO, none⟩ (messageCallback answerOk 100)).Run
        (.initial false false (onConnection (.create Buffer.kInitialSize) ())) closingSteps world ∧
      world.conn.socket.shutdownAt ≠ none ∧ world.user.dispatched.length = 3 ∧
      Answers world.conn
        (HttpResponse.untilClosed (responses answerOk () world.user.dispatched)).flatten
        (∃ response ∈ responses answerOk () world.user.dispatched,
          response.closeConnection = true) := by
  have followed : (Machine.follow (perform ⟨.kINFO, none⟩ (messageCallback answerOk 100))
      (unbroken ⟨.kINFO, none⟩)
      (.initial false false (onConnection (.create Buffer.kInitialSize) ())) closingSteps).any
        (fun world =>
        decide (world.conn.socket.shutdownAt ≠ none ∧ world.user.dispatched.length = 3)) =
          true := by
    decide +kernel
  obtain ⟨world, run, final⟩ :=
    Machine.Run.ofFollowAny (machine ⟨.kINFO, none⟩ (messageCallback answerOk 100))
    (fun allowed performed => ⟨allowed, performed⟩) followed
  obtain ⟨shut, three⟩ := of_decide_eq_true final
  exact ⟨world, run, shut, three, client_gets_responses run⟩

/-- The whole round trip: a client that has sent well-formed requests, and got all bytes that were
written in answer, finds in them the responses of the user's callback to its requests. -/
theorem client_reads_responses
    (run : (machine log (messageCallback httpCallback fuel)).Run
      (.initial writeCompleteCallback highWaterMarkCallback
        (onConnection (.create Buffer.kInitialSize) user)) steps
      world)
    {texts : List RequestText} (cut : arriving world.heard = stream texts)
    (enough : (stream texts).length < fuel)
    (ticks : EnoughTicks (endsFrom 0 (texts.map RequestText.bytes))
      (endsFrom 0 (world.heard.map Prod.fst)))
    (framable : ∀ requests : List HttpRequest,
      requests.map (·.setReceivedTime 0) = texts.map RequestText.request →
      ∀ response ∈ responses httpCallback user requests, HttpResponse.Framable response)
    (drained : world.conn.outputBuffer.readableBytes = 0) :
    ∃ requests : List HttpRequest, requests.map (·.setReceivedTime 0) =
      texts.map RequestText.request ∧
      Client.receiveAll world.conn.socket.accepted =
        some ((responses httpCallback user requests).map HttpResponse.message) := by
  obtain ⟨conversing, hears⟩ := heard_received run
  have same := dispatched_texts hears.received hears.fit cut enough ticks
  refine ⟨world.user.dispatched, same, ?_⟩
  have stream := (received_answers conversing hears.received hears.calls).stream
  rw [Buffer.toString_of_empty drained, List.append_nil] at stream
  rw [stream]
  exact HttpResponse.receiveAll_untilClosed (framable _ same)

/-- Two requests in three reads. -/
def twoRequestSteps : List Step :=
  [.handleRead (.delivered (getRoot.bytes.take 20)) 1 [],
    .handleRead (.delivered (getRoot.bytes.drop 20 ++ getRoot.bytes.take 5)) 2 [.wrote 3],
    .handleRead (.delivered (getRoot.bytes.drop 5)) 3 [], .handleWrite (.wrote 1000)]

theorem answerOk_framable {request : HttpRequest}
    (same : request.setReceivedTime 0 = getRoot.request) :
    HttpResponse.Framable (respond answerOk () request).1 := by
  have header : request.getHeader (ascii "Connection") =
      getRoot.request.getHeader (ascii "Connection") := by
    rw [← same]
    rfl
  have version : request.version = getRoot.request.version := by
    rw [← same]
    rfl
  have keeps : decide (request.getHeader (ascii "Connection") = ascii "close" ∨
      request.version = .kHttp10) = false := by
    rw [header, version]
    decide
  rw [respond, keeps]
  refine ⟨rfl, ?_, ?_, ?_, ?_, ?_, ?_⟩
  · exact nofun
  · simp [answerOk, HttpResponse.setStatusMessage, ascii]
  · exact nofun
  · exact nofun
  · exact nofun
  · simp [answerOk, HttpResponse.new, HttpResponse.setVersion, HttpResponse.setStatusCode,
      HttpResponse.setStatusMessage]

theorem client_reads_responses_twice :
    ∃ (world : World (HttpSession Unit)) (requests : List HttpRequest),
      (machine ⟨.kINFO, none⟩ (messageCallback answerOk 100)).Run
        (.initial false false (onConnection (.create Buffer.kInitialSize) ()))
          twoRequestSteps world ∧
      requests.map (·.setReceivedTime 0) = [getRoot, getRoot].map RequestText.request ∧
      Client.receiveAll world.conn.socket.accepted =
        some ((responses answerOk () requests).map HttpResponse.message) := by
  have followed : (Machine.follow (perform ⟨.kINFO, none⟩ (messageCallback answerOk 100))
      (unbroken ⟨.kINFO, none⟩)
      (.initial false false (onConnection (.create Buffer.kInitialSize) ())) twoRequestSteps).any
        (fun world =>
        decide (world.conn.outputBuffer.readableBytes = 0 ∧
          arriving world.heard = stream [getRoot, getRoot] ∧
          EnoughTicks (endsFrom 0 ([getRoot, getRoot].map RequestText.bytes))
            (endsFrom 0 (world.heard.map Prod.fst)))) = true := by
    decide +kernel
  obtain ⟨world, run, final⟩ :=
    Machine.Run.ofFollowAny (machine ⟨.kINFO, none⟩ (messageCallback answerOk 100))
    (fun allowed performed => ⟨allowed, performed⟩) followed
  obtain ⟨drained, cut, ticks⟩ := of_decide_eq_true final
  obtain ⟨requests, same, found⟩ := client_reads_responses run cut (by decide) ticks
    (by
      intro requests same response member
      obtain ⟨first, rest, rfl, one, later⟩ := List.map_eq_cons_iff.mp same
      obtain ⟨second, none, rfl, two, last⟩ := List.map_eq_cons_iff.mp later
      obtain rfl := List.map_eq_nil_iff.mp last
      rcases List.mem_cons.mp member with rfl | member
      · exact answerOk_framable one
      · rcases List.mem_cons.mp member with rfl | member
        · exact answerOk_framable two
        · cases member) drained
  exact ⟨world, requests, run, same, found⟩

end Client

end HttpServer

end FakeMuduo.Http
