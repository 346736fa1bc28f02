import FakeMuduo.Net.TcpConnectionInvariant

namespace FakeMuduo.Net.TcpConnection

open FakeMuduo.Base FakeMuduo.Util

/-- What the loop's thread can do with the output side of an established
connection. `peerClosed` is a readable event whose read returns zero. -/
inductive OutputStep where
  | sendString (msg : List Byte) (answer : WriteAnswer)
  | sendBytes (msg : List Byte) (answer : WriteAnswer)
  | sendBuffer (buf : { buf : Buffer // buf.Valid }) (answer : WriteAnswer)
  | handleWrite (answer : WriteAnswer)
  | shutdown
  | forceClose
  | forceCloseInLoop
  | peerClosed

/-- The kernel reports the descriptor readable only while it is watched for that. -/
def watchedForReading (conn : TcpConnection) : Bool := conn.channel.interest.any (·.read)

def OutputStep.perform (log : Log) (conn : TcpConnection) : OutputStep → Checked TcpConnection
  | sendString msg answer => do
    let (next, _) ← conn.sendString log msg answer
    return next
  | sendBytes msg answer => do
    let (next, _) ← conn.sendBytes log msg answer
    return next
  | sendBuffer buf answer => do
    let (next, _, _) ← conn.sendBuffer log buf answer
    return next
  | handleWrite answer => do
    let (next, _) ← conn.handleWrite answer
    return next
  | shutdown => .ok conn.shutdown
  | forceClose => .ok conn.forceClose.1
  | forceCloseInLoop => if conn.isOpen then conn.handleClose else .ok conn
  | peerClosed => if conn.watchedForReading then conn.handleClose else .ok conn

def performAll (log : Log) (conn : TcpConnection) (steps : List OutputStep) :
    Checked TcpConnection :=
  steps.foldlM (OutputStep.perform log) conn

/-- The connection a new one becomes when it is established. -/
def established (writeCompleteCallback highWaterMarkCallback : Bool) : TcpConnection :=
  { create writeCompleteCallback highWaterMarkCallback with
    state := .kConnected
    channel :=
      { events := ⟨true, false⟩, index := .kAdded, tied := true, addedToLoop := true,
        registered := true, interest := some ⟨true, false⟩ } }

theorem connectEstablished_create (writeCompleteCallback highWaterMarkCallback : Bool) :
    (create writeCompleteCallback highWaterMarkCallback).connectEstablished =
      .ok (established writeCompleteCallback highWaterMarkCallback) := rfl

theorem established_live (writeCompleteCallback highWaterMarkCallback : Bool) :
    Live (established writeCompleteCallback highWaterMarkCallback) :=
  ⟨rfl, ⟨rfl, rfl, rfl⟩, rfl, Buffer.create_valid _, by
    simp [established, create, Channel.isWriting, Buffer.create, Buffer.readableBytes]⟩

/-- The message a step passes to `send`, with the kernel's answer to its direct write. -/
def OutputStep.message : OutputStep → Option (List Byte × WriteAnswer)
  | sendString msg answer | sendBytes msg answer => some (msg, answer)
  | sendBuffer buf answer => some (buf.1.toString, answer)
  | _ => none

/-- The message is written directly and the write fails with `EPIPE` or `ECONNRESET`. -/
def directWriteFails (conn : TcpConnection) (answer : WriteAnswer) : Bool :=
  conn.writesDirectly && (answer == .failed EPIPE || answer == .failed ECONNRESET)

/-- The message the step adds to the output stream, if any. -/
def OutputStep.sent (conn : TcpConnection) (step : OutputStep) : List (List Byte) :=
  match step.message with
  | some (msg, answer) =>
    if conn.state = .kConnected ∧ conn.directWriteFails answer = false then [msg] else []
  | none => []

/-- All messages sent while connected, in call order, without those given up. -/
def sentMessages (log : Log) (conn : TcpConnection) : List OutputStep → List (List Byte)
  | [] => []
  | step :: rest =>
    step.sent conn ++
      match step.perform log conn with
      | .ok next => sentMessages log next rest
      | .error _ => []

/-- The connection is live, or closed for good. -/
def Settled (conn : TcpConnection) : Prop := Live conn ∨ Closed conn

theorem givesUp_eq (keeps : log.clearsErrno = false) (conn : TcpConnection) (answer : WriteAnswer) :
    givesUp log conn answer = conn.directWriteFails answer := by
  cases answer with
  | wrote count => simp [givesUp, directWriteFails]
  | failed errno =>
    apply Bool.eq_iff_iff.mpr
    simp [givesUp, directWriteFails, isFaultError_eq, isBroken, keeps]

private theorem sendString_settled (log : Log) (keeps : log.clearsErrno = false)
    (settled : Settled conn) (msg : List Byte) (answer : WriteAnswer) :
    ∃ next queued, conn.sendString log msg answer = .ok (next, queued) ∧ Settled next ∧
      next.stream = conn.stream ++
        (if conn.state = .kConnected ∧ conn.directWriteFails answer = false then [msg]
          else []).flatten := by
  by_cases connected : conn.state = .kConnected
  · rcases settled with live | closed
    · obtain ⟨next, queued, returned, nextLive, _, _, content, _⟩ :=
        sendInLoop_live log live msg answer
      refine ⟨next, queued, by simp only [sendString, connected, if_true, returned],
        .inl nextLive, ?_⟩
      rw [content, givesUp_eq keeps]
      cases conn.directWriteFails answer <;> simp [connected]
    · rw [closed.disconnected] at connected
      cases connected
  · exact ⟨conn, [], by simp [sendString, connected], settled, by simp [connected]⟩

theorem OutputStep.perform_settled (log : Log) (keeps : log.clearsErrno = false)
    (settled : Settled conn) (step : OutputStep) :
    ∃ next, step.perform log conn = .ok next ∧ Settled next ∧
      next.stream = conn.stream ++ (step.sent conn).flatten := by
  cases step with
  | sendString msg answer =>
    obtain ⟨next, queued, returned, nextSettled, content⟩ :=
      sendString_settled log keeps settled msg answer
    exact ⟨next, by simp only [perform, returned, ok_bind]; rfl, nextSettled, content⟩
  | sendBytes msg answer =>
    obtain ⟨next, queued, returned, nextSettled, content⟩ :=
      sendString_settled log keeps settled msg answer
    refine ⟨next, ?_, nextSettled, content⟩
    simp only [perform, TcpConnection.sendBytes, returned, ok_bind]
    rfl
  | sendBuffer buf answer =>
    obtain ⟨next, queued, returned, nextSettled, content⟩ :=
      sendString_settled log keeps settled buf.1.toString answer
    refine ⟨next, ?_, nextSettled, content⟩
    simp only [TcpConnection.sendString] at returned
    simp only [perform, TcpConnection.sendBuffer]
    by_cases connected : conn.state = .kConnected
    · rw [if_pos connected] at returned
      simp only [connected, if_true, returned, ok_bind]
      rfl
    · rw [if_neg connected] at returned
      cases returned
      simp only [connected, if_false]
      rfl
  | handleWrite answer =>
    rcases settled with live | closed
    · obtain ⟨next, queued, returned, nextLive, _, content, _⟩ := handleWrite_live live answer
      exact ⟨next, by simp only [perform, returned, ok_bind]; rfl, .inl nextLive, by
        simpa [sent, message] using content⟩
    · have idle : conn.channel.isWriting = false := by
        simp [Channel.isWriting, closed.parked.silent, Events.kNoneEvent]
      refine ⟨conn, ?_, .inr closed, by simp [sent, message]⟩
      simp [perform, TcpConnection.handleWrite, idle, pure, Except.pure, bind, Except.bind]
  | shutdown =>
    refine ⟨conn.shutdown, rfl, ?_, ?_⟩
    · unfold TcpConnection.shutdown
      split
      · rcases settled with live | closed
        · exact .inl (live.setState rfl).shutdownInLoop
        · rename_i connected
          rw [closed.disconnected] at connected
          cases connected
      · exact settled
    · simp only [TcpConnection.shutdown, sent, message, List.flatten_nil, List.append_nil]
      split
      · rw [shutdownInLoop_stream]
        rfl
      · rfl
  | forceClose =>
    refine ⟨conn.forceClose.1, rfl, ?_, ?_⟩
    · unfold TcpConnection.forceClose
      split
      · rcases settled with live | closed
        · exact .inl (live.setState rfl)
        · rename_i isOpen
          simp [isOpen_iff, closed.disconnected] at isOpen
      · exact settled
    · simp only [TcpConnection.forceClose, sent, message, List.flatten_nil, List.append_nil]
      split <;> rfl
  | forceCloseInLoop =>
    simp only [perform, sent, message, List.flatten_nil, List.append_nil]
    split
    · rcases settled with live | closed
      · obtain ⟨next, returned, nextClosed, content⟩ := handleClose_closed live
        exact ⟨next, returned, .inr nextClosed, content⟩
      · rename_i isOpen
        simp [isOpen_iff, closed.disconnected] at isOpen
    · exact ⟨conn, rfl, settled, rfl⟩
  | peerClosed =>
    simp only [perform, sent, message, List.flatten_nil, List.append_nil]
    split
    · rcases settled with live | closed
      · obtain ⟨next, returned, nextClosed, content⟩ := handleClose_closed live
        exact ⟨next, returned, .inr nextClosed, content⟩
      · rename_i watched
        simp [watchedForReading, closed.parked.unwatched] at watched
    · exact ⟨conn, rfl, settled, rfl⟩

theorem performAll_settled (log : Log) (keeps : log.clearsErrno = false) (steps : List OutputStep) :
    ∀ conn, Settled conn → ∃ final, performAll log conn steps = .ok final ∧ Settled final ∧
      final.stream = conn.stream ++ (sentMessages log conn steps).flatten := by
  induction steps with
  | nil =>
    intro conn settled
    exact ⟨conn, rfl, settled, by simp [sentMessages]⟩
  | cons step rest ih =>
    intro conn settled
    obtain ⟨next, returned, nextSettled, content⟩ := step.perform_settled log keeps settled
    obtain ⟨final, finished, finalSettled, remaining⟩ := ih next nextSettled
    refine ⟨final, ?_, finalSettled, ?_⟩
    · simp only [performAll, List.foldlM_cons, returned, ok_bind]
      exact finished
    · rw [remaining, content]
      simp [sentMessages, returned]

/-- No byte is lost, duplicated or reordered on the way to the kernel, and the
write interest is set exactly while output is buffered. -/
theorem output_stream_integrity (log : Log) (keeps : log.clearsErrno = false)
    (writeCompleteCallback highWaterMarkCallback : Bool) (steps : List OutputStep) :
    ∃ final, performAll log (established writeCompleteCallback highWaterMarkCallback) steps =
      .ok final ∧
      final.socket.accepted ++ final.outputBuffer.toString =
        (sentMessages log (established writeCompleteCallback highWaterMarkCallback) steps).flatten ∧
      (final.state = .kConnected ∨ final.state = .kDisconnecting →
        (final.channel.isWriting = true ↔ 0 < final.outputBuffer.readableBytes)) := by
  obtain ⟨final, finished, settled, content⟩ := performAll_settled log keeps steps _
    (.inl (established_live writeCompleteCallback highWaterMarkCallback))
  refine ⟨final, finished, ?_, ?_⟩
  · simpa [stream, established, create] using content
  · intro isOpen
    rcases settled with live | closed
    · exact live.writing
    · simp [closed.disconnected] at isOpen

/-- A partly written message, one buffered behind it, and a drain in two pieces. -/
theorem output_stream_integrity_partial_writes :
    (⟨.kINFO, some .async⟩ : Log).clearsErrno = false ∧
    ∃ final, performAll ⟨.kINFO, some .async⟩ (established true false)
        [.sendString [1, 2, 3] (.wrote 1), .sendBytes [4] (.failed EPIPE), .handleWrite (.wrote 1),
          .handleWrite (.wrote 7), .sendString [5] (.failed EPIPE)] = .ok final ∧
      final.socket.accepted ++ final.outputBuffer.toString = [1, 2, 3, 4] := by
  have keeps : (⟨.kINFO, some .async⟩ : Log).clearsErrno = false := rfl
  obtain ⟨final, finished, content, _⟩ :=
    output_stream_integrity ⟨.kINFO, some .async⟩ keeps true false
    [.sendString [1, 2, 3] (.wrote 1), .sendBytes [4] (.failed EPIPE), .handleWrite (.wrote 1),
      .handleWrite (.wrote 7), .sendString [5] (.failed EPIPE)]
  exact ⟨keeps, final, finished, content.trans (by decide +kernel)⟩

end FakeMuduo.Net.TcpConnection
