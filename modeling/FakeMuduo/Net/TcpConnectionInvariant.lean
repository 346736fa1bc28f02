import FakeMuduo.Net.BufferInvariant
import FakeMuduo.Net.TcpConnection

namespace FakeMuduo.Net

open FakeMuduo.Base FakeMuduo.Util

/-- A notice to the user: it calls back and changes nothing itself. -/
def Functor.IsNotice : Functor → Prop
  | .writeComplete | .highWaterMark _ => True
  | _ => False

namespace TcpConnection

/-- An established connection that can still be closed. The write interest and
the output buffer are tied: this is what makes the direct write safe. -/
structure Live (conn : TcpConnection) : Prop where
  isOpen : conn.isOpen = true
  polled : conn.channel.Polled
  reading : conn.channel.isReading = true
  output : conn.outputBuffer.Valid
  writing : conn.channel.isWriting = true ↔ 0 < conn.outputBuffer.readableBytes

/-- A connection after `handleClose`. -/
structure Closed (conn : TcpConnection) : Prop where
  disconnected : conn.state = .kDisconnected
  parked : conn.channel.Parked

/-- The bytes the kernel accepted, then those still buffered. -/
def stream (conn : TcpConnection) : List Byte := conn.socket.accepted ++ conn.outputBuffer.toString

theorem Closed.unconnected (closed : Closed conn) : conn.state ≠ .kConnected := by
  rw [closed.disconnected]
  decide

theorem isOpen_iff (conn : TcpConnection) :
    conn.isOpen = true ↔ conn.state = .kConnected ∨ conn.state = .kDisconnecting := by
  simp [isOpen]

theorem Live.not_disconnected (live : Live conn) : conn.state ≠ .kDisconnected := by
  intro disconnected
  have isOpen := live.isOpen
  simp [TcpConnection.isOpen, disconnected] at isOpen

/-- The fields `Live` does not read may change. -/
theorem Live.congr {conn other : TcpConnection} (live : Live conn)
    (state : other.state = conn.state) (channel : other.channel = conn.channel)
    (output : other.outputBuffer = conn.outputBuffer) :
    Live other where
  isOpen := by simpa [TcpConnection.isOpen, state] using live.isOpen
  polled := by simpa [channel] using live.polled
  reading := by simpa [channel] using live.reading
  output := by simpa [output] using live.output
  writing := by simpa [channel, output] using live.writing

theorem Live.setState {state : StateE} (live : Live conn)
    (isOpen : (conn.setState state).isOpen = true) :
    Live (conn.setState state) :=
  ⟨isOpen, live.polled, live.reading, live.output, live.writing⟩

theorem Live.accept (live : Live conn) (data : List Byte) : Live (conn.accept data) :=
  live.congr rfl rfl rfl

theorem Live.shutdownWrite (live : Live conn) : Live conn.shutdownWrite := live.congr rfl rfl rfl

theorem Live.shutdownInLoop (live : Live conn) : Live conn.shutdownInLoop := by
  unfold TcpConnection.shutdownInLoop
  split
  · exact live
  · exact live.shutdownWrite

theorem shutdownInLoop_state (conn : TcpConnection) : conn.shutdownInLoop.state = conn.state := by
  unfold shutdownInLoop
  split <;> rfl

theorem shutdownInLoop_stream (conn : TcpConnection) :
    conn.shutdownInLoop.stream = conn.stream := by
  unfold shutdownInLoop
  split <;> rfl

/-- The message is given up: its direct write failed with a fault error. -/
def givesUp (log : Log) (conn : TcpConnection) : WriteAnswer → Bool
  | .failed errno => conn.writesDirectly && isFaultError log errno
  | .wrote _ => false

/-- `errno` after a write to a connection that is gone. -/
def isBroken (errno : Errno) : Bool := errno == EPIPE || errno == ECONNRESET

theorem isFaultError_eq (log : Log) (errno : Errno) :
    isFaultError log errno = (isBroken errno && !log.clearsErrno) := by
  unfold isFaultError
  rcases log.errnoAfter_debug errno with kept | ⟨cleared, clears⟩
  · simp only [kept, log.errnoAfter_error]
    by_cases blocked : errno = EWOULDBLOCK
    · subst blocked
      rfl
    · cases log.clearsErrno <;> simp [blocked, isBroken, EPIPE, ECONNRESET]
  · simp only [cleared, log.errnoAfter_error, clears]
    simp [EWOULDBLOCK, EPIPE, ECONNRESET]

theorem writesDirectly_iff (conn : TcpConnection) :
    conn.writesDirectly = true ↔
      conn.channel.isWriting = false ∧ conn.outputBuffer.readableBytes = 0 := by
  simp [writesDirectly]

theorem bufferRemaining_live (live : Live conn) (remaining : List Byte) (some : remaining ≠ []) :
    ∃ next queued, conn.bufferRemaining remaining = .ok (next, queued) ∧ Live next ∧
      next.state = conn.state ∧ next.socket = conn.socket ∧
      next.outputBuffer.toString = conn.outputBuffer.toString ++ remaining ∧
      ∀ functor ∈ queued, Functor.IsNotice functor := by
  obtain ⟨outputBuffer, appended, valid, content⟩ := Buffer.append_returns live.output remaining
  have filled : 0 < outputBuffer.readableBytes := by
    rw [← Buffer.toString_length valid, content, List.length_append]
    have positive := List.length_pos_iff.mpr some
    omega
  have notices :
      ∀ functor ∈ (if conn.highWaterMark ≤ conn.outputBuffer.readableBytes + remaining.length ∧
      conn.outputBuffer.readableBytes < conn.highWaterMark ∧ conn.highWaterMarkCallback = true then
      [Functor.highWaterMark (conn.outputBuffer.readableBytes + remaining.length)] else []),
      Functor.IsNotice functor := by
    intro functor member
    split at member
    · rw [List.mem_singleton.mp member]
      trivial
    · cases member
  simp only [bufferRemaining, appended, ok_bind]
  by_cases awaiting : conn.channel.isWriting = true
  · simp only [awaiting, if_true]
    exact ⟨_, _, rfl, ⟨live.isOpen, live.polled, live.reading, valid, by simp [awaiting, filled]⟩,
      rfl, rfl, content, notices⟩
  · obtain ⟨channel, enabled, polled, events⟩ := Channel.enableWriting_polled live.polled
    simp only [awaiting, enabled, ok_bind]
    refine ⟨_, _, rfl, ⟨live.isOpen, polled, ?_, valid, ?_⟩, rfl, rfl, content, notices⟩
    · simpa [Channel.isReading, events] using live.reading
    · simp [Channel.isWriting, events, filled]

theorem writeDirect_live (log : Log) (live : Live conn) (msg : List Byte) (answer : WriteAnswer) :
    let direct := writeDirect log conn msg answer
    Live direct.conn ∧ direct.conn.state = conn.state ∧ direct.nwrote ≤ msg.length ∧
      direct.conn.outputBuffer = conn.outputBuffer ∧
      direct.conn.socket.accepted = conn.socket.accepted ++ msg.take direct.nwrote ∧
      direct.conn.socket.shutdownAt = conn.socket.shutdownAt ∧
      (0 < direct.nwrote → conn.outputBuffer.toString = []) ∧
      direct.faultError = givesUp log conn answer ∧
      (direct.faultError = true → direct.nwrote = 0) ∧
      ∀ functor ∈ direct.queued, Functor.IsNotice functor := by
  intro direct
  simp only [direct, writeDirect]
  by_cases directly : conn.writesDirectly = true
  · have drained : conn.outputBuffer.toString = [] :=
      Buffer.toString_of_empty ((writesDirectly_iff conn).mp directly).2
    rw [if_pos directly]
    cases answer with
    | wrote count =>
      refine ⟨live.accept _, rfl, Nat.min_le_right _ _, rfl, rfl, rfl, fun _ =>
        drained, rfl, by simp, ?_⟩
      intro functor member
      simp only at member
      split at member
      · rw [List.mem_singleton.mp member]
        trivial
      · cases member
    | failed errno =>
      exact ⟨live, rfl, Nat.zero_le _, rfl, by simp, rfl, fun _ => drained, by
        simp [givesUp, directly], fun _ => rfl, by simp⟩
  · rw [if_neg directly]
    refine ⟨live, rfl, Nat.zero_le _, rfl, by simp, rfl, by simp, ?_, by simp, by simp⟩
    cases answer <;> simp [givesUp, directly]

/-- A send on a live connection fails no assertion, keeps the connection live and
adds the message to the stream, unless it is given up as a whole. -/
theorem sendInLoop_live (log : Log) (live : Live conn) (msg : List Byte) (answer : WriteAnswer) :
    ∃ next queued, conn.sendInLoop log msg answer = .ok (next, queued) ∧ Live next ∧
      next.state = conn.state ∧ next.socket.shutdownAt = conn.socket.shutdownAt ∧
      next.stream = conn.stream ++ (if givesUp log conn answer then [] else msg) ∧
      ∀ functor ∈ queued, Functor.IsNotice functor := by
  obtain ⟨directLive, state, bound, output, accepted, shutdownAt, drained, fault, none, notices⟩ :=
    writeDirect_live log live msg answer
  have fits : msg.length - (writeDirect log conn msg answer).nwrote ≤ msg.length := Nat.sub_le _ _
  simp only [sendInLoop, live.not_disconnected, if_false, check_pass _ fits, ok_bind]
  generalize writeDirect log conn msg answer = direct at *
  split
  · rename_i buffered
    have some : msg.drop direct.nwrote ≠ [] := by
      intro empty
      have short := List.drop_eq_nil_iff.mp empty
      omega
    obtain ⟨next, queued, returned, nextLive, nextState, socket, content, more⟩ :=
      bufferRemaining_live directLive (msg.drop direct.nwrote) some
    refine ⟨next, direct.queued ++ queued, by simp only [returned, ok_bind]; rfl, nextLive,
      nextState.trans state, by rw [socket, shutdownAt], ?_, ?_⟩
    · have kept : givesUp log conn answer = false := fault.symm.trans buffered.1
      rw [stream, socket, content, accepted, output, stream, kept]
      rcases Nat.eq_zero_or_pos direct.nwrote with nothing | written
      · simp [nothing]
      · simp [drained written]
    · intro functor member
      rcases List.mem_append.mp member with early | late
      · exact notices functor early
      · exact more functor late
  · rename_i finished
    refine ⟨direct.conn, direct.queued, rfl, directLive, state, shutdownAt, ?_, notices⟩
    rw [stream, accepted, output, stream]
    by_cases given : givesUp log conn answer = true
    · rw [none (fault.trans given)]
      simp [given]
    · have kept : givesUp log conn answer = false := by simpa using given
      have whole : msg.length ≤ direct.nwrote := by
        have clean : direct.faultError = false := fault.trans kept
        by_contra short
        exact finished ⟨clean, by omega⟩
      rw [kept, List.take_of_length_le whole]
      rcases Nat.eq_zero_or_pos direct.nwrote with nothing | written
      · have empty : msg = [] := List.length_eq_zero_iff.mp (by omega)
        simp [empty]
      · simp [drained written]

/-- The connection after a writable event took part of the buffered bytes. -/
def drainedTo (conn : TcpConnection) (taken : Nat) (outputBuffer : Buffer) : TcpConnection :=
  { conn.accept (conn.outputBuffer.toString.take taken) with outputBuffer }

/-- The connection after a writable event took the last buffered byte. -/
def drainedOut (conn : TcpConnection) (taken : Nat) (outputBuffer : Buffer) (channel : Channel) :
    TcpConnection :=
  let next := { conn.drainedTo taken outputBuffer with channel }
  if conn.state = .kDisconnecting then next.shutdownInLoop else next

/-- All a writable event can do to a live connection. -/
theorem handleWrite_cases (live : Live conn) (answer : WriteAnswer) :
    conn.handleWrite answer = .ok (conn, []) ∨
    ∃ taken outputBuffer, conn.channel.isWriting = true ∧ outputBuffer.Valid ∧
      outputBuffer.toString = conn.outputBuffer.toString.drop taken ∧
      ((0 < outputBuffer.readableBytes ∧
          conn.handleWrite answer = .ok (conn.drainedTo taken outputBuffer, [])) ∨
        ∃ channel, outputBuffer.readableBytes = 0 ∧ channel.Polled ∧
          channel.events = { conn.channel.events with write := false } ∧
          conn.handleWrite answer = .ok (conn.drainedOut taken outputBuffer channel,
            if conn.writeCompleteCallback then [.writeComplete] else [])) := by
  unfold handleWrite
  by_cases awaiting : conn.channel.isWriting = true
  · rw [if_pos awaiting]
    cases answer with
    | failed errno => exact .inl rfl
    | wrote count =>
      simp only
      have enough : min count conn.outputBuffer.readableBytes ≤ conn.outputBuffer.readableBytes :=
        Nat.min_le_right _ _
      generalize min count conn.outputBuffer.readableBytes = taken at *
      by_cases some : 0 < taken
      · right
        obtain ⟨outputBuffer, retrieved, valid, content⟩ :=
          Buffer.retrieve_returns live.output enough
        have unread : (conn.accept (conn.outputBuffer.toString.take taken)).outputBuffer =
            conn.outputBuffer := rfl
        refine ⟨taken, outputBuffer, awaiting, valid, content, ?_⟩
        simp only [some, if_true, unread, retrieved, ok_bind]
        by_cases empty : outputBuffer.readableBytes = 0
        · right
          obtain ⟨channel, disabled, polled, events⟩ :=
            Channel.disableWriting_polled live.polled live.reading
          have unchanged : (conn.accept (conn.outputBuffer.toString.take taken)).channel =
            conn.channel := rfl
          refine ⟨channel, empty, polled, events, ?_⟩
          simp only [empty, if_true, unchanged, disabled, ok_bind]
          rfl
        · left
          refine ⟨Nat.pos_of_ne_zero empty, ?_⟩
          simp only [empty, if_false]
          rfl
      · left
        simp only [some, if_false]
        rfl
  · left
    rw [if_neg awaiting]
    rfl

private theorem drainedTo_stream {conn : TcpConnection} {outputBuffer : Buffer}
    (content : outputBuffer.toString = conn.outputBuffer.toString.drop taken) :
    (conn.drainedTo taken outputBuffer).stream = conn.stream := by
  simp [stream, drainedTo, accept, content]

theorem drainedOut_state (conn : TcpConnection) (taken : Nat) (outputBuffer : Buffer)
    (channel : Channel) :
    (conn.drainedOut taken outputBuffer channel).state = conn.state := by
  unfold drainedOut
  split
  · exact shutdownInLoop_state _
  · rfl

theorem drainedOut_live {outputBuffer : Buffer} {channel : Channel} (live : Live conn)
    (valid : outputBuffer.Valid) (empty : outputBuffer.readableBytes = 0) (polled : channel.Polled)
    (events : channel.events = { conn.channel.events with write := false }) (taken : Nat) :
    Live (conn.drainedOut taken outputBuffer channel) := by
  have nextLive : Live { conn.drainedTo taken outputBuffer with channel } :=
    ⟨live.isOpen, polled, by simpa [Channel.isReading, events] using live.reading, valid, by
      simp [Channel.isWriting, events, drainedTo, empty]⟩
  unfold drainedOut
  split
  · exact nextLive.shutdownInLoop
  · exact nextLive

theorem handleWrite_live (live : Live conn) (answer : WriteAnswer) :
    ∃ next queued, conn.handleWrite answer = .ok (next, queued) ∧ Live next ∧
      next.state = conn.state ∧ next.stream = conn.stream ∧
      ∀ functor ∈ queued, Functor.IsNotice functor := by
  rcases handleWrite_cases live answer with
    idle | ⟨taken, outputBuffer, awaiting, valid, content, rest⟩
  · exact ⟨conn, [], idle, live, rfl, rfl, by simp⟩
  · rcases rest with ⟨left, returned⟩ | ⟨channel, empty, polled, events, returned⟩
    · refine ⟨_, [], returned, ⟨live.isOpen, live.polled, live.reading, valid, ?_⟩, rfl,
        drainedTo_stream content, by simp⟩
      exact ⟨fun _ => left, fun _ => awaiting⟩
    · refine ⟨_, _, returned, drainedOut_live live valid empty polled events taken,
        drainedOut_state .., ?_, ?_⟩
      · have same := drainedTo_stream content
        unfold drainedOut
        split
        · rw [shutdownInLoop_stream]
          exact same
        · exact same
      · intro functor member
        split at member
        · rw [List.mem_singleton.mp member]
          trivial
        · cases member

theorem handleClose_closed (live : Live conn) :
    ∃ next, conn.handleClose = .ok next ∧ Closed next ∧ next.stream = conn.stream := by
  obtain ⟨channel, disabled, parked⟩ := Channel.disableAll_parked live.polled
  refine ⟨{ conn.setState .kDisconnected with channel }, ?_, ⟨rfl, parked⟩, rfl⟩
  simp only [handleClose, check_pass _ live.isOpen, ok_bind, disabled]
  rfl

section Life

variable {conn next : TcpConnection} {queued : List Functor} {log : Log} {msg remaining : List Byte}
  {answer : WriteAnswer}

/-- A connection that waits for `connectEstablished`. -/
structure Fresh (conn : TcpConnection) : Prop where
  connecting : conn.state = .kConnecting
  unregistered : conn.channel.Unregistered
  output : conn.outputBuffer.Valid
  unsent : conn.outputBuffer.readableBytes = 0

/-- A connection after `connectDestroyed`. -/
structure Gone (conn : TcpConnection) : Prop where
  disconnected : conn.state = .kDisconnected
  unregistered : conn.channel.Unregistered

theorem create_fresh (writeCompleteCallback highWaterMarkCallback : Bool) :
    Fresh (create writeCompleteCallback highWaterMarkCallback) :=
  ⟨rfl, Channel.create_unregistered, Buffer.create_valid _, by
    simp [create, Buffer.create, Buffer.readableBytes]⟩

theorem connectEstablished_live (fresh : Fresh conn) :
    ∃ next, conn.connectEstablished = .ok next ∧ Live next ∧ next.state = .kConnected := by
  obtain ⟨channel, enabled, polled, events⟩ := Channel.enableReading_unregistered fresh.unregistered
  refine ⟨{ conn.setState .kConnected with channel }, ?_, ⟨rfl, polled, ?_, fresh.output, ?_⟩, rfl⟩
  · simp only [connectEstablished, check_pass _ fresh.connecting, ok_bind, enabled]
    rfl
  · simp [Channel.isReading, events]
  · simp [Channel.isWriting, events, setState, fresh.unsent]

theorem removeChannel_gone (closed : Closed conn) :
    ∃ next, conn.removeChannel = .ok next ∧ Gone next := by
  obtain ⟨channel, removed, unregistered⟩ := Channel.remove_unregistered closed.parked
  refine ⟨{ conn with channel }, ?_, ⟨closed.disconnected, unregistered⟩⟩
  simp only [removeChannel, removed, ok_bind]
  rfl

theorem handleClose_inputBuffer (returned : conn.handleClose = .ok next) :
    next.inputBuffer = conn.inputBuffer := by
  obtain ⟨_, returned⟩ := check_bind_eq_ok.mp returned
  obtain ⟨channel, _, returned⟩ := bind_eq_ok.mp returned
  cases returned
  rfl

theorem shutdownInLoop_inputBuffer (conn : TcpConnection) :
    conn.shutdownInLoop.inputBuffer = conn.inputBuffer := by
  unfold shutdownInLoop
  split <;> rfl

theorem bufferRemaining_inputBuffer
    (returned : conn.bufferRemaining remaining = .ok (next, queued)) :
    next.inputBuffer = conn.inputBuffer := by
  obtain ⟨outputBuffer, _, returned⟩ := bind_eq_ok.mp returned
  dsimp only at returned
  split at returned
  · cases returned
    rfl
  · obtain ⟨channel, _, returned⟩ := bind_eq_ok.mp returned
    cases returned
    rfl

theorem writeDirect_inputBuffer (log : Log) (conn : TcpConnection) (msg : List Byte)
    (answer : WriteAnswer) :
    (writeDirect log conn msg answer).conn.inputBuffer = conn.inputBuffer := by
  unfold writeDirect
  split
  · cases answer <;> rfl
  · rfl

theorem sendInLoop_inputBuffer (returned : conn.sendInLoop log msg answer = .ok (next, queued)) :
    next.inputBuffer = conn.inputBuffer := by
  unfold sendInLoop at returned
  split at returned
  · cases returned
    rfl
  · obtain ⟨_, returned⟩ := check_bind_eq_ok.mp returned
    split at returned
    · obtain ⟨⟨buffered, more⟩, kept, returned⟩ := bind_eq_ok.mp returned
      cases returned
      exact (bufferRemaining_inputBuffer kept).trans (writeDirect_inputBuffer log conn msg answer)
    · cases returned
      exact writeDirect_inputBuffer log conn msg answer

theorem handleWrite_inputBuffer (live : Live conn)
    (returned : conn.handleWrite answer = .ok (next, queued)) :
    next.inputBuffer = conn.inputBuffer := by
  rcases handleWrite_cases live answer with idle | ⟨taken, outputBuffer, _, _, _, drained⟩
  · cases idle.symm.trans returned
    rfl
  · rcases drained with ⟨_, more⟩ | ⟨channel, _, _, _, last⟩
    · cases more.symm.trans returned
      rfl
    · cases last.symm.trans returned
      unfold drainedOut
      split
      · exact shutdownInLoop_inputBuffer _
      · rfl

theorem receive_returns (conn : TcpConnection) (data : List Byte) :
    ∃ inputBuffer, conn.receive data = .ok { conn with inputBuffer } := by
  have read := Buffer.readFd_delivered conn.inputBuffer 0 data
  exact ⟨_, by rw [receive, read]; rfl⟩

theorem handleWrite_silent (silent : conn.channel.events = .kNoneEvent) (answer : WriteAnswer) :
    conn.handleWrite answer = .ok (conn, []) := by
  have idle : conn.channel.isWriting = false := by
    rw [Channel.isWriting, silent]
    rfl
  simp only [handleWrite, idle]
  rfl

/-- A connection that is not open takes no message and no order to close. -/
theorem not_open_idle (idle : conn.isOpen = false) (log : Log) (msg : List Byte)
    (answer : WriteAnswer) :
    conn.sendString log msg answer = .ok (conn, []) ∧ conn.shutdown = conn ∧
      conn.forceClose = (conn, []) := by
  have unconnected : conn.state ≠ .kConnected := by
    intro connected
    rw [isOpen, connected] at idle
    cases idle
  refine ⟨?_, ?_, ?_⟩
  · rw [sendString, if_neg unconnected]
  · rw [shutdown, if_neg unconnected]
  · rw [forceClose, if_neg (by simp [idle])]

end Life

end TcpConnection

end FakeMuduo.Net
