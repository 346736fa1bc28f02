import FakeMuduo.Net.BufferRead
import FakeMuduo.Net.GracefulShutdown

/-! A connection whose message callback answers with `send` and `shutdown()`, and
what becomes of its answers. -/

namespace FakeMuduo.Net.Conversation

open FakeMuduo.Base FakeMuduo.Util

/-- A call that a message callback makes on its connection. -/
inductive Call where
  | send (msg : List Byte)
  | shutdown
  deriving DecidableEq, Repr

/-- A message callback with a state of its own. It finds the input buffer, whether the connection
is connected and the time of the read, and leaves the buffer and the calls it makes. -/
abbrev MessageCallback (σ : Type) := σ → Buffer → Bool → Int → Checked (σ × Buffer × List Call)

/-- `heard` are the reads the callback was called for, with their times. -/
structure World (σ : Type) where
  conn : TcpConnection
  user : σ
  calls : List Call
  heard : List (List Byte × Int)

/-- `writeAnswers` are the kernel's answers to the direct writes of the calls. -/
inductive Step where
  | handleRead (answer : ReadvAnswer) (receiveTime : Int) (writeAnswers : List WriteAnswer)
  | handleWrite (answer : WriteAnswer)
  deriving DecidableEq, Repr

def Call.perform (log : Log) (conn : TcpConnection) (answer : WriteAnswer) :
    Call → Checked TcpConnection
  | send msg => do
    let (next, _) ← conn.sendString log msg answer
    return next
  | shutdown => .ok conn.shutdown

/-- The calls one after another. -/
def performCalls (log : Log) (conn : TcpConnection) :
    List Call → List WriteAnswer → Checked TcpConnection
  | [], _ => .ok conn
  | call :: calls, answers => do
    let next ← call.perform log conn (answers.headD (.wrote 0))
    performCalls log next calls answers.tail

section Machine

variable {σ : Type}

def World.initial (writeCompleteCallback highWaterMarkCallback : Bool) (user : σ) : World σ :=
  ⟨.established writeCompleteCallback highWaterMarkCallback, user, [], []⟩

/-- The kernel reports the events that the channel asks for. The message callback looks at the
connection only to ask whether it is connected, so that its calls are made when it has returned. -/
def perform (log : Log) (callback : MessageCallback σ) (world : World σ) : Step → Checked (World σ)
  | .handleRead answer receiveTime writeAnswers =>
    if world.conn.watchedForReading then do
      let (n, _, inputBuffer) ← world.conn.inputBuffer.readFd 0 answer
      let conn := { world.conn with inputBuffer }
      if 0 < n then
        let (user, inputBuffer, calls) ← callback world.user inputBuffer
          conn.isConnected receiveTime
        let conn ← performCalls log { conn with inputBuffer } calls writeAnswers
        let data := match answer with
          | .delivered data => data
          | .failed _ => []
        return ⟨conn, user, world.calls ++ calls, world.heard ++ [(data, receiveTime)]⟩
      else if n = 0 then do
        let conn ← conn.handleClose
        return { world with conn }
      else return { world with conn }
    else .error .disabled
  | .handleWrite answer => do
    let (conn, _) ← world.conn.handleWrite answer
    return { world with conn }

/-- The direct write is not given up. -/
def goesOn (log : Log) : WriteAnswer → Bool
  | .wrote _ => true
  | .failed errno => !TcpConnection.isFaultError log errno

/-- A read is no longer than what is writable, and no direct write finds the connection broken. -/
def unbroken (log : Log) (world : World σ) : Step → Bool
  | .handleRead answer _ writeAnswers =>
    decide (answer.length ≤ world.conn.inputBuffer.writableBytes) && writeAnswers.all (goesOn log)
  | .handleWrite _ => true

def machine (log : Log) (callback : MessageCallback σ) : Machine (World σ) Step :=
  (Machine.ofFunction (perform log callback)).restrict fun world step =>
    unbroken log world step = true

end Machine

/-- The messages sent before the first `shutdown()`. -/
def spoken : List Call → List (List Byte)
  | [] => []
  | .send msg :: calls => msg :: spoken calls
  | .shutdown :: _ => []

theorem spoken_append_of_mem {calls : List Call} (shut : .shutdown ∈ calls) (more : List Call) :
    spoken (calls ++ more) = spoken calls := by
  induction calls with
  | nil => cases shut
  | cons call calls ih =>
    cases call with
    | send msg =>
      have later : .shutdown ∈ calls := by simpa using shut
      rw [List.cons_append, spoken, spoken, ih later]
    | shutdown => rfl

theorem spoken_append {calls : List Call} (unshut : .shutdown ∉ calls) (more : List Call) :
    spoken (calls ++ more) = spoken calls ++ spoken more := by
  induction calls with
  | nil => rfl
  | cons call calls ih =>
    cases call with
    | send msg =>
      have later : .shutdown ∉ calls := fun shut => unshut (List.mem_cons_of_mem _ shut)
      rw [List.cons_append, spoken, spoken, ih later, List.cons_append]
    | shutdown => exact absurd List.mem_cons_self unshut

/-- What the kernel has and will get is what was said, and it is cut off only at its end. -/
structure Speaks (conn : TcpConnection) (calls : List Call) : Prop where
  stream : conn.stream = (spoken calls).flatten
  shut : CrossThread.ShutClean conn
  asked : conn.socket.shutdownAt ≠ none → .shutdown ∈ calls

structure Talking (conn : TcpConnection) (calls : List Call) : Prop extends Speaks conn calls where
  live : conn.Live
  connected : conn.state = .kConnected ↔ .shutdown ∉ calls
  requested : .shutdown ∈ calls → conn.channel.isWriting = true ∨ conn.socket.shutdownAt ≠ none

section Calls

variable {log : Log} {conn next : TcpConnection} {calls : List Call}

theorem Talking.disconnecting (talking : Talking conn calls) (shut : .shutdown ∈ calls) :
    conn.state = .kDisconnecting := by
  rcases (TcpConnection.isOpen_iff _).mp talking.live.isOpen with connected | disconnecting
  · exact absurd shut (talking.connected.mp connected)
  · exact disconnecting

theorem Talking.input (talking : Talking conn calls) (inputBuffer : Buffer) :
    Talking { conn with inputBuffer } calls :=
  ⟨⟨talking.stream, talking.shut, talking.asked⟩, talking.live.congr rfl rfl rfl,
    talking.connected, talking.requested⟩

theorem Talking.send (talking : Talking conn calls) (msg : List Byte) {answer : WriteAnswer}
    (clean : goesOn log answer = true) :
    ∃ next, (Call.send msg).perform log conn answer = .ok next ∧
      Talking next (calls ++ [.send msg]) := by
  by_cases shut : .shutdown ∈ calls
  · have late : conn.state ≠ .kConnected := fun connected => talking.connected.mp connected shut
    refine ⟨conn, ?_, ⟨⟨?_, talking.shut, fun some => List.mem_append_left _ (talking.asked some)⟩,
      talking.live, ?_, ?_⟩⟩
    · rw [Call.perform, TcpConnection.sendString, if_neg late]
      rfl
    · rw [spoken_append_of_mem shut]
      exact talking.stream
    · exact iff_of_false late fun absent => absent (List.mem_append_left _ shut)
    · exact fun _ => talking.requested shut
  · have connected := talking.connected.mpr shut
    have keeps : TcpConnection.givesUp log conn answer = false := by
      cases answer with
      | wrote count => rfl
      | failed errno =>
        have harmless : TcpConnection.isFaultError log errno = false := by
          simpa [goesOn] using clean
        rw [TcpConnection.givesUp, harmless, Bool.and_false]
    obtain ⟨next, queued, returned, live, state, shutdownAt, content, _⟩ :=
      TcpConnection.sendInLoop_live log talking.live msg answer
    have unshut : conn.socket.shutdownAt = none := by
      by_contra some
      exact shut (talking.asked some)
    have still : next.socket.shutdownAt = none := shutdownAt.trans unshut
    have fresh : Call.shutdown ∉ calls ++ [.send msg] := by simpa using shut
    refine ⟨next, ?_, ⟨⟨?_, ?_, fun some => absurd still some⟩, live, ?_, fun asked =>
      absurd asked fresh⟩⟩
    · rw [Call.perform, TcpConnection.sendString, if_pos connected, returned]
      rfl
    · rw [content, keeps, talking.stream, spoken_append shut, List.flatten_append]
      simp [spoken]
    · intro count found
      cases still.symm.trans found
    · exact iff_of_true (state.trans connected) fresh

theorem Talking.shutdown (talking : Talking conn calls) :
    Talking conn.shutdown (calls ++ [.shutdown]) := by
  have asked : Call.shutdown ∈ calls ++ [.shutdown] := List.mem_append_right _ List.mem_cons_self
  by_cases shut : .shutdown ∈ calls
  · have late : conn.state ≠ .kConnected := fun connected => talking.connected.mp connected shut
    rw [TcpConnection.shutdown, if_neg late]
    refine ⟨⟨?_, talking.shut, fun _ => asked⟩, talking.live,
      iff_of_false late fun absent => absent asked, fun _ => talking.requested shut⟩
    rw [spoken_append_of_mem shut]
    exact talking.stream
  · have connected := talking.connected.mpr shut
    rw [TcpConnection.shutdown, if_pos connected]
    have live : (conn.setState .kDisconnecting).Live := talking.live.setState rfl
    have state := TcpConnection.shutdownInLoop_state (conn.setState .kDisconnecting)
    refine ⟨⟨?_, CrossThread.shutdownInLoop_shut live talking.shut, fun _ => asked⟩,
      live.shutdownInLoop, ?_, fun _ => CrossThread.shutdownInLoop_done _⟩
    · rw [TcpConnection.shutdownInLoop_stream, spoken_append shut, spoken, List.append_nil]
      exact talking.stream
    · refine iff_of_false ?_ fun absent => absent asked
      rw [state]
      intro connected
      cases connected

theorem Talking.performCalls (talking : Talking conn calls) (more : List Call)
    {answers : List WriteAnswer} (clean : answers.all (goesOn log) = true) :
    ∃ next, performCalls log conn more answers = .ok next ∧ Talking next (calls ++ more) := by
  induction more generalizing conn calls answers with
  | nil => exact ⟨conn, rfl, by rw [List.append_nil]; exact talking⟩
  | cons call more ih =>
    obtain ⟨next, performed, after⟩ :
      ∃ next, call.perform log conn (answers.headD (.wrote 0)) = .ok next ∧
        Talking next (calls ++ [call]) := by
      cases call with
      | send msg =>
        refine talking.send msg ?_
        cases answers with
        | nil => rfl
        | cons answer answers => exact (Bool.and_eq_true_iff.mp clean).1
      | shutdown => exact ⟨conn.shutdown, rfl, talking.shutdown⟩
    have later : answers.tail.all (goesOn log) = true := by
      cases answers with
      | nil => rfl
      | cons answer answers => exact (Bool.and_eq_true_iff.mp clean).2
    obtain ⟨final, rest, spoke⟩ := ih after later
    refine ⟨final, ?_, ?_⟩
    · rw [Conversation.performCalls, performed]
      exact rest
    · rwa [List.append_assoc] at spoke

theorem Talking.handleWrite (talking : Talking conn calls) (answer : WriteAnswer) :
    ∃ next queued, conn.handleWrite answer = .ok (next, queued) ∧ Talking next calls := by
  obtain ⟨next, queued, returned, live, state, content, _⟩ :=
    TcpConnection.handleWrite_live talking.live answer
  obtain ⟨shut, open', done⟩ := CrossThread.handleWrite_shut talking.live talking.shut returned
  refine ⟨next, queued, returned, ⟨content.trans talking.stream, shut, ?_⟩, live, ?_, ?_⟩
  · intro some
    by_contra absent
    have connected := talking.connected.mpr absent
    rw [open' (by rw [connected]; decide)] at some
    exact absent (talking.asked some)
  · rw [state]
    exact talking.connected
  · intro asked
    rcases done (talking.disconnecting asked) with same | finished
    · rw [same]
      exact talking.requested asked
    · exact finished

end Calls

/-- The connection is open and the callback may be called, or it was closed. -/
def Conversing (conn : TcpConnection) (calls : List Call) : Prop :=
  Talking conn calls ∨ conn.Closed ∧ Speaks conn calls

section Run

variable {σ : Type} {log : Log} {callback : MessageCallback σ} {world after : World σ} {step : Step}

theorem initial_talking (writeCompleteCallback highWaterMarkCallback : Bool) :
    Talking (.established writeCompleteCallback highWaterMarkCallback) [] :=
  ⟨⟨rfl, nofun, nofun⟩, TcpConnection.established_live _ _, iff_of_true rfl nofun, nofun⟩

theorem Conversing.speaks {conn : TcpConnection} {calls : List Call}
    (conversing : Conversing conn calls) :
    Speaks conn calls := by
  rcases conversing with talking | ⟨_, speaks⟩
  · exact talking.toSpeaks
  · exact speaks

/-- What a step is: a read that calls back, or one that does not. -/
inductive Effect (log : Log) (callback : MessageCallback σ) (world : World σ) : World σ → Prop where
  | message {conn : TcpConnection} {data : List Byte} {receiveTime : Int}
      {filled inputBuffer : Buffer} {user : σ}
      {calls : List Call} (talking : Talking world.conn world.calls) (some : data ≠ [])
      (fits : data.length ≤ world.conn.inputBuffer.writableBytes)
      (read : world.conn.inputBuffer.readFd 0 (.delivered data) = .ok (data.length, 0, filled))
      (called : callback world.user filled (decide (.shutdown ∉ world.calls)) receiveTime =
        .ok (user, inputBuffer, calls))
      (kept : conn.inputBuffer = inputBuffer) (spoke : Talking conn (world.calls ++ calls)) :
      Effect log callback world ⟨conn, user, world.calls ++ calls,
        world.heard ++ [(data, receiveTime)]⟩
  | quiet {conn : TcpConnection} (kept : conn.inputBuffer = world.conn.inputBuffer)
      (conversing : Conversing conn world.calls) : Effect log callback world { world with conn }

theorem performCalls_inputBuffer {conn next : TcpConnection} {calls : List Call}
    {answers : List WriteAnswer} (performed : performCalls log conn calls answers = .ok next) :
    next.inputBuffer = conn.inputBuffer := by
  induction calls generalizing conn answers with
  | nil =>
    cases performed
    rfl
  | cons call calls ih =>
    obtain ⟨middle, first, rest⟩ := bind_eq_ok.mp performed
    rw [ih rest]
    cases call with
    | send msg =>
      obtain ⟨⟨sent, queued⟩, returned, same⟩ := bind_eq_ok.mp first
      cases same
      unfold TcpConnection.sendString at returned
      split at returned
      · exact TcpConnection.sendInLoop_inputBuffer returned
      · cases returned
        rfl
    | shutdown =>
      cases first
      unfold TcpConnection.shutdown
      split
      · exact TcpConnection.shutdownInLoop_inputBuffer _
      · rfl

theorem Talking.isConnected {conn : TcpConnection} {calls : List Call}
    (talking : Talking conn calls) :
    conn.isConnected = decide (.shutdown ∉ calls) := by
  rw [Bool.eq_iff_iff, TcpConnection.isConnected, beq_iff_eq, decide_eq_true_iff]
  exact talking.connected

theorem closed_handleWrite {conn : TcpConnection} (closed : conn.Closed) (answer : WriteAnswer) :
    conn.handleWrite answer = .ok (conn, []) :=
  TcpConnection.handleWrite_silent closed.parked.silent answer

theorem Talking.close {conn next : TcpConnection} {calls : List Call} (talking : Talking conn calls)
    (returned : conn.handleClose = .ok next) : next.Closed ∧ Speaks next calls := by
  obtain ⟨same, again, closed, content⟩ := TcpConnection.handleClose_closed talking.live
  cases again.symm.trans returned
  obtain ⟨_, returned⟩ := check_bind_eq_ok.mp returned
  obtain ⟨channel, _, returned⟩ := bind_eq_ok.mp returned
  cases returned
  exact ⟨closed, content.trans talking.stream, talking.shut, talking.asked⟩

theorem Conversing.effect (conversing : Conversing world.conn world.calls)
    (allowed : unbroken log world step = true)
    (performed : perform log callback world step = .ok after) :
    Effect log callback world after := by
  cases step with
  | handleRead answer receiveTime writeAnswers =>
    simp only [perform] at performed
    split at performed
    case isFalse => cases performed
    case isTrue watched =>
    obtain ⟨fits, clean⟩ := Bool.and_eq_true_iff.mp allowed
    have talking : Talking world.conn world.calls := by
      rcases conversing with talking | ⟨closed, _⟩
      · exact talking
      · simp [TcpConnection.watchedForReading, closed.parked.unwatched] at watched
    obtain ⟨⟨n, errno, filled⟩, read, performed⟩ := bind_eq_ok.mp performed
    dsimp only at performed
    cases answer with
    | failed failure =>
      cases read
      rw [if_neg (by decide), if_neg (by decide)] at performed
      cases performed
      exact .quiet rfl (.inl (talking.input _))
    | delivered data =>
      have length : n = data.length ∧ errno = 0 := by
        rw [Buffer.readFd_delivered] at read
        cases read
        exact ⟨rfl, rfl⟩
      obtain ⟨rfl, rfl⟩ := length
      split at performed
      case isTrue some =>
        obtain ⟨⟨user, inputBuffer, calls⟩, called, performed⟩ := bind_eq_ok.mp performed
        obtain ⟨conn, spoke, performed⟩ := bind_eq_ok.mp performed
        cases performed
        obtain ⟨same, again, spoken⟩ := (talking.input inputBuffer).performCalls calls clean
        cases again.symm.trans spoke
        rw [(talking.input filled).isConnected] at called
        refine .message talking ?_ (of_decide_eq_true fits) read called
          (performCalls_inputBuffer spoke) spoken
        rintro rfl
        cases some
      case isFalse none =>
        have empty : data = [] := List.length_eq_zero_iff.mp (by omega)
        subst empty
        rw [if_pos (show (([] : List Byte).length : Int) = 0 from rfl)] at performed
        obtain ⟨conn, closing, performed⟩ := bind_eq_ok.mp performed
        cases performed
        have same : filled = world.conn.inputBuffer := by
          rw [Buffer.readFd_delivered] at read
          cases read
          simp [Buffer.fill, store]
        refine .quiet ?_ (.inr ((talking.input filled).close closing))
        rw [TcpConnection.handleClose_inputBuffer closing, same]
  | handleWrite answer =>
    obtain ⟨⟨conn, queued⟩, wrote, performed⟩ := bind_eq_ok.mp performed
    cases performed
    rcases conversing with talking | ⟨closed, speaks⟩
    · obtain ⟨next, queued, returned, writes⟩ := talking.handleWrite answer
      cases returned.symm.trans wrote
      exact .quiet (TcpConnection.handleWrite_inputBuffer talking.live wrote) (.inl writes)
    · cases (closed_handleWrite closed answer).symm.trans wrote
      exact .quiet rfl (.inr ⟨closed, speaks⟩)

/-- A step fails only where the callback does. -/
theorem Conversing.returns (conversing : Conversing world.conn world.calls)
    (allowed : unbroken log world step = true)
    (answers : ∀ {data filled} connected receiveTime, data.length ≤
      world.conn.inputBuffer.writableBytes →
      world.conn.inputBuffer.readFd 0 (.delivered data) = .ok (data.length, 0, filled) →
      ∃ answer, callback world.user filled connected receiveTime = .ok answer) :
    (∃ after, perform log callback world step = .ok after) ∨
      perform log callback world step = .error .disabled := by
  cases step with
  | handleRead answer receiveTime writeAnswers =>
    simp only [perform]
    split
    case isFalse => exact .inr rfl
    case isTrue watched =>
    have talking : Talking world.conn world.calls := by
      rcases conversing with talking | ⟨closed, _⟩
      · exact talking
      · simp [TcpConnection.watchedForReading, closed.parked.unwatched] at watched
    cases answer with
    | failed failure => exact .inl ⟨_, rfl⟩
    | delivered data =>
      rw [Buffer.readFd_delivered, ok_bind]
      dsimp only
      split
      · obtain ⟨fits, clean⟩ := Bool.and_eq_true_iff.mp allowed
        obtain ⟨⟨user, inputBuffer, calls⟩, called⟩ :=
          answers _ receiveTime (of_decide_eq_true fits) (Buffer.readFd_delivered _ _ _)
        obtain ⟨next, performed, _⟩ := (talking.input inputBuffer).performCalls calls clean
        exact .inl ⟨_, bind_eq_ok.mpr ⟨_, called, bind_eq_ok.mpr ⟨next, performed, rfl⟩⟩⟩
      · split
        · obtain ⟨next, closed, _⟩ := TcpConnection.handleClose_closed (talking.input _).live
          exact .inl ⟨_, bind_eq_ok.mpr ⟨next, closed, rfl⟩⟩
        · exact .inl ⟨_, rfl⟩
  | handleWrite answer =>
    rcases conversing with talking | ⟨closed, _⟩
    · obtain ⟨next, queued, returned, _⟩ := talking.handleWrite answer
      exact .inl ⟨_, bind_eq_ok.mpr ⟨_, returned, rfl⟩⟩
    · exact .inl ⟨_, bind_eq_ok.mpr ⟨_, closed_handleWrite closed answer, rfl⟩⟩

theorem Effect.conversing (effect : Effect log callback world after) :
    Conversing after.conn after.calls := by
  cases effect with
  | message _ _ _ _ _ _ spoke => exact .inl spoke
  | quiet _ conversing => exact conversing

/-- What holds of the callback's state, the input buffer, the calls and the reads so far: it must
hold at first, and after each call of the callback. -/
theorem Run.told {writeCompleteCallback highWaterMarkCallback : Bool} {user : σ} {steps : List Step}
    (Holds : σ → Buffer → List Call → List (List Byte × Int) → Prop)
    (initial : Holds user (.create Buffer.kInitialSize) [] [])
    (kept : ∀ {user inputBuffer calls heard data receiveTime filled next left more},
      Holds user inputBuffer calls heard → data ≠ [] → data.length ≤ inputBuffer.writableBytes →
      inputBuffer.readFd 0 (.delivered data) = .ok (data.length, 0, filled) →
      callback user filled (decide (.shutdown ∉ calls)) receiveTime = .ok (next, left, more) →
      Holds next left (calls ++ more) (heard ++ [(data, receiveTime)]))
    (run : (machine log callback).Run
      (.initial writeCompleteCallback highWaterMarkCallback user) steps world) :
    Conversing world.conn world.calls ∧
      Holds world.user world.conn.inputBuffer world.calls world.heard := by
  refine run.invariant (fun _ world => Conversing world.conn world.calls ∧
    Holds world.user world.conn.inputBuffer world.calls world.heard)
      ⟨.inl (initial_talking _ _), initial⟩ ?_
  rintro _ current step after ⟨conversing, holds⟩ ⟨allowed, performed⟩
  have effect := conversing.effect allowed performed
  refine ⟨effect.conversing, ?_⟩
  cases effect with
  | message talking some fits read called left spoke =>
    rw [left]
    exact kept holds some fits read called
  | quiet left conversing =>
    rw [left]
    exact holds

/-- What is said in answer to what was heard. -/
structure Answers (conn : TcpConnection) (said : List Byte) (closes : Prop) : Prop where
  stream : conn.socket.accepted ++ conn.outputBuffer.toString = said
  shut : ∀ count, conn.socket.shutdownAt = some count → closes ∧ conn.socket.accepted = said ∧
    count = said.length
  done : conn.isOpen = true → closes → conn.outputBuffer.readableBytes = 0 →
    conn.socket.shutdownAt = some said.length

theorem Conversing.answers {conn : TcpConnection} {calls : List Call}
    (conversing : Conversing conn calls) :
    Answers conn (spoken calls).flatten (.shutdown ∈ calls) := by
  have speaks := conversing.speaks
  have whole : conn.outputBuffer.readableBytes = 0 →
      conn.socket.accepted = (spoken calls).flatten := by
    intro empty
    rw [← speaks.stream, TcpConnection.stream, Buffer.toString_of_empty empty, List.append_nil]
  refine ⟨speaks.stream, ?_, ?_⟩
  · intro count found
    obtain ⟨length, empty⟩ := speaks.shut count found
    refine ⟨speaks.asked (Option.ne_none_iff_exists'.mpr ⟨count, found⟩), whole empty, ?_⟩
    rw [← whole empty]
    exact length
  · intro isOpen asked empty
    rcases conversing with talking | ⟨closed, _⟩
    · rcases talking.requested asked with writing | shut
      · exact absurd (talking.live.writing.mp writing) (by omega)
      · obtain ⟨count, found⟩ := Option.ne_none_iff_exists'.mp shut
        obtain ⟨length, _⟩ := speaks.shut count found
        rw [found, length, whole empty]
    · rw [TcpConnection.isOpen_iff, closed.disconnected] at isOpen
      simp at isOpen

end Run

section Echo

/-- `EchoServer::onMessage`: `send(Buffer *)` takes the bytes out of the input buffer when the
connection is connected. -/
def echo : MessageCallback Unit := fun _ inputBuffer connected _ =>
  .ok ((), if connected then inputBuffer.retrieveAll else inputBuffer, [.send inputBuffer.toString])

variable {log : Log} {world : World Unit} {steps : List Step}

/-- Whatever the sizes of reads and writes, an echo server sends back what it read, never shuts
the connection down and fails no assertion. -/
theorem echoes {writeCompleteCallback highWaterMarkCallback : Bool}
    (run : (machine log echo).Run
      (.initial writeCompleteCallback highWaterMarkCallback ()) steps world) :
    world.conn.socket.accepted ++ world.conn.outputBuffer.toString =
      (world.heard.map Prod.fst).flatten ∧
      world.conn.socket.shutdownAt = none ∧ world.conn.inputBuffer.toString = [] ∧
      ∀ step fault, unbroken log world step = true → perform log echo world step = .error fault →
        fault = .disabled := by
  obtain ⟨conversing, valid, content, unshut, said⟩ := Run.told
    (fun _ inputBuffer calls heard => inputBuffer.Valid ∧ inputBuffer.toString = [] ∧
      .shutdown ∉ calls ∧
      (spoken calls).flatten = (heard.map Prod.fst).flatten)
        ⟨Buffer.create_valid _, Buffer.create_toString _, nofun, rfl⟩
    (by
      rintro _ inputBuffer calls heard data receiveTime filled _ left more
        ⟨valid, empty, unshut, said⟩ _ fits read called
      obtain ⟨after, returned, afterValid, content⟩ := Buffer.readFd_fits valid 0 fits
      cases returned.symm.trans read
      rw [echo, if_pos (decide_eq_true unshut)] at called
      cases called
      rw [empty, List.nil_append] at content
      refine ⟨Buffer.retrieveAll_valid afterValid, Buffer.retrieveAll_toString _, by
        simpa using unshut, ?_⟩
      rw [spoken_append unshut, List.flatten_append, said, content]
      simp [spoken]) run
  have answers := conversing.answers
  refine ⟨answers.stream.trans said, ?_, content, ?_⟩
  · by_contra some
    obtain ⟨count, found⟩ := Option.ne_none_iff_exists'.mp some
    exact unshut (answers.shut count found).1
  · intro step fault allowed failed
    rcases @Conversing.returns _ _ echo _ _ conversing allowed (fun _ _ _ _ => ⟨_, rfl⟩) with
      ⟨after, returned⟩ | disabled
    · cases returned.symm.trans failed
    · cases disabled.symm.trans failed
      rfl

/-- Two reads, of which the kernel takes the echo in three pieces. -/
def twoReads : List Step :=
  [.handleRead (.delivered [104, 105]) 1 [.wrote 1], .handleRead (.delivered [33]) 2 [.wrote 9],
    .handleWrite (.wrote 1), .handleWrite (.failed EWOULDBLOCK),
    .handleRead (.failed EWOULDBLOCK) 3 [], .handleWrite (.wrote 7),
    .handleRead (.delivered []) 4 []]

theorem echoes_twoReads :
    ∃ world, (machine ⟨.kINFO, none⟩ echo).Run (.initial false false ()) twoReads world ∧
      world.conn.outputBuffer.toString = [] ∧ (world.heard.map Prod.fst).flatten = [104, 105, 33] ∧
      world.conn.socket.accepted ++ world.conn.outputBuffer.toString =
        (world.heard.map Prod.fst).flatten := by
  have followed : (Machine.follow (perform ⟨.kINFO, none⟩ echo) (unbroken ⟨.kINFO, none⟩)
      (.initial false false ()) twoReads).any (fun world =>
        decide (world.conn.outputBuffer.toString = [] ∧
        (world.heard.map Prod.fst).flatten = [104, 105, 33])) = true := by
    decide +kernel
  obtain ⟨world, run, final⟩ := Machine.Run.ofFollowAny (machine ⟨.kINFO, none⟩ echo)
    (fun allowed performed => ⟨allowed, performed⟩) followed
  obtain ⟨empty, heard⟩ := of_decide_eq_true final
  exact ⟨world, run, empty, heard, (echoes run).1⟩

end Echo

end FakeMuduo.Net.Conversation
