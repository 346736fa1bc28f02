import FakeMuduo.Base.Repetition
import FakeMuduo.Net.Conversation

/-! The two example programs together: the echo client sends back, after a while, what the echo
server sends back to it. -/

namespace FakeMuduo.Net

open FakeMuduo.Base FakeMuduo.Util

namespace TcpConnection

variable {log : Log} {conn next : TcpConnection} {msg : List Byte} {answer : WriteAnswer}
  {queued : List Functor}

theorem bufferRemaining_accepted (returned : conn.bufferRemaining msg = .ok (next, queued)) :
    next.socket.accepted = conn.socket.accepted := by
  simp only [bufferRemaining] at returned
  obtain ⟨outputBuffer, _, returned⟩ := bind_eq_ok.mp returned
  split at returned
  · cases returned
    rfl
  · obtain ⟨channel, _, returned⟩ := bind_eq_ok.mp returned
    cases returned
    rfl

/-- The kernel never gives back what it took. -/
theorem sendInLoop_accepted (returned : conn.sendInLoop log msg answer = .ok (next, queued)) :
    conn.socket.accepted <+: next.socket.accepted := by
  have direct : conn.socket.accepted <+:
      (writeDirect log conn msg answer).conn.socket.accepted := by
    unfold writeDirect
    split
    · split
      · exact List.prefix_append _ _
      · exact List.prefix_rfl
    · exact List.prefix_rfl
  unfold sendInLoop at returned
  split at returned
  · cases returned
    exact List.prefix_rfl
  · obtain ⟨_, returned⟩ := check_bind_eq_ok.mp returned
    split at returned
    · obtain ⟨⟨buffered, more⟩, kept, returned⟩ := bind_eq_ok.mp returned
      cases returned
      rw [bufferRemaining_accepted kept]
      exact direct
    · cases returned
      exact direct

theorem shutdownInLoop_accepted (conn : TcpConnection) :
    conn.shutdownInLoop.socket.accepted = conn.socket.accepted := by
  unfold shutdownInLoop
  split <;> rfl

theorem handleWrite_accepted (returned : conn.handleWrite answer = .ok (next, queued)) :
    conn.socket.accepted <+: next.socket.accepted := by
  unfold handleWrite at returned
  split at returned
  · split at returned
    · cases returned
      exact List.prefix_rfl
    · dsimp only at returned
      split at returned
      · obtain ⟨outputBuffer, _, returned⟩ := bind_eq_ok.mp returned
        split at returned
        · obtain ⟨channel, _, returned⟩ := bind_eq_ok.mp returned
          cases returned
          split
          · rw [shutdownInLoop_accepted]
            exact List.prefix_append _ _
          · exact List.prefix_append _ _
        · cases returned
          exact List.prefix_append _ _
      · cases returned
        exact List.prefix_rfl
  · cases returned
    exact List.prefix_rfl

end TcpConnection

namespace Conversation

variable {σ : Type} {log : Log} {callback : MessageCallback σ} {world after : World σ}

theorem Call.perform_accepted {call : Call} {conn next : TcpConnection} {answer : WriteAnswer}
    (performed : call.perform log conn answer = .ok next) :
    conn.socket.accepted <+: next.socket.accepted := by
  cases call with
  | send msg =>
    obtain ⟨⟨sent, queued⟩, returned, same⟩ := bind_eq_ok.mp performed
    cases same
    unfold TcpConnection.sendString at returned
    split at returned
    · exact TcpConnection.sendInLoop_accepted returned
    · cases returned
      exact List.prefix_rfl
  | shutdown =>
    cases performed
    unfold TcpConnection.shutdown
    split
    · rw [TcpConnection.shutdownInLoop_accepted]
      exact List.prefix_rfl
    · exact List.prefix_rfl

theorem performCalls_accepted {calls : List Call} {conn next : TcpConnection}
    {answers : List WriteAnswer} (performed : performCalls log conn calls answers = .ok next) :
    conn.socket.accepted <+: next.socket.accepted := by
  induction calls generalizing conn answers with
  | nil =>
    cases performed
    exact List.prefix_rfl
  | cons call calls ih =>
    obtain ⟨middle, first, rest⟩ := bind_eq_ok.mp performed
    exact (Call.perform_accepted first).trans (ih rest)

/-- The bytes of the reads. -/
def World.heardBytes (world : World σ) : List Byte := (world.heard.map Prod.fst).flatten

/-- A party that is not asked to shut down and takes all it reads out of its input buffer. -/
structure Attends (world : World σ) : Prop where
  talking : Talking world.conn world.calls
  unshut : .shutdown ∉ world.calls
  valid : world.conn.inputBuffer.Valid
  empty : world.conn.inputBuffer.toString = []

theorem Attends.reads (attends : Attends world) {data : List Byte} {time : Int}
    {answers : List WriteAnswer} (some : data ≠ [])
    (allowed : unbroken log world (.handleRead (.delivered data) time answers) = true)
    (performed : perform log callback world (.handleRead (.delivered data) time answers) =
      .ok after) :
    ∃ filled calls, filled.Valid ∧ filled.toString = data ∧
      callback world.user filled true time = .ok (after.user, after.conn.inputBuffer, calls) ∧
      Talking after.conn after.calls ∧ after.calls = world.calls ++ calls ∧
      after.heard = world.heard ++ [(data, time)] ∧
        world.conn.socket.accepted <+: after.conn.socket.accepted := by
  obtain ⟨fits, clean⟩ := Bool.and_eq_true_iff.mp allowed
  simp only [perform] at performed
  split at performed
  case isFalse => cases performed
  case isTrue =>
    obtain ⟨filled, read, valid, content⟩ :=
      Buffer.readFd_fits attends.valid 0 (of_decide_eq_true fits)
    rw [attends.empty, List.nil_append] at content
    have positive : (0 : Int) < data.length := Int.natCast_pos.mpr (List.length_pos_iff.mpr some)
    have talking := attends.talking.input filled
    rw [read, ok_bind] at performed
    dsimp only at performed
    rw [if_pos positive, talking.isConnected, decide_eq_true attends.unshut] at performed
    obtain ⟨⟨user, inputBuffer, calls⟩, called, performed⟩ := bind_eq_ok.mp performed
    obtain ⟨conn, spoke, performed⟩ := bind_eq_ok.mp performed
    cases performed
    obtain ⟨same, again, spoken⟩ := (attends.talking.input inputBuffer).performCalls calls clean
    cases again.symm.trans spoke
    have grown := performCalls_accepted spoke
    refine ⟨filled, calls, valid, content, ?_, spoken, rfl, rfl, grown⟩
    rw [called, performCalls_inputBuffer spoke]

theorem spoken_send {calls : List Call} (unshut : .shutdown ∉ calls) (msg : List Byte) :
    (spoken (calls ++ [.send msg])).flatten = (spoken calls).flatten ++ msg := by
  rw [spoken_append unshut, List.flatten_append]
  simp [spoken]

theorem Attends.sends (attends : Attends world) (user : σ) (msg : List Byte) {conn : TcpConnection}
    {answer : WriteAnswer} (clean : goesOn log answer = true)
    (performed : (Call.send msg).perform log world.conn answer = .ok conn) :
    Attends { world with conn, user, calls := world.calls ++ [.send msg] } := by
  obtain ⟨next, again, talking⟩ := attends.talking.send msg clean
  cases again.symm.trans performed
  have single : performCalls log world.conn [.send msg] [answer] = .ok conn :=
    bind_eq_ok.mpr ⟨conn, performed, rfl⟩
  have kept := performCalls_inputBuffer single
  refine ⟨talking, by simpa using attends.unshut, ?_, ?_⟩
  · rw [kept]
    exact attends.valid
  · rw [kept]
    exact attends.empty

theorem Attends.writes (attends : Attends world) {answer : WriteAnswer}
    (performed : perform log callback world (.handleWrite answer) = .ok after) :
    ∃ conn, after = { world with conn } ∧ Attends { world with conn } ∧
      world.conn.socket.accepted <+: conn.socket.accepted := by
  obtain ⟨⟨conn, queued⟩, wrote, returned⟩ := bind_eq_ok.mp performed
  cases returned
  obtain ⟨next, more, again, talking⟩ := attends.talking.handleWrite answer
  cases again.symm.trans wrote
  have kept := TcpConnection.handleWrite_inputBuffer attends.talking.live wrote
  refine ⟨conn, rfl, ⟨talking, attends.unshut, ?_, ?_⟩, TcpConnection.handleWrite_accepted wrote⟩
  · rw [kept]
    exact attends.valid
  · rw [kept]
    exact attends.empty

end Conversation

open Conversation

/-- The timers of a client: when they expire, and the message to send then. -/
abbrev Timers := List (Int × List Byte)

/-- `EchoClient::onMessage`; `now` is the clock's reading in `runAfter`. -/
def EchoClient.onMessage : MessageCallback Timers := fun timers inputBuffer _ now => do
  let (msg, inputBuffer) ← inputBuffer.retrieveAllAsString
  return (timers ++ [(now + 500000, msg)], inputBuffer, [])

/-- The server's side and the client's side of a connection. What one kernel took is there for the
other party to read, in order. -/
structure EchoPair where
  server : World Unit
  client : World Timers

namespace EchoPair

inductive Step where
  | serverReads (count : Nat) (writeAnswers : List WriteAnswer)
  | serverWrites (answer : WriteAnswer)
  | clientReads (count : Nat) (now : Int)
  | clientWrites (answer : WriteAnswer)
  | clientTimer (index : Nat) (answer : WriteAnswer)
  deriving DecidableEq, Repr

/-- The connection callback of the client sends the message. -/
def start (log : Log) (msg : List Byte) (answer : WriteAnswer) : Checked EchoPair := do
  let conn ← (Call.send msg).perform log (.established false false) answer
  return ⟨.initial false false (), ⟨conn, [], [.send msg], []⟩⟩

def toServer (pair : EchoPair) (count : Nat) : List Byte :=
  (pair.client.conn.socket.accepted.drop pair.server.heardBytes.length).take count

def toClient (pair : EchoPair) (count : Nat) : List Byte :=
  (pair.server.conn.socket.accepted.drop pair.client.heardBytes.length).take count

/-- No timer expires before the timer that is run; of timers that expire together any may be. -/
def perform (log : Log) (pair : EchoPair) : Step → Checked EchoPair
  | .serverReads count writeAnswers =>
    if pair.toServer count = [] then .error .disabled
    else do
      let server ← Conversation.perform log echo pair.server
        (.handleRead (.delivered (pair.toServer count)) 0 writeAnswers)
      return { pair with server }
  | .serverWrites answer => do
    let server ← Conversation.perform log echo pair.server (.handleWrite answer)
    return { pair with server }
  | .clientReads count now =>
    if pair.toClient count = [] then .error .disabled
    else do
      let client ← Conversation.perform log EchoClient.onMessage pair.client
        (.handleRead (.delivered (pair.toClient count)) now [])
      return { pair with client }
  | .clientWrites answer => do
    let client ← Conversation.perform log EchoClient.onMessage pair.client (.handleWrite answer)
    return { pair with client }
  | .clientTimer index answer =>
    match pair.client.user[index]? with
    | none => .error .disabled
    | some (when, msg) =>
      if pair.client.user.all fun timer => decide (when ≤ timer.1) then do
        let conn ← (Call.send msg).perform log pair.client.conn answer
        let client := pair.client
        return { pair with
          client := { client with
            conn, user := client.user.eraseIdx index, calls := client.calls ++ [.send msg] } }
      else
        .error .disabled

/-- Reads fit, no direct write finds the connection broken, and no two timers are set
for the same time. -/
def allowed (log : Log) (pair : EchoPair) : Step → Bool
  | .serverReads count writeAnswers =>
    unbroken log pair.server (.handleRead (.delivered (pair.toServer count)) 0 writeAnswers)
  | .clientReads count now =>
    unbroken log pair.client (.handleRead (.delivered (pair.toClient count)) now []) &&
      pair.client.user.all fun timer => decide (timer.1 < now + 500000)
  | .clientTimer _ answer => goesOn log answer
  | .serverWrites _ | .clientWrites _ => true

def machine (log : Log) : Machine EchoPair Step :=
  (Machine.ofFunction (perform log)).restrict fun pair step => allowed log pair step = true

/-- All that the client has sent. -/
def sent (pair : EchoPair) : List Byte := pair.client.conn.stream

/-- What waits for a timer. -/
def waiting (pair : EchoPair) : List Byte := (pair.client.user.map Prod.snd).flatten

/-- What a party sent and the other did not hear yet. -/
def onTheWay (conn : TcpConnection) (heard : List Byte) : List Byte :=
  conn.socket.accepted.drop heard.length ++ conn.outputBuffer.toString

/-- All that is on its way round, from what the client hears next to what it sends last. -/
def circulating (pair : EchoPair) : List Byte :=
  onTheWay pair.server.conn pair.client.heardBytes ++
    onTheWay pair.client.conn pair.server.heardBytes ++ pair.waiting

structure Bounces (msg : List Byte) (pair : EchoPair) : Prop where
  server : Attends pair.server
  client : Attends pair.client
  echoed : (spoken pair.server.calls).flatten = pair.server.heardBytes
  resent : (spoken pair.client.calls).flatten ++ pair.waiting = msg ++ pair.client.heardBytes
  ordered : pair.client.user.Pairwise fun earlier later => earlier.1 < later.1
  arrives : pair.server.heardBytes <+: pair.client.conn.socket.accepted
  returns : pair.client.heardBytes <+: pair.server.conn.socket.accepted

variable {log : Log} {msg : List Byte} {answer : WriteAnswer} {pair first after : EchoPair}

theorem start_bounces (clean : goesOn log answer = true)
    (began : start log msg answer = .ok first) :
    Bounces msg first := by
  obtain ⟨conn, performed, returned⟩ := bind_eq_ok.mp began
  cases returned
  have attends : ∀ {σ : Type} (user : σ), Attends (World.initial false false user) := fun user =>
    ⟨initial_talking _ _, List.not_mem_nil, Buffer.create_valid _, Buffer.create_toString _⟩
  have client := (attends ([] : Timers)).sends [] msg clean performed
  refine ⟨attends (), client, rfl, ?_, .nil, List.nil_prefix, List.nil_prefix⟩
  simp [waiting, spoken, World.heardBytes]

/-- What is read next goes on where the reads before ended. -/
theorem read_prefix {heard accepted : List Byte} (arrived : heard <+: accepted) (count : Nat) :
    heard ++ (accepted.drop heard.length).take count <+: accepted := by
  obtain ⟨rest, rfl⟩ := arrived
  rw [List.drop_left]
  exact (List.prefix_append_right_inj heard).mpr (List.take_prefix count rest)

theorem heardBytes_append {σ : Type} {world next : World σ} {data : List Byte} {time : Int}
    (heard : next.heard = world.heard ++ [(data, time)]) :
    next.heardBytes = world.heardBytes ++ data := by
  simp [World.heardBytes, heard]

theorem Bounces.serverReads (bounces : Bounces msg pair) {count : Nat}
    {writeAnswers : List WriteAnswer}
    (permitted : allowed log pair (.serverReads count writeAnswers) = true)
    (performed : perform log pair (.serverReads count writeAnswers) = .ok after) :
    Bounces msg after := by
  simp only [perform] at performed
  split at performed
  case isTrue => cases performed
  case isFalse some =>
    obtain ⟨server, read, returned⟩ := bind_eq_ok.mp performed
    cases returned
    obtain ⟨filled, calls, valid, content, called, talking, said, heard, grown⟩ :=
      bounces.server.reads some permitted read
    rw [echo, if_pos rfl] at called
    injection called with called
    obtain ⟨_, called⟩ := Prod.mk.inj called
    obtain ⟨left, same⟩ := Prod.mk.inj called
    subst same
    have heardBytes := heardBytes_append heard
    refine ⟨⟨talking, ?_, ?_, ?_⟩, bounces.client, ?_, bounces.resent, bounces.ordered, ?_,
      bounces.returns.trans grown⟩
    · rw [said]
      simpa using bounces.server.unshut
    · rw [← left]
      exact Buffer.retrieveAll_valid valid
    · rw [← left]
      exact Buffer.retrieveAll_toString _
    · rw [said, spoken_send bounces.server.unshut, bounces.echoed, content, heardBytes]
    · rw [heardBytes]
      exact read_prefix bounces.arrives count

theorem Bounces.clientReads (bounces : Bounces msg pair) {count : Nat} {now : Int}
    (permitted : allowed log pair (.clientReads count now) = true)
    (performed : perform log pair (.clientReads count now) = .ok after) : Bounces msg after := by
  simp only [perform] at performed
  split at performed
  case isTrue => cases performed
  case isFalse some =>
    obtain ⟨client, read, returned⟩ := bind_eq_ok.mp performed
    cases returned
    obtain ⟨unbroken, later⟩ := Bool.and_eq_true_iff.mp permitted
    obtain ⟨filled, calls, valid, content, called, talking, said, heard, grown⟩ :=
      bounces.client.reads some unbroken read
    obtain ⟨rest, retrieved, restValid, empty⟩ := Buffer.retrieveAllAsString_returns valid
    rw [EchoClient.onMessage, retrieved, ok_bind] at called
    injection called with called
    obtain ⟨timers, called⟩ := Prod.mk.inj called
    obtain ⟨left, same⟩ := Prod.mk.inj called
    subst same
    rw [List.append_nil] at said
    have heardBytes := heardBytes_append heard
    refine ⟨bounces.server, ⟨talking, ?_, ?_, ?_⟩, bounces.echoed, ?_, ?_,
      bounces.arrives.trans grown, ?_⟩
    · rw [said]
      exact bounces.client.unshut
    · rw [← left]
      exact restValid
    · rw [← left]
      exact empty
    · have waits : waiting { pair with client } = pair.waiting ++ pair.toClient count := by
        simp [waiting, ← timers, content]
      rw [waits, said, heardBytes, ← List.append_assoc, bounces.resent, List.append_assoc]
    · rw [← timers]
      refine List.pairwise_append.mpr ⟨bounces.ordered, List.pairwise_singleton _ _, ?_⟩
      intro earlier member last found
      obtain rfl := List.mem_singleton.mp found
      exact of_decide_eq_true (List.all_eq_true.mp later earlier member)
    · rw [heardBytes]
      exact read_prefix bounces.returns count

/-- The timer that expires first was set first. -/
theorem Bounces.firstTimer (bounces : Bounces msg pair) {index : Nat} {when : Int}
    {said : List Byte} (found : pair.client.user[index]? = some (when, said))
    (least : pair.client.user.all (fun timer => decide (when ≤ timer.1)) = true) :
    ∃ rest, pair.client.user = (when, said) :: rest ∧ index = 0 := by
  have ordered := bounces.ordered
  cases timers : pair.client.user with
  | nil =>
    rw [timers] at found
    cases found
  | cons timer rest =>
    rw [timers] at found least ordered
    cases index with
    | zero =>
      cases found
      exact ⟨rest, rfl, rfl⟩
    | succ index =>
      have earlier := (List.pairwise_cons.mp ordered).1 _ (List.mem_of_getElem? found)
      have later := of_decide_eq_true (List.all_eq_true.mp least timer List.mem_cons_self)
      exact absurd later (Int.not_le.mpr earlier)

theorem Bounces.clientTimer (bounces : Bounces msg pair) {index : Nat}
    (permitted : allowed log pair (.clientTimer index answer) = true)
    (performed : perform log pair (.clientTimer index answer) = .ok after) : Bounces msg after := by
  simp only [perform] at performed
  split at performed
  case h_1 => cases performed
  case h_2 when said found =>
    split at performed
    case isFalse => cases performed
    case isTrue least =>
      obtain ⟨conn, sent, returned⟩ := bind_eq_ok.mp performed
      cases returned
      obtain ⟨rest, timers, rfl⟩ := bounces.firstTimer found least
      have client := bounces.client.sends (pair.client.user.eraseIdx 0) said permitted sent
      refine ⟨bounces.server, client, bounces.echoed, ?_, ?_,
        bounces.arrives.trans (Call.perform_accepted sent), bounces.returns⟩
      · have resent := bounces.resent
        rw [waiting, timers] at resent
        dsimp only [waiting]
        rw [spoken_send bounces.client.unshut, timers, List.append_assoc]
        exact resent
      · have ordered := bounces.ordered
        rw [timers] at ordered ⊢
        exact (List.pairwise_cons.mp ordered).2

theorem Bounces.step {step : Step} (bounces : Bounces msg pair)
    (permitted : allowed log pair step = true) (performed : perform log pair step = .ok after) :
    Bounces msg after := by
  cases step with
  | serverReads count writeAnswers => exact bounces.serverReads permitted performed
  | serverWrites answer =>
    obtain ⟨server, wrote, returned⟩ := bind_eq_ok.mp performed
    cases returned
    obtain ⟨conn, rfl, attends, grown⟩ := bounces.server.writes wrote
    exact { bounces with server := attends, returns := bounces.returns.trans grown }
  | clientReads count now => exact bounces.clientReads permitted performed
  | clientWrites answer =>
    obtain ⟨client, wrote, returned⟩ := bind_eq_ok.mp performed
    cases returned
    obtain ⟨conn, rfl, attends, grown⟩ := bounces.client.writes wrote
    exact { bounces with client := attends, arrives := bounces.arrives.trans grown }
  | clientTimer index answer => exact bounces.clientTimer permitted performed

theorem Bounces.clientAnswers (bounces : Bounces msg pair) {data : List Byte} {filled : Buffer}
    (connected : Bool) (now : Int) (fits : data.length ≤ pair.client.conn.inputBuffer.writableBytes)
    (read : pair.client.conn.inputBuffer.readFd 0 (.delivered data) =
      .ok (data.length, 0, filled)) :
    ∃ answer, EchoClient.onMessage pair.client.user filled connected now = .ok answer := by
  obtain ⟨same, again, valid, _⟩ := Buffer.readFd_fits bounces.client.valid 0 fits
  cases again.symm.trans read
  obtain ⟨rest, retrieved, _⟩ := Buffer.retrieveAllAsString_returns valid
  rw [EchoClient.onMessage, retrieved]
  exact ⟨_, rfl⟩

theorem returns_bind {α : Type} {call : Checked α} (put : α → EchoPair)
    (returns : (∃ next, call = .ok next) ∨ call = .error .disabled) :
    (∃ after, (call >>= fun next => .ok (put next)) = .ok after) ∨
      (call >>= fun next => .ok (put next)) = .error .disabled := by
  rcases returns with ⟨next, performed⟩ | disabled
  · exact .inl ⟨put next, bind_eq_ok.mpr ⟨next, performed, rfl⟩⟩
  · rw [disabled]
    exact .inr rfl

/-- No assertion fails in either program. -/
theorem Bounces.returnsOrDisabled {step : Step} (bounces : Bounces msg pair)
    (permitted : allowed log pair step = true) :
    (∃ after, perform log pair step = .ok after) ∨ perform log pair step = .error .disabled := by
  cases step with
  | serverReads count writeAnswers =>
    simp only [perform]
    split
    · exact .inr rfl
    · exact returns_bind _
        (Conversing.returns (.inl bounces.server.talking) permitted fun _ _ _ _ => ⟨_, rfl⟩)
  | serverWrites answer =>
    exact returns_bind _ (Conversing.returns (.inl bounces.server.talking) rfl fun _ _ _ _ =>
      ⟨_, rfl⟩)
  | clientReads count now =>
    simp only [perform]
    split
    · exact .inr rfl
    · have unbroken := (Bool.and_eq_true_iff.mp permitted).1
      exact returns_bind _
        (Conversing.returns (.inl bounces.client.talking) unbroken bounces.clientAnswers)
  | clientWrites answer =>
    exact returns_bind _
      (Conversing.returns (.inl bounces.client.talking) rfl bounces.clientAnswers)
  | clientTimer index answer =>
    simp only [perform]
    split
    · exact .inr rfl
    · split
      · obtain ⟨conn, sent, _⟩ := bounces.client.talking.send _ permitted
        exact .inl ⟨_, bind_eq_ok.mpr ⟨conn, sent, rfl⟩⟩
      · exact .inr rfl

theorem append_onTheWay {conn : TcpConnection} {heard : List Byte}
    (arrived : heard <+: conn.socket.accepted) :
    heard ++ onTheWay conn heard = conn.stream := by
  rw [onTheWay, ← List.append_assoc, List.prefix_iff_eq_append.mp arrived, TcpConnection.stream]

theorem Bounces.serverSent (bounces : Bounces msg pair) :
    pair.server.conn.stream = pair.server.heardBytes :=
  bounces.server.talking.stream.trans bounces.echoed

theorem Bounces.clientSent (bounces : Bounces msg pair) :
    pair.sent ++ pair.waiting = msg ++ pair.client.heardBytes := by
  rw [sent, bounces.client.talking.stream]
  exact bounces.resent

theorem Bounces.turned (bounces : Bounces msg pair) :
    pair.client.heardBytes ++ pair.circulating = msg ++ pair.client.heardBytes := by
  calc pair.client.heardBytes ++ pair.circulating
      = pair.client.heardBytes ++ onTheWay pair.server.conn pair.client.heardBytes ++
          onTheWay pair.client.conn pair.server.heardBytes ++ pair.waiting := by
        rw [circulating, List.append_assoc, List.append_assoc, List.append_assoc]
    _ = pair.server.heardBytes ++ onTheWay pair.client.conn pair.server.heardBytes ++
      pair.waiting := by
        rw [append_onTheWay bounces.returns, bounces.serverSent]
    _ = pair.sent ++ pair.waiting := by rw [append_onTheWay bounces.arrives, sent]
    _ = msg ++ pair.client.heardBytes := bounces.clientSent

/-- The client sends the message, and then what it sent before. -/
theorem Bounces.again (bounces : Bounces msg pair) : pair.sent <+: msg ++ pair.sent := by
  have heard : pair.client.heardBytes <+: pair.server.conn.stream :=
    bounces.returns.trans (List.prefix_append _ _)
  rw [bounces.serverSent] at heard
  have sentBefore : pair.client.heardBytes <+: pair.sent :=
    (heard.trans bounces.arrives).trans (List.prefix_append _ _)
  have more : pair.sent <+: msg ++ pair.client.heardBytes := ⟨pair.waiting, bounces.clientSent⟩
  exact more.trans ((List.prefix_append_right_inj msg).mpr sentBefore)

/-- However the programs, the kernels and the timers take turns, what goes round is the message,
perhaps turned round, and the client sends the message again and again. -/
theorem bounces {steps : List Step} (clean : goesOn log answer = true)
    (began : start log msg answer = .ok first) (run : (machine log).Run first steps pair) :
    msg.IsRotated pair.circulating ∧
      (msg ≠ [] → ∃ count, pair.sent <+: (List.replicate count msg).flatten) ∧
      ∀ step fault, allowed log pair step = true → perform log pair step = .error fault →
        fault = .disabled := by
  have bounces : Bounces msg pair := by
    refine run.invariant (fun _ pair => Bounces msg pair) (start_bounces clean began) ?_
    rintro _ current step after bounces ⟨permitted, performed⟩
    exact bounces.step permitted performed
  refine ⟨isRotated_of_append_eq bounces.turned, fun some => prefix_repeats some bounces.again, ?_⟩
  intro step fault permitted failed
  rcases bounces.returnsOrDisabled permitted with ⟨after, returned⟩ | disabled
  · cases returned.symm.trans failed
  · cases disabled.symm.trans failed
    rfl

/-- A message of two bytes, taken one by one; the first is back with the client while the second has
not left the server. -/
def twoBytes : List Step :=
  [.serverReads 1 [.wrote 1], .clientWrites (.wrote 1), .clientReads 2 1000,
    .serverReads 2 [.failed EWOULDBLOCK]]

theorem bounces_twoBytes :
    ∃ first pair, start ⟨.kINFO, none⟩ [97, 98] (.wrote 1) = .ok first ∧
      (machine ⟨.kINFO, none⟩).Run first twoBytes pair ∧ pair.circulating = [98, 97] ∧
      List.IsRotated [97, 98] pair.circulating := by
  have followed : (match start ⟨.kINFO, none⟩ [97, 98] (.wrote 1) with
      | .ok first =>
        (Machine.follow (perform ⟨.kINFO, none⟩) (allowed ⟨.kINFO, none⟩) first twoBytes).any
        fun pair => decide (pair.circulating = [98, 97])
      | .error _ => false) = true := by
    decide +kernel
  cases began : start ⟨.kINFO, none⟩ [97, 98] (.wrote 1) with
  | error fault =>
    rw [began] at followed
    cases followed
  | ok first =>
    rw [began] at followed
    obtain ⟨pair, run, final⟩ := Machine.Run.ofFollowAny (machine ⟨.kINFO, none⟩)
      (fun permitted performed => ⟨permitted, performed⟩) followed
    exact ⟨first, pair, rfl, run, of_decide_eq_true final, (bounces rfl began run).1⟩

end EchoPair

end FakeMuduo.Net
