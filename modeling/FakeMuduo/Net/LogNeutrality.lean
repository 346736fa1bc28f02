import FakeMuduo.Net.Acceptor
import FakeMuduo.Net.TcpConnectionInvariant

/-! Whether what is logged, and by whom, shows in what the networking code does: two calls
with the same state and the same answers of the kernel, under two logs. -/

namespace FakeMuduo.Net

open FakeMuduo.Base FakeMuduo.Util

namespace TcpConnection

/-- The data the kernel did not take is given up, not buffered. -/
def dropsData (log : Log) (conn : TcpConnection) (msg : List Byte) (answer : WriteAnswer) : Bool :=
  let direct := writeDirect log conn msg answer
  conn.state != .kDisconnected && direct.faultError && decide (0 < msg.length - direct.nwrote)

/-- What is left in the output buffer and whether a writable event is awaited. -/
def Left (outcome : Checked (TcpConnection × List Functor)) : Checked (List Byte × Bool) :=
  outcome.map (fun result => (result.1.outputBuffer.toString, result.1.channel.isWriting))

/-- `sendInLoop` does the same under both logs. -/
structure SendsAlike (log other : Log) (conn : TcpConnection) (msg : List Byte)
    (answer : WriteAnswer) :
    Prop where
  left : Left (conn.sendInLoop log msg answer) = Left (conn.sendInLoop other msg answer)
  decision : conn.dropsData log msg answer = conn.dropsData other msg answer

/-- There is something to send, `sendInLoop` tries the socket first and
finds the connection gone. -/
def findsBroken (conn : TcpConnection) (msg : List Byte) (answer : WriteAnswer) : Bool :=
  conn.state != .kDisconnected && conn.writesDirectly && !msg.isEmpty &&
    match answer with
    | .wrote _ => false
    | .failed errno => isBroken errno

/-- The log shows in a direct write as the verdict on its error, and nowhere else. -/
theorem writeDirect_eq (log : Log) (conn : TcpConnection) (msg : List Byte) (answer : WriteAnswer) :
    writeDirect log conn msg answer =
      { writeDirect ⟨.kCLOSE, none⟩ conn msg answer with
        faultError := conn.givesUp log answer } := by
  unfold writeDirect
  cases answer with
  | wrote count => cases conn.writesDirectly <;> rfl
  | failed errno => cases direct : conn.writesDirectly <;> simp [givesUp, direct]

theorem dropsData_eq (log : Log) (conn : TcpConnection) (msg : List Byte) (answer : WriteAnswer) :
    conn.dropsData log msg answer = (conn.findsBroken msg answer && !log.clearsErrno) := by
  unfold dropsData findsBroken writeDirect
  cases answer with
  | wrote count => cases conn.writesDirectly <;> simp
  | failed errno =>
    cases conn.writesDirectly with
    | false => simp
    | true => cases msg <;> simp [isFaultError_eq, Bool.and_assoc]

/-- A call that takes the same decision does the same. -/
theorem sendInLoop_congr {log other : Log} {conn : TcpConnection} {msg : List Byte}
    {answer : WriteAnswer}
    (decision : conn.dropsData log msg answer = conn.dropsData other msg answer) :
    conn.sendInLoop log msg answer = conn.sendInLoop other msg answer := by
  by_cases disconnected : conn.state = .kDisconnected
  · simp only [sendInLoop, disconnected, if_true]
  · have connected : (conn.state != .kDisconnected) = true := bne_iff_ne.mpr disconnected
    simp only [dropsData, writeDirect_eq log, writeDirect_eq other, connected, Bool.true_and]
      at decision
    simp only [sendInLoop, disconnected, if_false, writeDirect_eq log, writeDirect_eq other]
    by_cases rest : 0 < msg.length - (writeDirect ⟨.kCLOSE, none⟩ conn msg answer).nwrote
    · have verdict : conn.givesUp log answer = conn.givesUp other answer := by
        simpa [rest] using decision
      rw [verdict]
    · simp only [rest, and_false, if_false]

theorem sendsAlike_iff (log other : Log) (conn : TcpConnection) (msg : List Byte)
    (answer : WriteAnswer) :
    SendsAlike log other conn msg answer ↔
      (conn.findsBroken msg answer = true → log.clearsErrno = other.clearsErrno) := by
  constructor
  · intro alike broken
    have decision := alike.decision
    rw [dropsData_eq, dropsData_eq, broken] at decision
    simpa using decision
  · intro agree
    have decision : conn.dropsData log msg answer = conn.dropsData other msg answer := by
      rw [dropsData_eq, dropsData_eq]
      cases broken : conn.findsBroken msg answer with
      | false => rfl
      | true => rw [agree broken]
    exact ⟨congrArg Left (sendInLoop_congr decision), decision⟩

end TcpConnection

namespace Acceptor

/-- `handleRead` decides alike under both logs about giving up the idle descriptor. -/
def RecoversAlike (log other : Log) (acceptor : Acceptor) (answer : AcceptAnswer)
    (accepted opened : Int) :
    Prop :=
  recovers (acceptor.handleRead log answer accepted opened) =
    recovers (acceptor.handleRead other answer accepted opened)

theorem recoversAlike_iff (log other : Log) (acceptor : Acceptor) (answer : AcceptAnswer)
    (accepted opened : Int) :
    RecoversAlike log other acceptor answer accepted opened ↔
      (answer = .failed EMFILE → log.clearsErrno = other.clearsErrno) := by
  unfold RecoversAlike
  cases answer with
  | accepted connfd => simp [recovers_accepted]
  | failed errno =>
    rw [recovers_eq, recovers_eq]
    by_cases full : errno = EMFILE
    · simp [full]
    · have different : (errno == EMFILE) = false := beq_false_of_ne full
      simp [full, different]

end Acceptor

/-- Two logs cannot be told apart exactly if they agree on losing `errno`, unless the
one error is met that a test behind a log statement looks for. -/
theorem logs_alike_iff (log other : Log) :
    (∀ conn msg answer, TcpConnection.SendsAlike log other conn msg answer ↔
      (conn.findsBroken msg answer = true → log.clearsErrno = other.clearsErrno)) ∧
    ∀ acceptor answer accepted opened,
      Acceptor.RecoversAlike log other acceptor answer accepted opened ↔
      (answer = .failed EMFILE → log.clearsErrno = other.clearsErrno) :=
  ⟨TcpConnection.sendsAlike_iff log other, Acceptor.recoversAlike_iff log other⟩

/-- With `StdLogger` at `kERROR` and without a logger, a connection that is gone and a process
out of descriptors are treated differently. -/
theorem logs_told_apart :
    (∃ conn, (TcpConnection.create false false).connectEstablished = .ok conn ∧
      ¬ TcpConnection.SendsAlike ⟨.kERROR, some .std⟩ ⟨.kERROR, none⟩ conn [104, 105]
        (.failed EPIPE)) ∧
    ¬ Acceptor.RecoversAlike ⟨.kERROR, some .std⟩ ⟨.kERROR, none⟩ ⟨true, 5⟩
      (.failed EMFILE) 5 5 := by
  refine ⟨?_, ?_⟩
  · refine ⟨_, rfl, ?_⟩
    intro alike
    have decision := alike.decision
    revert decision
    decide +kernel
  · unfold Acceptor.RecoversAlike
    decide

end FakeMuduo.Net
