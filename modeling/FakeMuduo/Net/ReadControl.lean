import FakeMuduo.Net.OutputStream
import FakeMuduo.Net.TcpServer

/-! One established connection whose user also stops and starts reading, until it is
destroyed. All user calls run on the loop's thread, at once or from its queue. -/

namespace FakeMuduo.Net.ReadControl

open FakeMuduo.Base FakeMuduo.Util TcpServer

/-- `queue` are the functors of the connection in the loop's queue, and `works` what is left to
handle of its last event. `closes` counts the calls of `handleClose` that passed its assertion. -/
structure World where
  conn : TcpConnection
  queue : List Functor
  works : List Work
  closes : Nat
  destroyed : Bool

def World.initial (writeCompleteCallback highWaterMarkCallback : Bool) : World where
  conn := .established writeCompleteCallback highWaterMarkCallback
  queue := []
  works := []
  closes := 0
  destroyed := false

/-- What a callback leaves in the input buffer is a step of its own. -/
inductive Step where
  | send (msg : List Byte) (answer : WriteAnswer)
  | shutdown
  | forceClose
  | startRead
  | stopRead
  | consume (inputBuffer : Buffer)
  | poll (revents : Revents)
  | handle (readAnswer : ReadAnswer) (writeAnswer : WriteAnswer)
  | runFunctor
  | connectDestroyed

def handleClose (world : World) : Checked World := do
  let conn ← world.conn.handleClose
  return { world with conn, closes := world.closes + 1 }

def handleRead (world : World) : ReadAnswer → Checked World
  | .data first rest => do
    let conn ← world.conn.receive (first :: rest)
    return { world with conn }
  | .endOfStream => handleClose world
  | .failed _ => .ok world

def handleWrite (world : World) (answer : WriteAnswer) : Checked World := do
  let (conn, queued) ← world.conn.handleWrite answer
  return { world with conn, queue := world.queue ++ queued }

/-- The next handler of the event. -/
def handle (world : World) (readAnswer : ReadAnswer) (writeAnswer : WriteAnswer) :
    Work → Checked World
  | .handleClose _ => handleClose world
  | .handleRead _ => handleRead world readAnswer
  | .handleWrite _ => handleWrite world writeAnswer
  | _ => .error .disabled

/-- Of the functors, the notices only call the user back. -/
def runFunctor (world : World) : Functor → Checked World
  | .forceCloseInLoop => if world.conn.isOpen then handleClose world else .ok world
  | _ => .ok world

/-- Posted by the close callback's `removeConnectionInLoop`. -/
def connectDestroyed (world : World) : Checked World := do
  let conn ← if world.conn.state = .kConnected then world.conn.disconnect else pure world.conn
  let conn ← conn.removeChannel
  return { world with conn, destroyed := true }

/-- Functors run when the event is handled. The kernel reports a connection that
is in its interest set. -/
def Step.perform (log : Log) (world : World) : Step → Checked World
  | send msg answer => do
    let (conn, queued) ← world.conn.sendString log msg answer
    return { world with conn, queue := world.queue ++ queued }
  | shutdown => .ok { world with conn := world.conn.shutdown }
  | forceClose =>
    .ok { world with
      conn := world.conn.forceClose.1, queue := world.queue ++ world.conn.forceClose.2 }
  | startRead => do
    let conn ← world.conn.startReadInLoop
    return { world with conn }
  | stopRead => do
    let conn ← world.conn.stopReadInLoop
    return { world with conn }
  | consume inputBuffer => .ok { world with conn.inputBuffer := inputBuffer }
  | poll revents =>
    if world.works = [] ∧ world.conn.channel.interest.any revents.isReported then
      .ok { world with works := handleEvent 0 revents }
    else .error .disabled
  | handle readAnswer writeAnswer =>
    match world.works with
    | work :: works => ReadControl.handle { world with works } readAnswer writeAnswer work
    | [] => .error .disabled
  | runFunctor =>
    match world.works, world.queue with
    | [], functor :: queue => ReadControl.runFunctor { world with queue } functor
    | _, _ => .error .disabled
  | connectDestroyed =>
    if world.works = [] ∧ 0 < world.closes ∧ world.destroyed = false then
      ReadControl.connectDestroyed world
    else .error .disabled

def machine (log : Log) : Machine World Step := .ofFunction (Step.perform log)

/-- The step calls `handleClose`. -/
def Step.closes (world : World) : Step → Bool
  | handle readAnswer _ =>
    match world.works with
    | .handleClose _ :: _ => true
    | .handleRead _ :: _ => readAnswer == .endOfStream
    | _ => false
  | runFunctor => world.works == [] && world.queue.head? ==
      some .forceCloseInLoop && world.conn.isOpen
  | _ => false

/-- The steps that do not reach the defect: reading is not started on a closed connection, nor
stopped unless it was stopped before, and the connection is not closed while it has no interest. -/
def Careful (world : World) (step : Step) : Prop :=
  match step with
  | .startRead => world.conn.state ≠ .kDisconnected
  | .stopRead => world.conn.state = .kDisconnected → world.conn.reading = false
  | step => step.closes world = true → world.conn.channel.isNoneEvent = false

instance (world : World) : (step : Step) → Decidable (Careful world step)
  | .startRead => inferInstanceAs (Decidable (_ ≠ _))
  | .stopRead => inferInstanceAs (Decidable (_ → _))
  | .send _ _ | .shutdown | .forceClose | .consume _ | .poll _ | .handle _ _ | .runFunctor
  | .connectDestroyed =>
    inferInstanceAs (Decidable (_ → _))

end FakeMuduo.Net.ReadControl
