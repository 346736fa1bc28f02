import FakeMuduo.Base.Machine
import FakeMuduo.Base.Text
import FakeMuduo.Net.BufferInvariant
import FakeMuduo.Net.TcpConnection

/-! A server with its base loop, which is loop `0`, and its I/O loops. Each loop has a thread
of its own. A step is what one thread does up to its next user callback, system call or
functor, so that the threads interleave at all of these; inside a callback the user may
call any connection of that loop. -/

namespace FakeMuduo.Net.TcpServer

open FakeMuduo.Base FakeMuduo.Util

/-- `ipPort` is the text of an address, at most `INET6_ADDRSTRLEN - 1` bytes. -/
structure Config where
  name : Text
  ipPort : Text
  numThreads : Nat
  log : Log
  writeCompleteCallback : Bool
  highWaterMarkCallback : Bool
  fits : ipPort.length ≤ 45

/-- The events `epoll_wait` returned for a descriptor. No channel asks for `POLLRDHUP`, and a
TCP socket that was hung up is readable, so that `POLLPRI` does not come with `POLLHUP` alone. -/
structure Revents where
  pollin : Bool
  pollpri : Bool
  pollout : Bool
  pollhup : Bool
  pollrdhup : Bool
  pollerr : Bool
  pollnval : Bool
  unasked : pollrdhup = false
  readable : pollhup = true → pollpri = true → pollin = true
  deriving DecidableEq, Repr

/-- The wakeup channel and the timer queue are `other`; their handlers may run user code. -/
inductive ActiveChannel where
  | connection (conn : Nat) (revents : Revents)
  | acceptor
  | other
  deriving DecidableEq, Repr

/-- A functor in a loop's queue; `user` is one that the user posted. -/
inductive Task where
  | connectEstablished (conn : Nat)
  | removeConnectionInLoop (conn : Nat)
  | connectDestroyed (conn : Nat)
  | functor (conn : Nat) (functor : Functor)
  | user
  deriving DecidableEq, Repr

/-- What a thread still has to do in the handler it is in. -/
inductive Work where
  | handleClose (conn : Nat)
  | handleRead (conn : Nat)
  | handleWrite (conn : Nat)
  | closeCallback (conn : Nat)
  | removeChannel (conn : Nat)
  | callback
  deriving DecidableEq, Repr

/-- Where `loop()` is: about to poll, in the loop over the active channels (while
`event_handling_` is set), or in `doPendingFunctors`. -/
inductive Phase where
  | polling
  | handling (active : List ActiveChannel) (current : Option ActiveChannel)
      (remaining : List ActiveChannel)
  | calling (functors : List Task)
  deriving DecidableEq, Repr

structure LoopThread where
  pending : List Task
  phase : Phase
  stack : List Work
  deriving DecidableEq, Repr

/-- What happened to a connection. A callback comes with what the connection
says of itself when it is called. -/
inductive Happening where
  | connectEstablished
  | connectionCallback (isConnected isDisconnected : Bool)
  | messageCallback
  | handleRead
  | handleWrite
  | forceCloseInLoop
  | handleClose
  | removeConnection
  | removeConnectionInLoop (erased : List Nat)
  | connectDestroyed (loop : Nat) (eventHandling : Bool)
  deriving DecidableEq, Repr

structure Link where
  conn : TcpConnection
  loop : Nat
  history : List Happening
  deriving DecidableEq, Repr

/-- Connections go by their number. `connections` maps names to connections. -/
structure World where
  links : Nat → Option Link
  loops : Nat → LoopThread
  connections : List (Text × Nat)
  nextConnId : Nat
  next : Nat

def World.initial : World where
  links := fun _ => none
  loops := fun _ => ⟨[], .polling, []⟩
  connections := []
  nextConnId := 1
  next := 0

def Phase.eventHandling : Phase → Bool
  | handling _ _ _ => true
  | _ => false

def ActiveChannel.conn? : ActiveChannel → Option Nat
  | connection conn _ => some conn
  | _ => none

/-- The assertion of `EventLoop::removeChannel`. -/
def Phase.mayRemove (conn : Nat) : Phase → Bool
  | handling active current _ =>
    (current.bind ActiveChannel.conn? == some conn) ||
      !(active.filterMap ActiveChannel.conn?).contains conn
  | _ => true

def Link.update (link : Link) (conn : TcpConnection) (happenings : List Happening) : Link :=
  { link with conn, history := link.history ++ happenings }

namespace World

def link (world : World) (conn : Nat) : Checked Link :=
  match world.links conn with
  | some link => .ok link
  | none => .error .danglingReference

def setLink (world : World) (conn : Nat) (link : Link) : World :=
  { world with links := Function.update world.links conn (some link) }

def setLoop (world : World) (loop : Nat) (thread : LoopThread) : World :=
  { world with loops := Function.update world.loops loop thread }

def queueInLoop (world : World) (loop : Nat) (tasks : List Task) : World :=
  world.setLoop loop { world.loops loop with pending := (world.loops loop).pending ++ tasks }

/-- The thread is to do `works` before what it has to do already. -/
def call (world : World) (loop : Nat) (works : List Work) : World :=
  world.setLoop loop { world.loops loop with stack := works ++ (world.loops loop).stack }

end World

variable (config : Config)

def connName (id : Nat) : Text :=
  config.name ++ snprintf 64 (ascii "-" ++ config.ipPort ++ ascii "#" ++ decimal id)

/-- `EventLoopThreadPool::getNextLoop`, with the new `next_`. -/
def getNextLoop (world : World) : Nat × Nat :=
  if config.numThreads = 0 then (0, world.next)
  else (world.next + 1, (world.next + 1) % config.numThreads)

/-- `assertInLoopThread`, for a connection. -/
def assertInLoopThread (link : Link) (loop : Nat) : Checked Unit :=
  check "isInLoopThread()" (link.loop = loop)

def connectEstablished (world : World) (loop id : Nat) : Checked World := do
  let link ← world.link id
  assertInLoopThread link loop
  let conn ← link.conn.connectEstablished
  let happenings := [.connectEstablished, .connectionCallback conn.isConnected conn.isDisconnected]
  return (world.setLink id (link.update conn happenings)).call loop [.callback]

/-- `first` is what led here. -/
def handleClose (world : World) (loop id : Nat) (first : List Happening) : Checked World := do
  let link ← world.link id
  assertInLoopThread link loop
  let conn ← link.conn.handleClose
  let happenings :=
    first ++ [.handleClose, .connectionCallback conn.isConnected conn.isDisconnected]
  return (world.setLink id (link.update conn happenings)).call loop [.callback, .closeCallback id]

def handleRead (world : World) (loop id : Nat) (answer : ReadAnswer) : Checked World := do
  let link ← world.link id
  assertInLoopThread link loop
  match answer with
  | .data first rest =>
    let conn ← link.conn.receive (first :: rest)
    return (world.setLink id (link.update conn [.handleRead, .messageCallback])).call
      loop [.callback]
  | .endOfStream => handleClose world loop id [.handleRead]
  | .failed _ => return world.setLink id (link.update link.conn [.handleRead])

def handleWrite (world : World) (loop id : Nat) (answer : WriteAnswer) : Checked World := do
  let link ← world.link id
  assertInLoopThread link loop
  let (conn, queued) ← link.conn.handleWrite answer
  return (world.setLink id (link.update conn [.handleWrite])).queueInLoop loop
    (queued.map (.functor id))

def forceCloseInLoop (world : World) (loop id : Nat) : Checked World := do
  let link ← world.link id
  assertInLoopThread link loop
  if link.conn.isOpen then handleClose world loop id [.forceCloseInLoop]
  else return world.setLink id (link.update link.conn [.forceCloseInLoop])

def removeConnectionInLoop (world : World) (loop id : Nat) : Checked World := do
  check "loop_->isInLoopThread()" (loop = 0)
  let link ← world.link id
  let erased := world.connections.filter (·.1 = connName config id)
  check "n == 1" (erased.length = 1)
  let connections := world.connections.filter (·.1 ≠ connName config id)
  let link := link.update link.conn [.removeConnectionInLoop (erased.map Prod.snd)]
  return ({ world with connections }.setLink id link).queueInLoop link.loop [.connectDestroyed id]

/-- The close callback, `loop_->runInLoop` included. -/
def removeConnection (world : World) (loop id : Nat) : Checked World := do
  let link ← world.link id
  let world := world.setLink id (link.update link.conn [.removeConnection])
  if loop = 0 then removeConnectionInLoop config world loop id
  else return world.queueInLoop 0 [.removeConnectionInLoop id]

def removeChannel (world : World) (loop id : Nat) : Checked World := do
  let link ← world.link id
  check "current_active_channel_ == channel || ..." ((world.loops loop).phase.mayRemove id = true)
  let conn ← link.conn.removeChannel
  return world.setLink id (link.update conn [])

def connectDestroyed (world : World) (loop id : Nat) : Checked World := do
  let link ← world.link id
  assertInLoopThread link loop
  let first := .connectDestroyed loop (world.loops loop).phase.eventHandling
  if link.conn.state = .kConnected then do
    let conn ← link.conn.disconnect
    let happenings := [first, .connectionCallback conn.isConnected conn.isDisconnected]
    return (world.setLink id (link.update conn happenings)).call loop [.callback, .removeChannel id]
  else removeChannel (world.setLink id (link.update link.conn [first])) loop id

def newConnection (world : World) (loop : Nat) : Checked World := do
  check "loop_->isInLoopThread()" (loop = 0)
  let (ioLoop, next) := getNextLoop config world
  let id := world.nextConnId
  let conn := TcpConnection.create config.writeCompleteCallback config.highWaterMarkCallback
  let connections := world.connections.filter (·.1 ≠ connName config id) ++
    [(connName config id, id)]
  let world := { world with nextConnId := id + 1, next, connections }.setLink id ⟨conn, ioLoop, []⟩
  if ioLoop = loop then connectEstablished world loop id
  else return world.queueInLoop ioLoop [.connectEstablished id]

/-- `Channel::handleEventWithGurad`. `handleError` only logs. -/
def handleEvent (id : Nat) (revents : Revents) : List Work :=
  (if revents.pollhup && !revents.pollin then [.handleClose id] else []) ++
    (if revents.pollin || revents.pollpri || revents.pollrdhup then [.handleRead id] else []) ++
    (if revents.pollout then [.handleWrite id] else [])

/-- Besides hang-ups and errors the kernel reports what it was asked for. -/
def Revents.isReported (revents : Revents) (interest : Events) : Bool :=
  (!revents.pollin || interest.read) && (!revents.pollpri || interest.read) &&
    (!revents.pollout || interest.write)

def World.reports (world : World) (loop : Nat) : ActiveChannel → Bool
  | .connection id revents =>
    (world.links id).any fun link =>
      link.loop == loop && link.conn.channel.interest.any revents.isReported
  | .acceptor => loop == 0
  | .other => true

/-- A functor that is called. Those of other threads' `send` and of read
control are not posted here. -/
def runFunctor (world : World) (loop : Nat) : Task → Checked World
  | .connectEstablished id => connectEstablished world loop id
  | .removeConnectionInLoop id => removeConnectionInLoop config world loop id
  | .connectDestroyed id => connectDestroyed world loop id
  | .functor id .forceCloseInLoop => forceCloseInLoop world loop id
  | .functor _ _ => return world.call loop [.callback]
  | .user => return world.call loop [.callback]

/-- The next thing to do in the handler; a callback returns. -/
def resume (world : World) (loop : Nat) (readAnswer : ReadAnswer) (writeAnswer : WriteAnswer) :
    Work → Checked World
  | .handleClose id => handleClose world loop id []
  | .handleRead id => handleRead world loop id readAnswer
  | .handleWrite id => handleWrite world loop id writeAnswer
  | .closeCallback id => removeConnection config world loop id
  | .removeChannel id => removeChannel world loop id
  | .callback => return world

/-- The next active channel. `accepted` says whether `accept` gave a connection. -/
def handle (world : World) (loop : Nat) (accepted : Bool) : ActiveChannel → Checked World
  | .connection id revents => return world.call loop (handleEvent id revents)
  | .acceptor => if accepted then newConnection config world loop else return world
  | .other => return world.call loop [.callback]

/-- A call of the user's; `consume` is what a callback leaves in the input buffer. -/
inductive UserCall where
  | send (msg : List Byte) (answer : WriteAnswer)
  | shutdown
  | forceClose
  | consume (inputBuffer : Buffer)

def UserCall.perform (log : Log) (conn : TcpConnection) :
    UserCall → Checked (TcpConnection × List Functor)
  | send msg answer => conn.sendString log msg answer
  | shutdown => .ok (conn.shutdown, [])
  | forceClose => .ok conn.forceClose
  | consume inputBuffer => .ok ({ conn with inputBuffer }, [])

/-- What the thread of a loop can do next. `post` is any thread's: it queues
a functor of the user's. -/
inductive Action where
  | poll (active : List ActiveChannel)
  | handle (accepted : Bool)
  | doPendingFunctors
  | runFunctor
  | finish
  | resume (readAnswer : ReadAnswer) (writeAnswer : WriteAnswer)
  | user (id : Nat) (call : UserCall)
  | post

def perform (world : World) (loop : Nat) (action : Action) : Checked World :=
  let thread := world.loops loop
  match action, thread.phase, thread.stack with
  | .poll active, .polling, [] =>
    if active.all (world.reports loop) ∧ (active.filterMap ActiveChannel.conn?).Nodup then
      .ok (world.setLoop loop { thread with phase := .handling active none active })
    else .error .disabled
  | .handle accepted, .handling active _ (channel :: remaining), [] =>
    if world.nextConnId < 2147483648 ∨ accepted = false then
      handle config
        (world.setLoop loop { thread with phase := .handling active (some channel) remaining })
        loop accepted channel
    else .error .disabled
  | .doPendingFunctors, .handling _ _ [], [] =>
    .ok (world.setLoop loop { thread with pending := [], phase := .calling thread.pending })
  | .runFunctor, .calling (task :: rest), [] =>
    runFunctor config (world.setLoop loop { thread with phase := .calling rest }) loop task
  | .finish, .calling [], [] => .ok (world.setLoop loop { thread with phase := .polling })
  | .resume readAnswer writeAnswer, _, work :: rest =>
    resume config (world.setLoop loop { thread with stack := rest }) loop readAnswer
      writeAnswer work
  | .user id call, _, .callback :: _ =>
    match world.links id with
    | some link =>
      if link.loop = loop then do
        let (conn, queued) ← call.perform config.log link.conn
        return (world.setLink id (link.update conn [])).queueInLoop loop (queued.map (.functor id))
      else .error .disabled
    | none => .error .disabled
  | .post, _, _ => .ok (world.queueInLoop loop [.user])
  | _, _, _ => .error .disabled

/-- The threads that exist. -/
structure Step where
  loop : Nat
  action : Action

def machine : Machine World Step :=
  (Machine.ofFunction fun world step => perform config world step.loop step.action).restrict
    fun _ step => step.loop ≤ config.numThreads

end FakeMuduo.Net.TcpServer
