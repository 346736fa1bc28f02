import FakeMuduo.Net.Acceptor
import FakeMuduo.Net.Channel

/-! A connector and the client it connects, with what their calls leave in the event loop.
Each `::socket` gives a number of its own, in the order of the calls, so that a descriptor the
kernel gives again is another socket. Times count microseconds. -/

namespace FakeMuduo.Net

open FakeMuduo.Base FakeMuduo.Util

def EADDRINUSE : Errno := 98

def EADDRNOTAVAIL : Errno := 99

def ENETUNREACH : Errno := 101

def EISCONN : Errno := 106

def ECONNREFUSED : Errno := 111

def EINPROGRESS : Errno := 115

namespace Connector

inductive State where
  | kDisconnected | kConnecting | kConnected
  deriving DecidableEq, Repr

/-- What `channel_` points to. -/
structure Attempt where
  sockfd : Nat
  channel : Channel
  deriving DecidableEq, Repr

def kMaxRetryDelayMs : Nat := 30 * 1000

def kInitRetryDelayMs : Nat := 500

/-- The events of the connector's channel, which asks for `POLLOUT` only. -/
structure Revents where
  pollout : Bool
  pollhup : Bool
  pollerr : Bool
  pollnval : Bool
  deriving DecidableEq, Repr

/-- What the kernel says of a connected socket; `soError` is `0` if there is no error. -/
structure Probe where
  soError : Errno
  selfConnect : Bool
  deriving DecidableEq, Repr

/-- A call of `TcpClient::connect` or `stop`. A `stop()` remembers how many writes the calls of
`connect()` had made when it began. -/
inductive Request where
  | connect
  | stop (since : Nat)
  deriving DecidableEq, Repr

/-- A functor of the loop; `forceClose` is for the connection of that socket. -/
inductive Functor where
  | startInLoop
  | stopInLoop (since : Nat)
  | resetChannel
  | forceClose (sockfd : Nat)
  deriving DecidableEq, Repr

/-- A call of the new connection callback: the value of `connect_` for which it was made, and
whether a `stop()` that no `connect()` followed had been carried out. -/
structure Handover where
  sockfd : Nat
  connect : Bool
  stopped : Bool
  deriving DecidableEq, Repr

end Connector

structure Connector where
  connect : Bool
  state : Connector.State
  channel : Option Connector.Attempt
  retryDelayMs : Nat
  deriving DecidableEq, Repr

/-- `connection` is the socket of `connection_`. -/
structure TcpClient where
  connect : Bool
  retry : Bool
  connection : Option Nat
  deriving DecidableEq, Repr

namespace Connector

/-- Where a thread is in a call. `flagged` has written `TcpClient::connect_` and `written` also
`Connector::connect_`. The other places are the loop thread's: `restarting` is `removeConnection`
before `restart()`, `starting` the entry of `startInLoop`, and `connecting`
the entry of `connect()`. -/
inductive Call where
  | idle
  | flagged (request : Request)
  | written (request : Request)
  | restarting
  | starting
  | connecting
  deriving DecidableEq, Repr

/-- Where the loop thread is in `loop()`: `event` and `hangup` are what is still to be handled of
the connector's channel and of the channel of a connection. -/
inductive Phase where
  | outside
  | polling
  | handling (event : Option Revents) (hangup : Option Nat)
  | calling (functors : List Functor)
  deriving DecidableEq, Repr

/-- The functors that a call of `doPendingFunctors` has still to make. -/
def Phase.functors : Phase → List Functor
  | .calling functors => functors
  | _ => []

/-- `timers` holds when the retry timers are due. `created`, `closed`, `handed` and `established`
tell what happened: how many sockets were created, which were closed by the connector, which were
handed over, and whether an attempt succeeded since the last `restart()`. `connects` counts the
writes of `connect()` calls, and `stopped` says that a `stop()` begun since the last
of them was carried out. -/
structure World where
  connector : Connector
  client : TcpClient
  phase : Phase
  call : Call
  calls : Nat → Call
  pending : List Functor
  now : Nat
  timers : List Nat
  created : Nat
  closed : List Nat
  handed : List Handover
  established : Bool
  connects : Nat
  stopped : Bool

namespace World

/-- A new client with its connector, before the loop runs. -/
def initial : World where
  connector := ⟨false, .kDisconnected, none, kInitRetryDelayMs⟩
  client := ⟨true, false, none⟩
  phase := .outside
  call := .idle
  calls := fun _ => .idle
  pending := []
  now := 0
  timers := []
  created := 0
  closed := []
  handed := []
  established := false
  connects := 0
  stopped := false

variable (world : World)

/-- The functors that the loop has still to call. -/
def outstanding : List Functor := world.phase.functors ++ world.pending

def queueInLoop (functor : Functor) : World := { world with pending := world.pending ++ [functor] }

def runAfter (interval : Nat) : World :=
  { world with timers := world.timers ++ [world.now + interval] }

def close (sockfd : Nat) : World := { world with closed := world.closed ++ [sockfd] }

/-- `TcpClient::newConnection`. -/
def newConnection (sockfd : Nat) : World :=
  { world with
    client.connection := some sockfd
    handed := world.handed ++ [⟨sockfd, world.connector.connect, world.stopped⟩] }

def removeAndResetChannel : Checked (Nat × World) :=
  match world.connector.channel with
  | none => .error .danglingReference
  | some attempt => do
    let disabled ← attempt.channel.disableAll
    let removed ← disabled.remove
    return (attempt.sockfd,
      { world with connector.channel := some { attempt with channel := removed } }.queueInLoop
        .resetChannel)

/-- `channel_.reset()`, with the assertions of the channel's destructor. No event is being
handled while functors are called. -/
def resetChannel : Checked World :=
  match world.connector.channel with
  | none => return world
  | some attempt => do
    check "!added_to_loop_" (attempt.channel.addedToLoop = false)
    check "!loop_->hasChannel(this)" (attempt.channel.registered = false)
    return { world with connector.channel := none }

/-- The delay, a number of milliseconds, is given to the loop as one of microseconds. -/
def retry (sockfd : Nat) : World :=
  let world := { world.close sockfd with connector.state := .kDisconnected }
  if world.connector.connect then
    { world.runAfter world.connector.retryDelayMs with
      connector.retryDelayMs := min (world.connector.retryDelayMs * 2) kMaxRetryDelayMs }
  else world

def connecting (sockfd : Nat) : Checked World := do
  let world := { world with connector.state := .kConnecting }
  check "!channel_" (world.connector.channel = none)
  let channel ← Channel.create.enableWriting
  return { world with connector.channel := some ⟨sockfd, channel⟩ }

/-- The errors after which an attempt is still in progress. -/
def isInProgress (errno : Errno) : Bool :=
  errno == 0 || errno == EINPROGRESS || errno == EINTR || errno == EISCONN

/-- The errors after which `connect()` tries again later. -/
def isRetryable (errno : Errno) : Bool :=
  errno == EAGAIN || errno == EADDRINUSE || errno == EADDRNOTAVAIL || errno == ECONNREFUSED ||
    errno == ENETUNREACH

/-- The connection attempt; `savedErrno` is `0` if `::connect` succeeded. The listed fatal errors
and the unknown ones differ in their message only. -/
def connect (savedErrno : Errno) : Checked World :=
  let sockfd := world.created
  let world := { world with created := world.created + 1, call := .idle }
  if isInProgress savedErrno then world.connecting sockfd
  else if isRetryable savedErrno then return world.retry sockfd
  else return world.close sockfd

/-- `startInLoop` up to the call of `connect()`. -/
def startInLoop : Checked World := do
  check "state_ == State::kDisconnected" (world.connector.state = .kDisconnected)
  return { world with call := if world.connector.connect then .connecting else .idle }

def stopInLoop : Checked World :=
  if world.connector.state = .kConnecting then do
    let (sockfd, world) ← { world with connector.state := .kDisconnected }.removeAndResetChannel
    return world.retry sockfd
  else return world

/-- `restart` up to the call of `startInLoop`. -/
def restart : World :=
  { world with
    connector := { world.connector with
      state := .kDisconnected, retryDelayMs := kInitRetryDelayMs, connect := true }
    call := .starting
    established := false }

def handleWrite (probe : Probe) : Checked World :=
  if world.connector.state = .kConnecting then do
    let (sockfd, world) ← world.removeAndResetChannel
    if probe.soError ≠ 0 then return world.retry sockfd
    else if probe.selfConnect then return world.retry sockfd
    else
      let world := { world with connector.state := .kConnected, established := true }
      if world.connector.connect then return world.newConnection sockfd
      else return world.close sockfd
  else do
    check "state_ == State::kDisconnected" (world.connector.state = .kDisconnected)
    return world

def handleError : Checked World :=
  if world.connector.state = .kConnecting then do
    let (sockfd, world) ← world.removeAndResetChannel
    return world.retry sockfd
  else return world

/-- `Channel::handleEventWithGurad` for the connector's channel, which has a write
and an error callback. -/
def handleEvent (revents : Revents) (probe : Probe) : Checked World := do
  let world ← if revents.pollerr || revents.pollnval then world.handleError else pure world
  if revents.pollout then world.handleWrite probe else return world

/-- `TcpClient::removeConnection` up to the call of `restart()`. -/
def removeConnection (sockfd : Nat) : Checked World := do
  check "connection_ == conn" (world.client.connection = some sockfd)
  return { world with
    client.connection := none
    call := if world.client.retry && world.client.connect then .restarting else .idle }

end World

end Connector

end FakeMuduo.Net
