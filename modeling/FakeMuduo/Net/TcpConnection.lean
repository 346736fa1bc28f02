import FakeMuduo.Net.BufferRead
import FakeMuduo.Net.Channel
import FakeMuduo.Util.Log

/-! One TCP connection as its own loop's thread sees it. User callbacks are not
run here: a call returns what it leaves behind and the functors it queued, and
whoever drives the connection runs the callbacks at the places the source does. -/

namespace FakeMuduo.Net

open FakeMuduo.Base FakeMuduo.Util

inductive StateE where
  | kDisconnected | kConnecting | kConnected | kDisconnecting
  deriving DecidableEq, Repr

/-- The kernel's side of the socket: the bytes `::write` accepted, and how many
they were when the write side was first shut down. -/
structure Socket where
  accepted : List Byte
  shutdownAt : Option Nat
  deriving DecidableEq, Repr

/-- The kernel's answer to a `::write`. A count above the requested length stands
for the whole request. -/
inductive WriteAnswer where
  | wrote (count : Nat)
  | failed (errno : Errno)
  deriving DecidableEq, Repr

/-- The kernel's answer to a read: at least one byte, the end of the stream, or an error. -/
inductive ReadAnswer where
  | data (first : Byte) (rest : List Byte)
  | endOfStream
  | failed (errno : Errno)
  deriving DecidableEq, Repr

/-- What the connection hands to `queueInLoop`. The captured message of a `send`
from another thread is a reference to the caller's object. -/
inductive Functor where
  | writeComplete
  | highWaterMark (size : Nat)
  | shutdownInLoop
  | forceCloseInLoop
  | startReadInLoop
  | stopReadInLoop
  | sendString (msg : Nat)
  | sendBuffer (buf : Nat)
  deriving DecidableEq, Repr

/-- The callback fields only record whether a callback is set. -/
structure TcpConnection where
  state : StateE
  reading : Bool
  socket : Socket
  channel : Channel
  writeCompleteCallback : Bool
  highWaterMarkCallback : Bool
  highWaterMark : Nat
  inputBuffer : Buffer
  outputBuffer : Buffer
  deriving DecidableEq, Repr

namespace TcpConnection

def create (writeCompleteCallback highWaterMarkCallback : Bool) : TcpConnection where
  state := .kConnecting
  reading := true
  socket := { accepted := [], shutdownAt := none }
  channel := .create
  writeCompleteCallback := writeCompleteCallback
  highWaterMarkCallback := highWaterMarkCallback
  highWaterMark := 1024 * 1024 * 64
  inputBuffer := .create Buffer.kInitialSize
  outputBuffer := .create Buffer.kInitialSize

def isConnected (conn : TcpConnection) : Bool := conn.state == .kConnected

def isDisconnected (conn : TcpConnection) : Bool := conn.state == .kDisconnected

def setState (conn : TcpConnection) (state : StateE) : TcpConnection := { conn with state }

/-- `Socket::shutdownWrite`. -/
def shutdownWrite (conn : TcpConnection) : TcpConnection :=
  { conn with socket.shutdownAt := conn.socket.shutdownAt <|> some conn.socket.accepted.length }

/-- The kernel takes `data`. -/
def accept (conn : TcpConnection) (data : List Byte) : TcpConnection :=
  { conn with socket.accepted := conn.socket.accepted ++ data }

/-- The fast path is open: nothing is buffered and no writable event is awaited. -/
def writesDirectly (conn : TcpConnection) : Bool :=
  !conn.channel.isWriting && conn.outputBuffer.readableBytes == 0

/-- What the direct write of `sendInLoop` leaves. -/
structure Direct where
  conn : TcpConnection
  nwrote : Nat
  faultError : Bool
  queued : List Functor

/-- The tests of `errno` after a failed direct write; a log statement stands
before each. -/
def isFaultError (log : Log) (errno : Errno) : Bool :=
  let errno := log.errnoAfter .kDEBUG errno
  if errno ≠ EWOULDBLOCK then
    let errno := log.errnoAfter .kERROR errno
    errno == EPIPE || errno == ECONNRESET
  else
    false

def writeDirect (log : Log) (conn : TcpConnection) (msg : List Byte)
    (answer : WriteAnswer) : Direct :=
  if conn.writesDirectly then
    match answer with
    | .wrote count =>
      let nwrote := min count msg.length
      { conn := conn.accept (msg.take nwrote)
        nwrote
        faultError := false
        queued := if msg.length - nwrote = 0 ∧ conn.writeCompleteCallback then
          [.writeComplete] else [] }
    | .failed errno => { conn, nwrote := 0, faultError := isFaultError log errno, queued := [] }
  else
    { conn, nwrote := 0, faultError := false, queued := [] }

/-- Put what the kernel did not take behind the data already buffered. -/
def bufferRemaining (conn : TcpConnection) (remaining : List Byte) :
    Checked (TcpConnection × List Functor) := do
  let oldLen := conn.outputBuffer.readableBytes
  let queued : List Functor :=
    if conn.highWaterMark ≤ oldLen + remaining.length ∧ oldLen < conn.highWaterMark ∧
        conn.highWaterMarkCallback then
      [.highWaterMark (oldLen + remaining.length)]
    else []
  let outputBuffer ← conn.outputBuffer.append remaining
  let channel ← if conn.channel.isWriting then pure conn.channel else conn.channel.enableWriting
  return ({ conn with outputBuffer, channel }, queued)

def sendInLoop (log : Log) (conn : TcpConnection) (msg : List Byte) (answer : WriteAnswer) :
    Checked (TcpConnection × List Functor) := do
  if conn.state = .kDisconnected then
    return (conn, [])
  else
    let direct := writeDirect log conn msg answer
    let remaining := msg.length - direct.nwrote
    check "remaining <= len" (remaining ≤ msg.length)
    if direct.faultError = false ∧ 0 < remaining then
      let (conn, queued) ← direct.conn.bufferRemaining (msg.drop direct.nwrote)
      return (conn, direct.queued ++ queued)
    else
      return (direct.conn, direct.queued)

/-- `send(const std::string &)` on the loop's thread. -/
def sendString (log : Log) (conn : TcpConnection) (msg : List Byte) (answer : WriteAnswer) :
    Checked (TcpConnection × List Functor) :=
  if conn.state = .kConnected then conn.sendInLoop log msg answer else .ok (conn, [])

/-- `send(const void *, int)` copies the bytes into a string first. -/
def sendBytes (log : Log) (conn : TcpConnection) (msg : List Byte) (answer : WriteAnswer) :
    Checked (TcpConnection × List Functor) :=
  conn.sendString log msg answer

/-- `send(Buffer *)` on the loop's thread, with the caller's buffer after the call.
The buffer is the caller's own or the connection's input buffer. -/
def sendBuffer (log : Log) (conn : TcpConnection) (buf : Buffer) (answer : WriteAnswer) :
    Checked (TcpConnection × List Functor × Buffer) := do
  if conn.state = .kConnected then
    let (conn, queued) ← conn.sendInLoop log buf.toString answer
    return (conn, queued, buf.retrieveAll)
  else
    return (conn, [], buf)

def shutdownInLoop (conn : TcpConnection) : TcpConnection :=
  if conn.channel.isWriting then conn else conn.shutdownWrite

/-- `shutdown()` on the loop's thread. -/
def shutdown (conn : TcpConnection) : TcpConnection :=
  if conn.state = .kConnected then (conn.setState .kDisconnecting).shutdownInLoop else conn

/-- The state is one in which the connection can still be closed. -/
def isOpen (conn : TcpConnection) : Bool :=
  conn.state == .kConnected || conn.state == .kDisconnecting

def forceClose (conn : TcpConnection) : TcpConnection × List Functor :=
  if conn.isOpen then (conn.setState .kDisconnecting, [.forceCloseInLoop]) else (conn, [])

/-- `handleClose` up to its callbacks: the connection callback and then the close
callback run with the connection this returns. -/
def handleClose (conn : TcpConnection) : Checked TcpConnection := do
  check "state_ == kConnected || state_ == kDisconnecting" (conn.isOpen = true)
  let channel ← conn.channel.disableAll
  return { conn.setState .kDisconnected with channel }

def handleWrite (conn : TcpConnection) (answer : WriteAnswer) :
    Checked (TcpConnection × List Functor) := do
  if conn.channel.isWriting then
    match answer with
    | .failed _ => return (conn, [])
    | .wrote count =>
      let n := min count conn.outputBuffer.readableBytes
      if 0 < n then
        let conn := conn.accept (conn.outputBuffer.toString.take n)
        let outputBuffer ← conn.outputBuffer.retrieve n
        let conn := { conn with outputBuffer }
        if outputBuffer.readableBytes = 0 then
          let channel ← conn.channel.disableWriting
          let conn := { conn with channel }
          let queued : List Functor := if conn.writeCompleteCallback then [.writeComplete] else []
          return (if conn.state = .kDisconnecting then conn.shutdownInLoop else conn, queued)
        else
          return (conn, [])
      else
        return (conn, [])
  else
    return (conn, [])

/-- `connectEstablished` up to the connection callback. -/
def connectEstablished (conn : TcpConnection) : Checked TcpConnection := do
  check "state_ == kConnecting" (conn.state = .kConnecting)
  let channel ← conn.channel.tie.enableReading
  return { conn.setState .kConnected with channel }

/-- What `connectDestroyed` does first with a connection that is still `kConnected`, up to
the connection callback. -/
def disconnect (conn : TcpConnection) : Checked TcpConnection := do
  let channel ← conn.channel.disableAll
  return { conn.setState .kDisconnected with channel }

/-- The end of `connectDestroyed`. -/
def removeChannel (conn : TcpConnection) : Checked TcpConnection := do
  let channel ← conn.channel.remove
  return { conn with channel }

/-- `handleRead` up to the message callback, with bytes that `readFd` reads
into the input buffer. -/
def receive (conn : TcpConnection) (data : List Byte) : Checked TcpConnection := do
  let (_, _, inputBuffer) ← conn.inputBuffer.readFd 0 (.delivered data)
  return { conn with inputBuffer }

def startReadInLoop (conn : TcpConnection) : Checked TcpConnection := do
  if !conn.reading || !conn.channel.isReading then
    let channel ← conn.channel.enableReading
    return { conn with channel, reading := true }
  else
    return conn

def stopReadInLoop (conn : TcpConnection) : Checked TcpConnection := do
  if conn.reading || conn.channel.isReading then
    let channel ← conn.channel.disableReading
    return { conn with channel, reading := false }
  else
    return conn

end TcpConnection

end FakeMuduo.Net
