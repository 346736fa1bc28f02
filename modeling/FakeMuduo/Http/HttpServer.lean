import FakeMuduo.Http.HttpContext
import FakeMuduo.Http.HttpResponse
import FakeMuduo.Net.BufferRead

/-! The server's side of one connection, with no worker threads: `ThreadPool::submit` then
runs its task at once. -/

namespace FakeMuduo.Http

open FakeMuduo.Base FakeMuduo.Net

/-- Calls made on the connection. -/
inductive ConnectionCall where
  | send (data : Text)
  | shutdown
  deriving DecidableEq, Repr

/-- User code with a state of its own, and what it leaves of the response. -/
abbrev HttpCallback (σ : Type) := σ → HttpRequest → HttpResponse → HttpResponse × σ

/-- A connection as the server sees it. `dispatched` are the requests given to the callback,
`calls` the calls made on the connection. -/
structure HttpSession (σ : Type) where
  userContext : HttpContext
  inputBuffer : Buffer
  user : σ
  dispatched : List HttpRequest
  calls : List ConnectionCall
  deriving DecidableEq, Repr

namespace HttpServer

variable {σ : Type}

def defaultHttpCallback : HttpCallback Unit := fun _ _ response =>
  ((response.setStatusCode .k404NotFound).setStatusMessage
    (ascii "Not Found") |>.setCloseConnection true, ())

def badRequest : List ConnectionCall :=
  [.send (ascii "HTTP/1.1 400 Bad Request\r\n\r\n"), .shutdown]

/-- A new connection in the state its connection callback leaves it in. -/
def onConnection (inputBuffer : Buffer) (user : σ) : HttpSession σ :=
  ⟨.new, inputBuffer, user, [], []⟩

def onRequestInThreadPool (httpCallback : HttpCallback σ) (session : HttpSession σ)
    (request : HttpRequest) :
    Checked (HttpSession σ) := do
  let connection := request.getHeader (ascii "Connection")
  let close := decide (connection = ascii "close" ∨ request.version = .kHttp10)
  let (response, user) := httpCallback session.user request (.new close)
  let buffer ← response.appendToBuffer (.create Buffer.kInitialSize)
  let answer := .send buffer.toString :: if response.closeConnection then [.shutdown] else []
  return { session with
    user, dispatched := session.dispatched ++ [request], calls := session.calls ++ answer }

def onRequest (httpCallback : HttpCallback σ) (session : HttpSession σ) (request : HttpRequest) :
    Checked (HttpSession σ) :=
  onRequestInThreadPool httpCallback session request

def onMessage (httpCallback : HttpCallback σ) (fuel : Nat) (session : HttpSession σ)
    (receivedTime : Int) :
    Checked (HttpSession σ) := do
  let (ok, context, buffer) ← session.userContext.parseRequest fuel session.inputBuffer receivedTime
  let refusal := if ok then [] else badRequest
  let session :=
    { session with
      userContext := context, inputBuffer := buffer, calls := session.calls ++ refusal }
  if context.isAllDone then do
    let (request, moved) := context.request.move
    let session ← onRequest httpCallback session request
    return { session with userContext := { context with request := moved }.reset }
  else return session

/-- `TcpConnection::handleRead` with a chunk that `readFd` reads into the input buffer. -/
def receive (httpCallback : HttpCallback σ) (fuel : Nat) (session : HttpSession σ)
    (arrival : Text × Int) :
    Checked (HttpSession σ) := do
  let (_, _, inputBuffer) ← session.inputBuffer.readFd 0 (.delivered arrival.1)
  onMessage httpCallback fuel { session with inputBuffer } arrival.2

def receiveAll (httpCallback : HttpCallback σ) (fuel : Nat) (session : HttpSession σ)
    (arrivals : List (Text × Int)) : Checked (HttpSession σ) :=
  arrivals.foldlM (receive httpCallback fuel) session

/-- No chunk is longer than what is writable when it is read. -/
def allFit (httpCallback : HttpCallback σ) (fuel : Nat) : HttpSession σ → List (Text × Int) → Bool
  | _, [] => true
  | session, arrival :: later =>
    decide (arrival.1.length ≤ session.inputBuffer.writableBytes) &&
      match receive httpCallback fuel session arrival with
      | .ok next => allFit httpCallback fuel next later
      | .error _ => true

end HttpServer

end FakeMuduo.Http
