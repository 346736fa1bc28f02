import FakeMuduo.Http.HttpRequest

namespace FakeMuduo.Http

open FakeMuduo.Base FakeMuduo.Net

inductive HttpRequestParseState where
  | kParseRequestLine
  | kParseHeaders
  | kParseBody
  | kAllDone
  deriving DecidableEq, Repr

structure HttpContext where
  state : HttpRequestParseState
  request : HttpRequest
  deriving DecidableEq, Repr

/-- What `std::find` leaves before the first such byte. -/
def upTo (byte : Byte) (text : Text) : Text := text.takeWhile (· != byte)

/-- The text from the first such byte on, empty if there is none. -/
def startingAt (byte : Byte) (text : Text) : Text := text.dropWhile (· != byte)

namespace HttpContext

def new : HttpContext := ⟨.kParseRequestLine, .new⟩

def isAllDone (context : HttpContext) : Bool := decide (context.state = .kAllDone)

def reset (context : HttpContext) : HttpContext := ⟨.kParseRequestLine, context.request.clear⟩

/-- The protocol field, which ends the request line. -/
def processVersion (request : HttpRequest) (text : Text) : Bool × HttpRequest :=
  if text.length = 8 ∧ text.take 5 = ascii "HTTP/" ∧ text[6]? = some 46 then
    if text[5]? = some 49 ∧ text[7]? = some 49 then (true, request.setVersion .kHttp11)
    else if text[5]? = some 49 ∧ text[7]? = some 48 then (true, request.setVersion .kHttp10)
    else if text[5]? = some 50 ∧ text[7]? = some 48 then (true, request.setVersion .kHttp20)
    else (false, request)
  else (false, request)

/-- The target, with its query from the question mark on. -/
def processTarget (request : HttpRequest) (target : Text) : HttpRequest :=
  let query := startingAt 63 target
  let request := request.setPath (upTo 63 target)
  if query ≠ [] then request.setQuery query else request

/-- What is set before the line turns out to be malformed stays set. -/
def processRequestLine (request : HttpRequest) (line : Text) : Bool × HttpRequest :=
  match startingAt 32 line with
  | [] => (false, request)
  | _ :: rest =>
    let (known, request) := request.setMethod (upTo 32 line)
    if known then
      match startingAt 32 rest with
      | [] => (false, request)
      | _ :: protocol => processVersion (processTarget request (upTo 32 rest)) protocol
    else (false, request)

/-- The loop of `parseRequest`, for at most `fuel` rounds. A rejected request line and a
context that is done leave the buffer as it is, and the loop goes on. -/
def parseLoop (receivedTime : Int) : Nat → Bool → HttpContext → Buffer →
    Checked (Bool × HttpContext × Buffer)
  | 0, _, _, _ => .error .outOfFuel
  | fuel + 1, ok, context, buffer =>
    match context.state with
    | .kParseRequestLine =>
      match buffer.findCRLF with
      | some crlf =>
        let (ok, request) :=
          processRequestLine context.request (window buffer.buffer buffer.peek (crlf - buffer.peek))
        if ok then do
          let buffer ← buffer.retrieveUntil (crlf + 2)
          parseLoop receivedTime fuel ok
            ⟨.kParseHeaders, request.setReceivedTime receivedTime⟩ buffer
        else parseLoop receivedTime fuel false { context with request } buffer
      | none => .ok (ok, context, buffer)
    | .kParseHeaders =>
      match buffer.findCRLF with
      | some crlf =>
        let line := window buffer.buffer buffer.peek (crlf - buffer.peek)
        match startingAt 58 line with
        | _ :: rest => do
          let context := { context with request := context.request.addHeader (upTo 58 line) rest }
          let buffer ← buffer.retrieveUntil (crlf + 2)
          parseLoop receivedTime fuel ok context buffer
        | [] => do
          let buffer ← buffer.retrieveUntil (crlf + 2)
          return (ok, { context with state := .kAllDone }, buffer)
      | none => .ok (ok, context, buffer)
    | .kParseBody | .kAllDone => parseLoop receivedTime fuel ok context buffer

def parseRequest (fuel : Nat) (context : HttpContext) (buffer : Buffer) (receivedTime : Int) :
    Checked (Bool × HttpContext × Buffer) :=
  parseLoop receivedTime fuel true context buffer

end HttpContext

end FakeMuduo.Http
