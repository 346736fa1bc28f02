import FakeMuduo.Http.HttpRequest

namespace FakeMuduo.Http

open FakeMuduo.Base FakeMuduo.Net

inductive HttpStatusCode where
  | kInvalidStatus
  | k200OK
  | k301MovedPermanently
  | k400BadRequest
  | k404NotFound
  deriving DecidableEq, Repr

def HttpStatusCode.value : HttpStatusCode → Nat
  | .kInvalidStatus => 0
  | .k200OK => 200
  | .k301MovedPermanently => 301
  | .k400BadRequest => 400
  | .k404NotFound => 404

def Version.text : Version → Text
  | .kUnknownVersion => []
  | .kHttp10 => ascii "HTTP/1.0"
  | .kHttp11 => ascii "HTTP/1.1"
  | .kHttp20 => ascii "HTTP/2.0"

def versionToStr (version : Version) : Checked Text := do
  check "version != kUnknownVersion" (version ≠ .kUnknownVersion)
  return version.text

/-- The headers stand in the order in which the map iterates over them. -/
structure HttpResponse where
  version : Version
  statusCode : HttpStatusCode
  statusMessage : Text
  headers : HeaderMap
  closeConnection : Bool
  body : Text
  deriving DecidableEq, Repr

namespace HttpResponse

def new (close : Bool) : HttpResponse := ⟨.kUnknownVersion, .kInvalidStatus, [], [], close, []⟩

def setVersion (response : HttpResponse) (version : Version) : HttpResponse :=
  { response with version }

def setStatusCode (response : HttpResponse) (statusCode : HttpStatusCode) : HttpResponse :=
  { response with statusCode }

def setStatusMessage (response : HttpResponse) (statusMessage : Text) : HttpResponse :=
  { response with statusMessage }

def setCloseConnection (response : HttpResponse) (closeConnection : Bool) : HttpResponse :=
  { response with closeConnection }

def headerLines (headers : HeaderMap) : List Text :=
  headers.flatMap fun header => [header.1, ascii ": ", header.2, ascii "\r\n"]

/-- What `appendToBuffer` appends, call by call. -/
def pieces (response : HttpResponse) : Checked (List Text) := do
  let version ← versionToStr response.version
  let statusLine :=
    [snprintf 32 (version ++ ascii " " ++ decimal response.statusCode.value ++ ascii " "),
      response.statusMessage, ascii "\r\n"]
  let framing :=
    if response.closeConnection then [ascii "Connection: close\r\n"]
    else
      [snprintf 32 (ascii "Content-Length: " ++ decimal response.body.length ++ ascii "\r\n"),
        ascii "Connection: keep-alive\r\n"]
  return statusLine ++ framing ++ headerLines response.headers ++ [ascii "\r\n", response.body]

def appendToBuffer (response : HttpResponse) (outBuffer : Buffer) : Checked Buffer := do
  let pieces ← response.pieces
  pieces.foldlM Buffer.append outBuffer

end HttpResponse

end FakeMuduo.Http
