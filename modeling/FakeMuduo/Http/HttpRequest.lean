import FakeMuduo.Base.Text
import FakeMuduo.Net.Buffer
import Mathlib.Data.List.DropRight

namespace FakeMuduo.Http

open FakeMuduo.Base FakeMuduo.Net

/-- `isspace` of the C locale. -/
def isspace (byte : Byte) : Bool := decide (9 ≤ byte ∧ byte ≤ 13 ∨ byte = 32)

inductive Version where
  | kUnknownVersion
  | kHttp10
  | kHttp11
  | kHttp20
  deriving DecidableEq, Repr

inductive Method where
  | kInvalidMethod
  | kGet
  | kPost
  | kHead
  | kPut
  | kDelete
  deriving DecidableEq, Repr

def Method.text : Method → Text
  | .kInvalidMethod => ascii "UNKNOWN"
  | .kGet => ascii "GET"
  | .kPost => ascii "POST"
  | .kHead => ascii "HEAD"
  | .kPut => ascii "PUT"
  | .kDelete => ascii "DELETE"

/-- One entry for each field. -/
abbrev HeaderMap := List (Text × Text)

/-- `headers_[field] = value`. -/
def HeaderMap.assign (field value : Text) : HeaderMap → HeaderMap
  | [] => [(field, value)]
  | (name, old) :: rest =>
    if name = field then (name, value) :: rest else (name, old) :: HeaderMap.assign field value rest

def HeaderMap.find (headers : HeaderMap) (field : Text) : Option Text :=
  (List.find? (fun entry => entry.1 == field) headers).map Prod.snd

structure HttpRequest where
  method : Method
  version : Version
  path : Text
  query : Text
  receivedTime : Int
  headers : HeaderMap
  deriving DecidableEq, Repr

namespace HttpRequest

def new : HttpRequest := ⟨.kInvalidMethod, .kUnknownVersion, [], [], 0, []⟩

def methodOf (text : Text) : Method :=
  if text = ascii "GET" then .kGet
  else if text = ascii "POST" then .kPost
  else if text = ascii "HEAD" then .kHead
  else if text = ascii "PUT" then .kPut
  else if text = ascii "DELETE" then .kDelete
  else .kInvalidMethod

def setMethod (request : HttpRequest) (text : Text) : Bool × HttpRequest :=
  (decide (methodOf text ≠ .kInvalidMethod), { request with method := methodOf text })

def methodToString (request : HttpRequest) : Text := request.method.text

def setPath (request : HttpRequest) (path : Text) : HttpRequest := { request with path }

def setQuery (request : HttpRequest) (query : Text) : HttpRequest := { request with query }

def setVersion (request : HttpRequest) (version : Version) : HttpRequest := { request with version }

def setReceivedTime (request : HttpRequest) (receivedTime : Int) : HttpRequest :=
  { request with receivedTime }

/-- `rest` is what follows the colon. -/
def addHeader (request : HttpRequest) (field rest : Text) : HttpRequest :=
  { request with
    headers := request.headers.assign field ((rest.dropWhile isspace).rdropWhile isspace) }

def getHeader (request : HttpRequest) (field : Text) : Text := (request.headers.find field).getD []

/-- The move constructor: the new request, and what it leaves of the old one. -/
def move (request : HttpRequest) : HttpRequest × HttpRequest :=
  (request, ⟨.kInvalidMethod, .kUnknownVersion, [], [], request.receivedTime, []⟩)

def clear (request : HttpRequest) : HttpRequest :=
  { request with
    method := .kInvalidMethod, version := .kUnknownVersion, path := [], query := [], headers := [] }

end HttpRequest

end FakeMuduo.Http
