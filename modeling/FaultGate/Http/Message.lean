import FaultGate.Fault
import FaultGate.Http.Uri
import FaultGate.Log
import FaultGate.Text.Utf8

/-!
# Requests, responses and services

A service answers a request, may change its own state in doing so, and tells what it logged. A
response may carry a fault that is still to be presented; whoever sends a response without
presenting its fault sends the bare response.
-/

namespace FaultGate.Http

abbrev Bytes := List UInt8

/-- A request. The names of headers are in lower case. -/
structure Request where
  method : String
  uri : Uri
  headers : List (String × Bytes)
  body : Bytes
  deriving DecidableEq, Repr

structure Response where
  status : Status
  headers : List (String × String)
  body : Bytes
  /-- A fault that is still to be presented. -/
  parked : Option Fault

/-- What comes of a request: the response, what was logged, oldest first, and the state
afterwards. -/
structure Reply (σ : Type) where
  response : Response
  events : List Log.Event
  state : σ

abbrev Service (σ : Type) := Request → σ → Reply σ

namespace Request

/-- May the byte stand in the value of a header? -/
def isValueByte (b : UInt8) : Bool :=
  b = 9 || (0x20 ≤ b && b ≠ 0x7f)

/-- Is the byte a visible one, a space or a tab? -/
def isVisibleByte (b : UInt8) : Bool :=
  b = 9 || (0x20 ≤ b && b < 0x7f)

def header? (r : Request) (name : String) : Option Bytes :=
  r.headers.lookup name

/-- The first value of a header as a text, if it is of visible characters. -/
def headerText? (r : Request) (name : String) : Option String :=
  match r.header? name with
  | some bytes =>
    if bytes.all isVisibleByte then some (String.ofList (bytes.map fun b => Char.ofNat b.toNat))
    else none
  | none => none

/-- Which part of a request is malformed. -/
inductive Malformed where
  | method
  | uri
  | headerName
  | headerValue
  deriving DecidableEq, Repr

def isToken (text : String) : Bool :=
  !text.isEmpty && text.toList.all isTokenChar

/-- The headers with their names in lower case. -/
def readHeaders : List (String × Bytes) → Except Malformed (List (String × Bytes))
  | [] => .ok []
  | (name, value) :: rest =>
    if !isToken name then .error .headerName
    else if !value.all isValueByte then .error .headerValue
    else (readHeaders rest).map ((String.ofList (name.toList.map Char.toLower), value) :: ·)

/-- The request with the given parts, if they are well-formed. -/
def ofParts (method uri : String) (headers : List (String × Bytes)) (body : Bytes) :
    Except Malformed Request :=
  if !isToken method then .error .method
  else
    match Uri.ofText? uri with
    | none => .error .uri
    | some uri => (readHeaders headers).map fun headers => { method, uri, headers, body }

end Request

namespace Response

/-- A response that is nothing but a status. -/
def bare (status : Status) : Response where
  status := status
  headers := []
  body := []
  parked := none

def text (status : Status) (s : String) : Response where
  status := status
  headers := [("content-type", "text/plain; charset=utf-8")]
  body := Text.utf8 s
  parked := none

def json (status : Status) (s : String) : Response where
  status := status
  headers := [("content-type", "application/json")]
  body := Text.utf8 s
  parked := none

/-- A response with bytes of any kind. -/
def bytes (status : Status) (body : Bytes) : Response where
  status := status
  headers := [("content-type", "application/octet-stream")]
  body := body
  parked := none

/-- The response that an error body is sent as. -/
def ofErrorBody (body : ErrorBody) : Response :=
  json body.httpStatus body.json

/-- A bare response with a fault that is still to be presented. -/
def park (fault : Fault) : Response :=
  { bare .internalServerError with parked := some fault }

def header? (r : Response) (name : String) : Option String :=
  r.headers.lookup name

/-- The response with a header that it does not have yet. -/
def withHeader (r : Response) (name value : String) : Response :=
  { r with headers := r.headers ++ [(name, value)] }

/-- The response with nothing in its body. -/
def withoutBody (r : Response) : Response :=
  { r with body := [] }

/-- The response with a list of the methods that are allowed, unless it has one. -/
def listing (r : Response) (methods : Option String) : Response :=
  match methods with
  | none => r
  | some methods => if (r.header? "allow").isSome then r else r.withHeader "allow" methods

/-- The response as it is sent for a method. A tunnel that is accepted has no body and lists no
methods. Where only headers were asked for there is no body either, unless it is to be kept. The
header with the length of the body is left to the transport. -/
def forMethod (r : Response) (method : String) (methods : Option String) (keepBody : Bool) :
    Response :=
  if method = "CONNECT" && r.status.isSuccess then r.withoutBody
  else if method = "HEAD" && !keepBody then (r.listing methods).withoutBody
  else r.listing methods

end Response

/-- A reply that logs nothing and leaves the state as it is. -/
def Reply.quiet {σ : Type} (response : Response) (state : σ) : Reply σ :=
  ⟨response, [], state⟩

end FaultGate.Http
