import FaultGate.Form
import FaultGate.Http.Message
import FaultGate.Json.Value
import FaultGate.Number.Reading

/-!
# What fault handling reads out of a request

The context of a request is read from its target, its headers and, where it is announced as a
short form or JSON document, its body. Test mode is asked for by a header, or by an input that
may stand in the body or in the query; the body's input counts before the query's, and the
header counts whatever the inputs say. A body that was read is put back as it was.
-/

namespace FaultGate.Inspection

open FaultGate.Http (Bytes Request Response)

def testModeInput : String := "__test_mode"

/-- The header that asks for test mode. -/
def testModeHeader : String := "x-test-mode"

/-- The header that carries the id of a request. -/
def requestIdHeader : String := "x-request-id"

/-- The greatest length of a body that is read. -/
def maxBody : Nat := 64 * 1024

/-- The encodings that a body is read in. -/
inductive Format where
  | form
  | json
  deriving DecidableEq, Repr

/-- The length that the request announces for its body. -/
def announcedLength? (r : Request) : Option Nat :=
  (r.headerText? "content-length").bind fun text => Number.unsigned? UInt64.size text.toList

/-- A text without the spaces and tabs at its ends. -/
def trimmed (text : List Char) : List Char :=
  let isGap (c : Char) : Bool := c = ' ' || c = '\t'
  ((text.dropWhile isGap).reverse.dropWhile isGap).reverse

/-- The media type in a content type, in lower case and without its parameters. -/
def mediaType (contentType : String) : String :=
  String.ofList ((trimmed (contentType.toList.takeWhile (· ≠ ';'))).map Char.toLower)

/-- The encoding that a media type means for a body that is read. -/
def formatOf? (media : String) : Option Format :=
  if media = "application/x-www-form-urlencoded" then some .form
  else if media = "application/json" || "+json".toList.isSuffixOf media.toList then some .json
  else none

/-- The encoding in which the body of a request is read, if it is. -/
def format? (r : Request) : Option Format :=
  match announcedLength? r with
  | none => none
  | some n =>
    if n = 0 || maxBody < n then none
    else (r.headerText? "content-type").bind fun text => formatOf? (mediaType text)

/-- What a JSON value means as a test-mode input. -/
def jsonFlag : Json.Value → Bool
  | .null => false
  | .bool b => b
  | .number n => !n.isZero
  | .string s => flagValue s
  | .array items => !items.isEmpty
  | .object _ => true

/-- The test-mode input in a form: the first one counts. -/
def formFlag? (body : Bytes) : Option Bool :=
  ((Form.decode body).lookup testModeInput).map flagValue

/-- The test-mode input in a JSON document, which must be an object. -/
def jsonFlag? (body : Bytes) : Option Bool :=
  ((Json.Value.ofBytes? body).bind (·.member? testModeInput)).map jsonFlag

def bodyFlag? (format : Format) (body : Bytes) : Option Bool :=
  match format with
  | .form => formFlag? body
  | .json => jsonFlag? body

/-- The test-mode input in the query: the last one counts. -/
def queryFlag? (r : Request) : Option Bool :=
  match r.uri.query with
  | none => none
  | some query =>
    ((Form.decode (Text.utf8 query)).reverse.lookup testModeInput).map flagValue

/-- Does a header ask for test mode? -/
def headerFlag (r : Request) : Bool :=
  match r.headerText? testModeHeader with
  | some value => flagValue value
  | none => false

def carriedId? (r : Request) : Option String :=
  (r.headerText? requestIdHeader).filter fun id => !id.isEmpty

/-- The context of a request whose input is the given one. A request that carries no id gets the
fresh one. -/
def contextWith (freshId : String) (r : Request) (input : Option Bool) : RequestContext where
  path := r.uri.path
  testMode := input.getD false || headerFlag r
  requestId := (carriedId? r).getD freshId

/-- The context of a request whose body is left alone. -/
def context (freshId : String) (r : Request) : RequestContext :=
  contextWith freshId r (queryFlag? r)

/-- What comes of inspecting a request. -/
inductive Result where
  /-- The body is longer than what may be read. -/
  | rejected (event : Log.Event)
  /-- The context, and the request that is passed on. -/
  | accepted (ctx : RequestContext) (request : Request)

/-- Reads a whole body that is no longer than the limit. -/
def readBody? (limit : Nat) (body : Bytes) : Option Bytes :=
  if body.length ≤ limit then some body else none

/-- The note on a body that cannot be read. -/
def rejectionEvent (r : Request) : Log.Event where
  level := .debug
  origin := .handler
  message := "failed to read request body"
  fields := [("error", .text "length limit exceeded"), ("path", .text r.uri.path)]

def read (freshId : String) (r : Request) : Result :=
  match format? r with
  | none => .accepted (context freshId r) r
  | some format =>
    match readBody? maxBody r.body with
    | none => .rejected (rejectionEvent r)
    | some bytes =>
      let restored := { r with body := bytes }
      let input := (bodyFlag? format bytes).or (queryFlag? restored)
      .accepted (contextWith freshId restored input) restored

/-- The response to a request that is rejected. -/
def rejection : Response := .bare .badRequest

end FaultGate.Inspection
