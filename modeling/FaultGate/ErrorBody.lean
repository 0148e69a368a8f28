import FaultGate.Status
import FaultGate.Json.Text
import FaultGate.Text.Casing

/-!
# The JSON error body

What an API request is answered with when it fails: a code for machines, a message for people, the
request's id and, where there are any, details on single fields.
-/

namespace FaultGate

/-- The identifier of an error, of the form `SYS_SERVICE_ERROR` by convention. -/
structure ErrorCode where
  text : String
  deriving DecidableEq, Repr

/-- The code for an internal error of the named service. -/
def ErrorCode.internal (service : String) : ErrorCode :=
  ⟨"SYS_" ++ Text.upper service ++ "_INTERNAL_ERROR"⟩

/-- The code of the built-in maintenance fault. -/
def ErrorCode.maintainMode : ErrorCode :=
  ⟨"SYS_API_MAINTAIN_MODE"⟩

/-- The code of the built-in internal error. -/
def ErrorCode.internalError : ErrorCode :=
  .internal "API"

/-- What is wrong with one field of a request. -/
structure ErrorDetail where
  field : String
  reason : String
  message : String
  deriving DecidableEq, Repr

/-- The body of a failed API request. The status is any machine word: a fault of the application's
own may write there what it likes. -/
structure ErrorBody where
  code : ErrorCode
  status : UInt16
  message : String
  requestId : String
  details : List ErrorDetail
  deriving DecidableEq, Repr

namespace ErrorBody

/-- The HTTP status that the body is sent with: its own if that has three digits, else 500. -/
def httpStatus (body : ErrorBody) : Status :=
  (Status.ofNat? body.status.toNat).getD .internalServerError

def detailJson (d : ErrorDetail) : String :=
  Json.object [("field", Json.string d.field), ("reason", Json.string d.reason),
    ("message", Json.string d.message)]

/-- The members of the error object. Details are left out when there are none. -/
def members (body : ErrorBody) : List (String × String) :=
  [("code", Json.string body.code.text), ("status", Json.nat body.status.toNat),
    ("message", Json.string body.message), ("request_id", Json.string body.requestId)] ++
  if body.details.isEmpty then []
  else [("details", Json.array (body.details.map detailJson))]

/-- The JSON text of the body: an object whose single member `error` holds everything. -/
def json (body : ErrorBody) : String :=
  Json.object [("error", Json.object body.members)]

end ErrorBody

end FaultGate
