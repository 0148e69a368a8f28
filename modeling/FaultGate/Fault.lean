import FaultGate.Context
import FaultGate.ErrorBody

/-!
# Faults

What can go wrong while a request is served: a fault of the application's own domain, which knows
the body it is answered with; the signal that the service is under maintenance; or an error that
nobody foresaw, known only by its text and the texts of its causes.
-/

namespace FaultGate

/-- The name of the built-in kind for maintenance. -/
def maintainModeKind : String := "MaintainMode"

/-- The name of the built-in kind for internal errors. -/
def serverInternalErrorKind : String := "ServerInternalError"

/-- An error with its causes, from the outermost text to the root. -/
structure ErrorChain where
  outermost : String
  causes : List String
  deriving DecidableEq, Repr

namespace ErrorChain

/-- The lines of a text: what stands between line feeds, so always one line at least. -/
def lines (s : String) : List (List Char) :=
  s.toList.foldr
    (fun c done =>
      match done with
      | [] => [[c]]
      | line :: rest => if c = '\n' then [] :: line :: rest else (c :: line) :: rest)
    [[]]

/-- A text with `lead` before its first line and `indent` before each further one. -/
def indented (lead indent : String) (s : String) : String :=
  match lines s with
  | [] => lead
  | first :: rest =>
    lead ++ String.ofList first ++
      String.join (rest.map fun line => "\n" ++ indent ++ String.ofList line)

/-- A number in a column of five places, followed by a colon and a space. -/
def ordinal (n : Nat) : String :=
  "".pushn ' ' (5 - (Nat.repr n).length) ++ Nat.repr n ++ ": "

/-- The whole chain in words. A single cause is indented; several are numbered from zero. -/
def describe (e : ErrorChain) : String :=
  match e.causes with
  | [] => e.outermost
  | [cause] => e.outermost ++ "\n\nCaused by:\n" ++ indented "    " "    " cause
  | causes =>
    e.outermost ++ "\n\nCaused by:\n" ++
      String.intercalate "\n"
        (causes.mapIdx fun n cause => indented (ordinal n) "       " cause)

end ErrorChain

/-- The signal that the service is under maintenance. -/
structure MaintenanceSignal where
  /-- After how many seconds the caller may try again. -/
  retryAfter : Option UInt64
  deriving DecidableEq, Repr

structure DomainFault where
  /-- The kind it is registered under. -/
  kind : String
  message : String
  /-- How it names itself in a log. -/
  display : String
  body : RequestContext → ErrorBody

/-- Anything that can go wrong while a request is served. -/
inductive Fault where
  | domain (fault : DomainFault)
  | maintenance (signal : MaintenanceSignal)
  | unknown (error : ErrorChain)

namespace Fault

def maintenanceText : String := "service is in maintenance mode"

def isDomain : Fault → Bool
  | .domain _ => true
  | _ => false

def isMaintenance : Fault → Bool
  | .maintenance _ => true
  | _ => false

def kind : Fault → String
  | .domain f => f.kind
  | .maintenance _ => "maintenance"
  | .unknown _ => "unknown"

/-- The fault's message. Of an unknown error it is the outermost text alone. -/
def message : Fault → String
  | .domain f => f.message
  | .maintenance _ => maintenanceText
  | .unknown e => e.outermost

def display : Fault → String
  | .domain f => f.display
  | .maintenance _ => maintenanceText
  | .unknown e => e.outermost

end Fault

/-- A domain fault that is declared by a name, a code and a status. -/
structure ApiFault where
  kind : String
  code : ErrorCode
  status : Status
  message : String
  details : List ErrorDetail
  deriving DecidableEq, Repr

namespace ApiFault

/-- The body of a declared fault holds the request's id and depends on nothing else of the
request. -/
def body (f : ApiFault) (ctx : RequestContext) : ErrorBody where
  code := f.code
  status := f.status.toUInt16
  message := f.message
  requestId := ctx.requestId
  details := f.details

/-- A declared fault as a domain fault. -/
def toDomain (f : ApiFault) : DomainFault where
  kind := f.kind
  message := f.message
  display := f.kind ++ ": " ++ f.message
  body := f.body

def toFault (f : ApiFault) : Fault :=
  .domain f.toDomain

def maintainMode (message : String) : ApiFault where
  kind := maintainModeKind
  code := .maintainMode
  status := .serviceUnavailable
  message := message
  details := []

def serverInternalError (message : String) : ApiFault where
  kind := serverInternalErrorKind
  code := .internalError
  status := .internalServerError
  message := message
  details := []

end ApiFault

end FaultGate
