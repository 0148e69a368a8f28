/-!
# Log events

An operation that logs returns its events as data, oldest first, beside its result. What is done
with them (filtered, printed, counted) is the caller's choice.
-/

namespace FaultGate.Log

inductive Level where
  | trace
  | debug
  | info
  | warn
  | error
  deriving DecidableEq, Repr

/-- The level in capitals, as log lines write it. -/
def Level.name : Level → String
  | .trace => "TRACE"
  | .debug => "DEBUG"
  | .info => "INFO"
  | .warn => "WARN"
  | .error => "ERROR"

/-- The part of the program that an event comes from. -/
inductive Origin where
  | server
  | endpoints
  | registry
  | reporter
  /-- The handling of parked faults and the reading of request bodies. -/
  | handler
  | maintenance
  deriving DecidableEq, Repr

/-- The dotted path that log lines and log filters name an origin by. -/
def Origin.target : Origin → String
  | .server => "k1s0_stub_api_server"
  | .endpoints => "k1s0_stub_api_server::adapter::handler::api_handler"
  | .registry => "k1s0_exception_handler::registry"
  | .reporter => "k1s0_exception_handler::report"
  | .handler => "k1s0_exception_handler::middleware"
  | .maintenance => "k1s0_exception_handler::maintenance"

/-- What a field of an event holds. -/
inductive Field where
  | text (s : String)
  | flag (b : Bool)
  deriving DecidableEq, Repr

def Field.render : Field → String
  | .text s => s
  | .flag true => "true"
  | .flag false => "false"

/-- One log event. The fields keep the order in which they were recorded. -/
structure Event where
  level : Level
  origin : Origin
  message : String
  fields : List (String × Field)
  deriving DecidableEq, Repr

end FaultGate.Log
