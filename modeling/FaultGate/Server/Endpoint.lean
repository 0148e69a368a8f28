import FaultGate.Server.Basic
import FaultGate.Server.Toggle

/-!
# The endpoints of the demonstration server

Each endpoint answers the requests of one route and method. An endpoint that fails parks its
fault and leaves the rest to the layers around it.
-/

namespace FaultGate.Server

open FaultGate.Http (Reply Response Service)

/-- The things that the server can be asked for. -/
inductive Endpoint where
  | health
  | maintenanceStatus
  | switchMaintenance
  | ping
  | quota
  | crash
  deriving DecidableEq, Repr

namespace Endpoint

/-- The answer that tells whether the service is under maintenance. -/
def statusResponse (on : Bool) : Response :=
  .json .ok (Json.object [(Toggle.memberName, Json.bool on)])

/-- The answer that tells that the server is alive. -/
def healthResponse : Response :=
  .json .ok (Json.object [("service", Json.string "stub-api"), ("status", Json.string "ok")])

def pingResponse : Response :=
  .json .ok (Json.object [("message", Json.string "pong")])

/-- The message of the fault that a used-up quota is. -/
def quotaMessage : String := "daily request quota exceeded"

/-- The error that the failing endpoint meets. -/
def crashError : ErrorChain :=
  ⟨"failed to load orders", ["upstream connection reset"]⟩

def switchedEvent (on : Bool) : Log.Event where
  level := .info
  origin := .endpoints
  message := "maintenance mode updated"
  fields := [("enabled", .flag on)]

/-- The event that the kind of fault cannot be constructed. -/
def misconfiguredEvent (e : RegistryError) : Log.Event where
  level := .error
  origin := .endpoints
  message := "exception kind misconfigured"
  fields := [("error", .text e.message)]

def answer (server : Server) : Endpoint → Service Condition
  | .health => fun _ c => .quiet healthResponse c
  | .maintenanceStatus => fun _ c => .quiet (statusResponse (server.switch.isOn c)) c
  | .switchMaintenance => fun request c =>
    match Toggle.ofRequest request with
    | .error refusal => .quiet refusal.response c
    | .ok on =>
      let c := c.switched on
      ⟨statusResponse (server.switch.isOn c), [switchedEvent on], c⟩
  | .ping => fun _ c => .quiet pingResponse c
  | .quota => fun _ c =>
    match server.registry.instantiate quotaExceeded quotaMessage with
    | .ok fault => .quiet (.park (.domain fault)) c
    | .error e => ⟨.bare .internalServerError, [misconfiguredEvent e], c⟩
  | .crash => fun _ c => .quiet (.park (.unknown crashError)) c

end Endpoint

end FaultGate.Server
