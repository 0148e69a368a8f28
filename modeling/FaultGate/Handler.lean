import FaultGate.Inspection
import FaultGate.Presentation
import FaultGate.Report
import FaultGate.Resolver

/-!
# The layer that handles faults

Around a service, this layer inspects each request, lets the service answer it, and presents the
fault that the answer carries, if it carries one. The fault is reported first and resolved after
that. When it cannot be resolved, the client learns nothing but that, and the event tells the
rest.
-/

namespace FaultGate

open FaultGate.Http (Reply Request Response Service)

/-- All that decides how faults are reported and answered. -/
structure FaultHandler where
  resolver : Resolver
  posture : Posture
  reporter : Reporter
  presentation : Presentation

namespace FaultHandler

/-- The handler with the plain presentation that ignores no texts. -/
def plain (resolver : Resolver) (posture : Posture) : FaultHandler where
  resolver := resolver
  posture := posture
  reporter := .empty
  presentation := .plain

/-- The answer to a fault, unless it cannot be resolved. -/
def answer (h : FaultHandler) (ctx : RequestContext) (fault : Fault) :
    Except RegistryError Response :=
  match h.resolver.render ctx h.posture fault with
  | .ok (.json body) => .ok (.ofErrorBody body)
  | .ok (.delegate fault) => .ok (h.presentation ctx h.posture fault)
  | .error e => .error e

/-- Handles a fault: its answer, and the events of reporting it. -/
def handle (h : FaultHandler) (ctx : RequestContext) (fault : Fault) :
    Except RegistryError Response × List Log.Event :=
  (h.answer ctx fault, [h.reporter.report ctx fault])

/-- The event that a fault could not be resolved. -/
def misconfiguredEvent (ctx : RequestContext) (e : RegistryError) : Log.Event where
  level := .error
  origin := .handler
  message := "exception handler misconfigured"
  fields := [("error", .text e.message), ("path", .text ctx.path),
    ("request_id", .text ctx.requestId)]

/-- Presents the fault that a reply carries, if it carries one. -/
def settle {σ : Type} (h : FaultHandler) (ctx : RequestContext) (reply : Reply σ) : Reply σ :=
  match reply.response.parked with
  | none => reply
  | some fault =>
    match h.handle ctx fault with
    | (.ok response, events) => { reply with response, events := reply.events ++ events }
    | (.error e, events) =>
      { reply with
        response := .bare .internalServerError
        events := reply.events ++ events ++ [misconfiguredEvent ctx e] }

/-- Puts the layer around a service. The fresh id is for a request that carries none. -/
def layer {σ : Type} (h : FaultHandler) (inner : Service σ) (freshId : String) : Service σ :=
  fun request state =>
    match Inspection.read freshId request with
    | .rejected event => ⟨Inspection.rejection, [event], state⟩
    | .accepted ctx request => h.settle ctx (inner request state)

end FaultHandler

end FaultGate
