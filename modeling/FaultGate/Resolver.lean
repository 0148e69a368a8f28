import FaultGate.Registry

/-!
# How a fault is answered

For one request and one fault the resolver decides between a JSON body and the host's own
rendering. Outside the API scope the host renders. Inside it a domain fault supplies its own
body; a maintenance signal is first replaced by the kind bound to maintenance; an unknown error
stays with the host unless it may be disclosed, and is then replaced by the kind bound to
internal errors, so that no text of the error itself ever gets into a JSON body.
-/

namespace FaultGate

/-- What becomes of a fault. -/
inductive Outcome where
  /-- The host renders the fault. -/
  | delegate (fault : Fault)
  /-- The request is answered with the body. -/
  | json (body : ErrorBody)

/-- A registry, and the text that the paths of the API begin with. -/
structure Resolver where
  registry : Registry
  scope : String

namespace Resolver

/-- The scope of a resolver for which none was chosen. -/
def defaultScope : String := "/api"

/-- The message of a fault that stands in for a maintenance signal. -/
def maintenanceMessage : String := "Maintaining"

/-- The message of a fault that stands in for an unknown error. -/
def internalErrorMessage : String := "Something went wrong."

/-- The fault that stands in for a role. -/
def substitute (r : Resolver) (role : Role) (message : String) :
    Except RegistryError DomainFault :=
  r.registry.instantiate (r.registry.resolveRole role) message

/-- One pass over a fault: its body, or `none` when it is an unknown error and so has none. -/
def evaluate (r : Resolver) (ctx : RequestContext) :
    Fault → Except RegistryError (Option ErrorBody)
  | .maintenance _ =>
    (r.substitute .maintenance maintenanceMessage).map fun f => some (f.body ctx)
  | .domain f => .ok (some (f.body ctx))
  | .unknown _ => .ok none

/-- Decides what becomes of a fault. The only errors are those of a kind that cannot stand in. -/
def render (r : Resolver) (ctx : RequestContext) (posture : Posture) (fault : Fault) :
    Except RegistryError Outcome :=
  if !ctx.inScope r.scope then .ok (.delegate fault)
  else
    match r.evaluate ctx fault with
    | .error e => .error e
    | .ok (some body) => .ok (.json body)
    | .ok none =>
      if !posture.discloses ctx then .ok (.delegate fault)
      else
        match r.substitute .serverInternalError internalErrorMessage with
        | .error e => .error e
        | .ok substitute =>
          match r.evaluate ctx (.domain substitute) with
          | .error e => .error e
          | .ok (some body) => .ok (.json body)
          | .ok none => .error (.unresolvable substitute.kind .notRendered)

end Resolver

end FaultGate
