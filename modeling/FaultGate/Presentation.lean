import FaultGate.Http.Message

/-!
# The host's own presentation of faults

What a fault is answered with when it is not answered with a JSON body. A host may bring a
presentation of its own; the plain one tells as little as it can, and shows the text of an unknown
error in debug posture only.
-/

namespace FaultGate

open FaultGate.Http (Response)

abbrev Presentation := RequestContext → Posture → Fault → Response

namespace Presentation

/-- The text that an unknown error is answered with. -/
def unknownText (posture : Posture) (e : ErrorChain) : String :=
  if posture.debug then e.describe else "Internal Server Error"

def plain : Presentation := fun ctx posture fault =>
  match fault with
  | .maintenance signal =>
    let response := Response.text .serviceUnavailable "Service Unavailable"
    match signal.retryAfter with
    | some seconds => response.withHeader "retry-after" (Nat.repr seconds.toNat)
    | none => response
  | .domain f => .text (f.body ctx).httpStatus f.message
  | .unknown e => .text .internalServerError (unknownText posture e)

end Presentation

end FaultGate
