/-!
# What fault handling knows of a request

A request context holds the three facts about a request that the handling of a fault depends on.
A posture holds the one fact about the process.
-/

namespace FaultGate

/-- The facts about a request that fault handling depends on. -/
structure RequestContext where
  path : String
  /-- Did the caller ask for detailed errors? -/
  testMode : Bool
  requestId : String
  deriving DecidableEq, Repr

/-- Does the path begin with the given text? The comparison is of characters, so `/api` is the
beginning of `/apidocs` too. -/
def beginsWith (path start : String) : Bool :=
  start.toList.isPrefixOf path.toList

/-- Does the request fall under the API whose paths begin with `scope`? -/
def RequestContext.inScope (ctx : RequestContext) (scope : String) : Bool :=
  beginsWith ctx.path scope

/-- How open the process is about its own errors. -/
structure Posture where
  debug : Bool
  deriving DecidableEq, Repr

/-- May an unknown error be shown as a JSON body? -/
def Posture.discloses (posture : Posture) (ctx : RequestContext) : Bool :=
  posture.debug || ctx.testMode

/-- What a test-mode input means: only the empty text and `0` are false. -/
def flagValue (value : String) : Bool :=
  value ≠ "" && value ≠ "0"

end FaultGate
