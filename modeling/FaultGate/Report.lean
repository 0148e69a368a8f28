import FaultGate.Fault
import FaultGate.Log

/-!
# Which faults are reported

Domain faults and maintenance signals are part of normal operation. An unknown error is reported,
unless its outermost text contains one of the texts that were set to be ignored.
-/

namespace FaultGate

/-- Do the characters occur one after the other somewhere in the given ones? -/
def occursIn (part : List Char) : List Char → Bool
  | [] => part.isEmpty
  | c :: rest => part.isPrefixOf (c :: rest) || occursIn part rest

/-- Does the text contain the other one? The empty text is contained in every text. -/
def containsText (text part : String) : Bool :=
  occursIn part.toList text.toList

/-- The texts whose occurrence keeps an unknown error out of the reports. -/
structure Reporter where
  ignored : List String
  deriving DecidableEq, Repr

namespace Reporter

def empty : Reporter := ⟨[]⟩

def ignoring (r : Reporter) (part : String) : Reporter :=
  ⟨r.ignored ++ [part]⟩

def shouldReport (r : Reporter) : Fault → Bool
  | .domain _ => false
  | .maintenance _ => false
  | .unknown e => !r.ignored.any (containsText e.outermost)

/-- What every record of a fault tells. -/
def about (ctx : RequestContext) (fault : Fault) : List (String × Log.Field) :=
  [("path", .text ctx.path), ("request_id", .text ctx.requestId), ("kind", .text fault.kind)]

/-- The record of an error that nobody foresaw, with all its causes. -/
def errorEvent (ctx : RequestContext) (e : ErrorChain) : Log.Event where
  level := .error
  origin := .reporter
  message := "unhandled fault"
  fields := about ctx (.unknown e) ++ [("error", .text ("Unknown(" ++ e.describe ++ ")"))]

/-- The note on a fault that is not reported. -/
def noteEvent (ctx : RequestContext) (fault : Fault) : Log.Event where
  level := .debug
  origin := .reporter
  message := "expected fault not reported"
  fields := about ctx fault ++ [("message", .text fault.message)]

/-- The event that records a fault: an error if it is to be reported, else a note for debugging. -/
def report (r : Reporter) (ctx : RequestContext) (fault : Fault) : Log.Event :=
  match fault with
  | .unknown e => if r.shouldReport fault then errorEvent ctx e else noteEvent ctx fault
  | _ => noteEvent ctx fault

end Reporter

end FaultGate
