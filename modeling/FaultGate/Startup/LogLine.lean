import FaultGate.Json.Text
import FaultGate.Log

/-!
# Log lines

An event is written as a line of text or as a JSON object.
-/

namespace FaultGate.Log

inductive Format where
  | text
  | json
  deriving DecidableEq, Repr

/-- The form that is meant by a name: every other name than that of the text form means JSON. -/
def Format.ofName (name : String) : Format :=
  if name = "text" then .text else .json

def Field.json : Field → String
  | .text s => Json.string s
  | .flag b => Json.bool b

namespace Event

/-- The event as a line of text. -/
def textLine (e : Event) : String :=
  e.level.name ++ " " ++ e.origin.target ++ ": " ++ e.message ++
    String.join (e.fields.map fun f => " " ++ f.1 ++ "=" ++ f.2.render)

def jsonLine (e : Event) : String :=
  Json.object [("level", Json.string e.level.name),
    ("fields", Json.object (("message", Json.string e.message) ::
      e.fields.map fun f => (f.1, f.2.json))),
    ("target", Json.string e.origin.target)]

/-- The event as a line of the given form. -/
def line (format : Format) (e : Event) : String :=
  match format with
  | .text => e.textLine
  | .json => e.jsonLine

end Event

end FaultGate.Log
