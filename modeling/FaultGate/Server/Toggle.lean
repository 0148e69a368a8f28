import FaultGate.Http.MediaType
import FaultGate.Http.Message
import FaultGate.Json.Skip

/-!
# The request that switches maintenance

Its body is a JSON object whose member `enabled` tells what to switch to, or an array that holds
just that. The body is read from left to right up to the first thing that is wrong with it:
either it is no JSON, or it is not the JSON that is wanted.
-/

namespace FaultGate.Server.Toggle

open FaultGate.Http (Bytes MediaType Request Response)
open FaultGate.Json (colon? name? numeral? skipBlank skipValue? string? word?)
open FaultGate.Text (Pieces)

/-- Why a request to switch maintenance is refused. -/
inductive Refusal where
  | mediaType
  | tooLong
  | notJson
  | notWanted
  deriving DecidableEq, Repr

/-- The response to a request that is refused. -/
def Refusal.response : Refusal → Response
  | .mediaType =>
    .text .unsupportedMediaType "Expected request with \x60Content-Type: application/json\x60"
  | .tooLong =>
    .text .payloadTooLarge "Failed to buffer the request body: length limit exceeded"
  | .notJson => .text .badRequest "Failed to parse the request body as JSON"
  | .notWanted =>
    .text .unprocessableContent "Failed to deserialize the JSON body into the target type"

/-- The member that tells what to switch to. -/
def memberName : String := "enabled"

def maxBody : Nat := 2 * 1024 * 1024

/-- Why a value is refused that is not of the kind that is wanted. A text, a number or a word is
read to its end before it is refused, an array or object is not. -/
def unwanted (input : Pieces) : Refusal :=
  let refusal (isJson : Bool) : Refusal := if isJson then .notWanted else .notJson
  match input with
  | some '[' :: _ => .notWanted
  | some '{' :: _ => .notWanted
  | some '"' :: rest => refusal (string? rest).isSome
  | some 'n' :: _ => refusal (word? "null" input).isSome
  | some 't' :: _ => refusal (word? "true" input).isSome
  | some 'f' :: _ => refusal (word? "false" input).isSome
  | _ =>
    match numeral? input with
    | some (n, _) => refusal n.value?.isSome
    | none => .notJson

def readFlag (input : Pieces) : Except Refusal (Bool × Pieces) :=
  match word? "true" input, word? "false" input with
  | some rest, _ => .ok (true, rest)
  | _, some rest => .ok (false, rest)
  | none, none => .error (unwanted input)

/-- What was read, if nothing but blanks is left. -/
def finish (found : Bool) (rest : Pieces) : Except Refusal Bool :=
  if (skipBlank rest).isEmpty then .ok found else .error .notJson

/-- Reads the members of an object from a name on. The wanted member may stand there once; all
others are passed over, each of them with `steps` steps at most. -/
def readMembers (steps : Nat) : Nat → Option Bool → Pieces → Except Refusal (Bool × Pieces)
  | 0, _, _ => .error .notJson
  | fuel + 1, found, input =>
    match name? input with
    | none => .error .notJson
    | some (name, rest) =>
      if name = memberName && found.isSome then .error .notWanted
      else
        match colon? rest with
        | none => .error .notJson
        | some rest =>
          let read : Except Refusal (Option Bool × Pieces) :=
            if name = memberName then (readFlag (skipBlank rest)).map fun r => (some r.1, r.2)
            else
              match skipValue? steps rest with
              | some rest => .ok (found, rest)
              | none => .error .notJson
          match read with
          | .error e => .error e
          | .ok (found, rest) =>
            match skipBlank rest with
            | some ',' :: rest => readMembers steps fuel found (skipBlank rest)
            | some '}' :: rest =>
              match found with
              | some b => .ok (b, rest)
              | none => .error .notWanted
            | _ => .error .notJson

def ofPieces (input : Pieces) : Except Refusal Bool :=
  match skipBlank input with
  | some '{' :: rest =>
    match skipBlank rest with
    | some '}' :: _ => .error .notWanted
    | rest =>
      match readMembers (2 * input.length + 2) (input.length + 1) none rest with
      | .ok (found, rest) => finish found rest
      | .error e => .error e
  | some '[' :: rest =>
    match skipBlank rest with
    | some ']' :: _ => .error .notWanted
    | rest =>
      match readFlag rest with
      | .error e => .error e
      | .ok (found, rest) =>
        match skipBlank rest with
        | some ']' :: rest => finish found rest
        | _ => .error .notJson
  | input => .error (unwanted input)

/-- Does the request announce a JSON document? -/
def announcesJson (r : Request) : Bool :=
  match (r.headerText? "content-type").bind MediaType.ofText? with
  | some media => media.isJson
  | none => false

/-- Reads what a request switches maintenance to. -/
def ofRequest (r : Request) : Except Refusal Bool :=
  if !announcesJson r then .error .mediaType
  else if maxBody < r.body.length then .error .tooLong
  else ofPieces (Text.pieces r.body)

end FaultGate.Server.Toggle
