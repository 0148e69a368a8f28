import FaultGate.Number.Reading
import FaultGate.Yaml.Value

/-!
# What a scalar means

A plain scalar without a tag is null, a truth value, an integer or a floating-point number if it
is spelt like one, and a string otherwise. A tag of the standard schema asks for one of these
spellings and refuses every other; a scalar with another tag, or between quotes, is a string.
-/

namespace FaultGate.Yaml.Schema

def standardTag (name : String) : String :=
  "tag:yaml.org,2002:" ++ name

def null? (text : String) : Option Value :=
  if ["null", "Null", "NULL", "~"].contains text then some .null else none

def bool? (text : String) : Option Value :=
  if ["true", "True", "TRUE"].contains text then some (.bool true)
  else if ["false", "False", "FALSE"].contains text then some (.bool false)
  else none

/-- Is the text a number of several digits that starts with a zero? Such a number is a string. -/
def zeroPadded (text : List Char) : Bool :=
  let digits :=
    match text with
    | '+' :: rest => rest
    | '-' :: rest => rest
    | _ => text
  match digits with
  | '0' :: rest => !rest.isEmpty && rest.all Char.isDigit
  | _ => false

/-- The magnitude of an integer in decimal digits, or after a mark in hexadecimal, octal or binary
ones. -/
def magnitude? (digits : List Char) : Option Nat :=
  match digits with
  | '0' :: 'x' :: rest => Number.natural? 16 rest
  | '0' :: 'o' :: rest => Number.natural? 8 rest
  | '0' :: 'b' :: rest => Number.natural? 2 rest
  | _ => Number.natural? 10 digits

/-- An integer of any size. -/
def integer? (text : List Char) : Option Int :=
  if zeroPadded text then none
  else
    match text with
    | '+' :: digits => (magnitude? digits).map Int.ofNat
    | '-' :: digits => (magnitude? digits).map fun n => -(n : Int)
    | digits => (magnitude? digits).map Int.ofNat

/-- What an integer comes to that does not have to be one: a value, a refusal, or no integer. An
integer beyond 64 bits is refused as long as 128 bits hold it, and is no integer beyond that. -/
inductive IntegerReading where
  | value (n : Int)
  | refused
  | other
  deriving DecidableEq, Repr

/-- Reads an integer. Those below zero are signed words and all others unsigned ones. -/
def readInteger (text : List Char) : IntegerReading :=
  match integer? text with
  | none => .other
  | some n =>
    if -(Nat.pow 2 63 : Int) ≤ n && n < (Nat.pow 2 64 : Int) then .value n
    else if -(Nat.pow 2 127 : Int) ≤ n && n < (Nat.pow 2 128 : Int) then .refused
    else .other

/-- A floating-point number: infinity and what is not a number have spellings of their own, and a
decimal number must have a finite value. -/
def real? (text : String) : Option Number.Binary64 :=
  if [".inf", ".Inf", ".INF", "+.inf", "+.Inf", "+.INF"].contains text then some .infinity
  else if ["-.inf", "-.Inf", "-.INF"].contains text then some Number.Binary64.infinity.negate
  else if [".nan", ".NaN", ".NAN"].contains text then some .nan
  else
    match Number.literal? text.toList with
    | some literal => if literal.toBinary64.isFinite then some literal.toBinary64 else none
    | none => none

/-- The value of a plain scalar without a tag, unless it is refused. -/
def plain? (text : String) : Option Value :=
  if text.isEmpty then some .null
  else
    match null? text with
    | some v => some v
    | none =>
      match bool? text with
      | some v => some v
      | none =>
        match readInteger text.toList with
        | .value n => some (.int n)
        | .refused => none
        | .other =>
          if zeroPadded text.toList then some (.string text)
          else
            match real? text with
            | some x => some (.real x)
            | none => some (.string text)

/-- The value of a scalar with a tag of the standard schema, unless it is refused. -/
def standard? (tag text : String) : Option Value :=
  if tag = standardTag "bool" then bool? text
  else if tag = standardTag "int" then
    match readInteger text.toList with
    | .value n => some (.int n)
    | _ => none
  else if tag = standardTag "float" then (real? text).map .real
  else if tag = standardTag "null" then null? text
  else some (.string text)

/-- The value of a scalar whose tag, if it has one, is not of the document's own. -/
def scalar? (tag : Option String) (text : String) (plain : Bool) : Option Value :=
  match tag with
  | some tag => standard? tag text
  | none => if plain then plain? text else some (.string text)

end FaultGate.Yaml.Schema
