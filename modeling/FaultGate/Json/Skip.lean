import FaultGate.Json.Value

/-!
# Skipping JSON values

A value that nobody wants is passed over without being built. Its grammar is the same, but it
may be nested to any depth, numbers may be of any size, and strings may hold what is no
character.
-/

namespace FaultGate.Json

open FaultGate.Text (Pieces)

/-- Passes over a string whose opening quote is read already. -/
def skipString? : Pieces → Option Pieces
  | [] => none
  | none :: rest => skipString? rest
  | some c :: rest =>
    if c = '"' then some rest
    else if c = '\\' then
      match rest with
      | some 'u' :: a :: b :: c :: d :: rest =>
        if (code? a b c d).isSome then skipString? rest else none
      | some letter :: rest => if (escaped? letter).isSome then skipString? rest else none
      | _ => none
    else if c.toNat < 0x20 then none
    else skipString? rest

/-- Passes over a value that is no array and no object. -/
def skipScalar? (input : Pieces) : Option Pieces :=
  match input with
  | some '"' :: rest => skipString? rest
  | some 'n' :: _ => word? "null" input
  | some 't' :: _ => word? "true" input
  | some 'f' :: _ => word? "false" input
  | _ => (numeral? input).map Prod.snd

/-- Passes over the name of a member and the colon after it. -/
def skipKey? : Pieces → Option Pieces
  | some '"' :: rest =>
    match skipString? rest with
    | some rest => colon? rest
    | none => none
  | _ => none

/-- What is open around a value. -/
inductive Enclosure where
  | array
  | object
  deriving DecidableEq, Repr

/-- Is a value to come next, or what follows one? -/
inductive Turn where
  | value
  | after
  deriving DecidableEq, Repr

/-- Passes over what is left of a value inside the given enclosures, the innermost one first. -/
def skipFrom? : Nat → Turn → List Enclosure → Pieces → Option Pieces
  | 0, _, _, _ => none
  | _ + 1, .after, [], input => some input
  | fuel + 1, .after, innermost :: outer, input =>
    match innermost, skipBlank input with
    | .array, some ',' :: rest => skipFrom? fuel .value (.array :: outer) rest
    | .array, some ']' :: rest => skipFrom? fuel .after outer rest
    | .object, some ',' :: rest =>
      match skipKey? (skipBlank rest) with
      | some rest => skipFrom? fuel .value (.object :: outer) rest
      | none => none
    | .object, some '}' :: rest => skipFrom? fuel .after outer rest
    | _, _ => none
  | fuel + 1, .value, enclosures, input =>
    match skipBlank input with
    | some '[' :: rest =>
      match skipBlank rest with
      | some ']' :: rest => skipFrom? fuel .after enclosures rest
      | rest => skipFrom? fuel .value (.array :: enclosures) rest
    | some '{' :: rest =>
      match skipBlank rest with
      | some '}' :: rest => skipFrom? fuel .after enclosures rest
      | rest =>
        match skipKey? rest with
        | some rest => skipFrom? fuel .value (.object :: enclosures) rest
        | none => none
    | input =>
      match skipScalar? input with
      | some rest => skipFrom? fuel .after enclosures rest
      | none => none

/-- Passes over a value. Each step takes a piece at least, but for the one that ends the value, so
`fuel` never runs out when it is greater than twice the number of pieces. -/
def skipValue? (fuel : Nat) (input : Pieces) : Option Pieces :=
  skipFrom? fuel .value [] input

end FaultGate.Json
