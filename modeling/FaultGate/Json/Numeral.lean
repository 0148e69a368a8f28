import FaultGate.Number.Binary64
import FaultGate.Text.Utf8

/-!
# The numbers of a JSON text

A number is an integer if it is written as one and fits a machine word, and a floating-point
number otherwise. The latter is not always the one nearest to what is written: the digits are
taken in as long as they fit a word, and what they make is then multiplied or divided by a power
of ten.
-/

namespace FaultGate.Json

open FaultGate.Number (Binary64)
open FaultGate.Text (Pieces)

inductive Number where
  | integer (n : Int)
  | real (x : Binary64)
  deriving DecidableEq, Repr

/-- Is the number zero, of either sign? -/
def Number.isZero : Number → Bool
  | .integer n => n = 0
  | .real x => x.isZero

/-- A number as it is written. -/
structure Numeral where
  negative : Bool
  whole : List Nat
  /-- The digits after the point, if there is a point. -/
  fraction : List Nat
  /-- The sign and the digits of the exponent, if there is one. -/
  exponent : Option (Bool × List Nat)
  deriving DecidableEq, Repr

def digit? : Option Char → Option Nat
  | some c => if '0' ≤ c && c ≤ '9' then some (c.toNat - 0x30) else none
  | none => none

/-- The digits that come next, and the rest of the text. -/
def digits (input : Pieces) : List Nat × Pieces :=
  ((input.takeWhile fun p => (digit? p).isSome).filterMap digit?,
    input.dropWhile fun p => (digit? p).isSome)

/-- Reads a fraction, if a point comes next. It has a digit at least. -/
def fraction? : Pieces → Option (List Nat × Pieces)
  | some '.' :: rest =>
    match digits rest with
    | ([], _) => none
    | found => some found
  | rest => some ([], rest)

/-- Reads an exponent, if the mark of one comes next. It may have a sign, and has a digit at
least. -/
def exponent? (input : Pieces) : Option (Option (Bool × List Nat) × Pieces) :=
  match input with
  | some mark :: rest =>
    if mark = 'e' || mark = 'E' then
      let negative := rest.head? = some (some '-')
      let signed := negative || rest.head? = some (some '+')
      match digits (if signed then rest.drop 1 else rest) with
      | ([], _) => none
      | (found, rest) => some (some (negative, found), rest)
    else some (none, input)
  | _ => some (none, input)

/-- Reads a number. Its whole part has a digit at least, and does not start with a zero unless
that is all of it. -/
def numeral? (input : Pieces) : Option (Numeral × Pieces) := do
  let negative := input.head? = some (some '-')
  let (whole, rest) := digits (if negative then input.drop 1 else input)
  if whole.isEmpty || (whole.head? = some 0 && whole.length ≠ 1) then none
  else
    let (fraction, rest) ← fraction? rest
    let (exponent, rest) ← exponent? rest
    return (⟨negative, whole, fraction, exponent⟩, rest)

/-- Takes in digits as long as the number they make fits a word. Returns that number, and how many
digits were taken in. -/
def absorb (significand taken : Nat) : List Nat → Nat × Nat
  | [] => (significand, taken)
  | d :: rest =>
    if significand * 10 + d < UInt64.size then absorb (significand * 10 + d) (taken + 1) rest
    else (significand, taken)

/-- The number that a list of decimal digits stands for. -/
def ofDigits (digits : List Nat) : Nat :=
  digits.foldl (fun n d => n * 10 + d) 0

/-- A floating-point number times a power of ten, unless the result is infinite. A power too
small to be a number itself is divided by in steps. -/
def scale? : Nat → Binary64 → Int → Option Binary64
  | 0, f, _ => some f
  | steps + 1, f, exponent =>
    if f.isZero then some f
    else if 308 < exponent then none
    else if 0 ≤ exponent then
      let product := f.mul (.ofNat (Nat.pow 10 exponent.toNat))
      if product.isFinite then some product else none
    else if -308 ≤ exponent then some (f.div (.ofNat (Nat.pow 10 (-exponent).toNat)))
    else scale? steps (f.div (.ofNat (Nat.pow 10 308))) (exponent + 308)

namespace Numeral

/-- The power of ten that is written. -/
def power (n : Numeral) : Int :=
  match n.exponent with
  | none => 0
  | some (true, digits) => -(ofDigits digits : Int)
  | some (false, digits) => ofDigits digits

/-- Is the number written as an integer? -/
def isWhole (n : Numeral) : Bool :=
  n.fraction.isEmpty && n.exponent.isNone

/-- The value of a number that is no integer, unless it is beyond all finite numbers. After six
steps every number that is divided has come to zero. -/
def real? (n : Numeral) : Option Binary64 := do
  let (significand, taken) := absorb 0 0 n.whole
  let dropped := n.whole.length - taken
  let (significand, places) := absorb significand 0 n.fraction
  let magnitude ← scale? 6 (.ofNat significand) ((dropped : Int) - places + n.power)
  return if n.negative then magnitude.negate else magnitude

/-- The value of a number, unless it is beyond all finite numbers. Minus zero is no integer. -/
def value? (n : Numeral) : Option Number :=
  let whole := ofDigits n.whole
  if n.isWhole && !n.negative && whole < UInt64.size then some (.integer whole)
  else if n.isWhole && n.negative && whole ≠ 0 && whole ≤ Nat.pow 2 63 then some (.integer (-whole))
  else n.real?.map .real

end Numeral

end FaultGate.Json
