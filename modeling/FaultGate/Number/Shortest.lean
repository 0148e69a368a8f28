import FaultGate.Number.Binary64

/-!
# Shortest decimal texts

The text of a floating-point number has the fewest digits that still read back as that number, and
among those the digits closest to its value. It is positional throughout, however long.
-/

namespace FaultGate.Number

/-- The decimal `digits * 10 ^ exponent`. -/
structure Decimal where
  digits : Nat
  exponent : Int
  deriving DecidableEq, Repr

namespace Binary64

/-- How `digits * 10 ^ i` compares with `m * 2 ^ j`. -/
def compareScaled (digits : Nat) (i : Int) (m : Nat) (j : Int) : Ordering :=
  compare (digits * Nat.pow 10 i.toNat * Nat.pow 2 (-j).toNat)
    (m * Nat.pow 2 j.toNat * Nat.pow 10 (-i).toNat)

/-- Does the decimal read back as the given positive number? It does between the midpoints to the
two neighbours, and at a midpoint if the number's last bit is zero. Below a power of two the
neighbour is only half as far away. -/
def readsBack (x : Binary64) (d : Decimal) : Bool :=
  let m := x.significand
  let low := if x.fractionField = 0 && 1 < x.exponentField then 4 * m - 1 else 4 * m - 2
  let above := compareScaled d.digits d.exponent low (x.exponent - 2)
  let below := compareScaled d.digits d.exponent (4 * m + 2) (x.exponent - 2)
  (above = .gt && below = .lt) || (m % 2 = 0 && above ≠ .lt && below ≠ .gt)

/-- The number of digits before the decimal point of a positive number, or minus the number of
zeros after it: the least `k` with a value below `10 ^ k`. The estimate from the binary
logarithm is off by one step at most. -/
def scale (x : Binary64) : Int :=
  let estimate := ((x.significand.log2 : Int) + x.exponent) * 30103 / 100000
  if compareScaled 1 estimate x.significand x.exponent = .gt then estimate
  else if compareScaled 1 (estimate + 1) x.significand x.exponent = .gt then estimate + 1
  else estimate + 2

/-- The closest decimals to a positive number on the grid of `10 ^ i`, the closer one first; of
two equally close ones the greater. -/
def neighbours (x : Binary64) (i : Int) : List Decimal :=
  let num := x.numerator * Nat.pow 10 (-i).toNat
  let den := x.denominator * Nat.pow 10 i.toNat
  let lower := num / den
  if 2 * num < (2 * lower + 1) * den then [⟨lower, i⟩, ⟨lower + 1, i⟩]
  else [⟨lower + 1, i⟩, ⟨lower, i⟩]

/-- The first decimal that reads back, with the numbers of digits that are still to be tried. -/
def shortestFrom (x : Binary64) (scale : Int) : List Nat → Decimal
  | [] => ⟨x.numerator * Nat.pow 5 (-x.exponent).toNat, min x.exponent 0⟩
  | n :: more =>
    match (neighbours x (scale - n)).find? x.readsBack with
    | some d => d
    | none => shortestFrom x scale more

/-- The shortest decimal that reads back as the given positive number. -/
def shortest (x : Binary64) : Decimal :=
  shortestFrom x x.scale ((List.range 17).map (· + 1))

/-- Drops zeros from the end of the digits, as far as the list of steps goes. -/
def Decimal.trimmed (d : Decimal) : List Unit → Decimal
  | [] => d
  | _ :: more =>
    if d.digits ≠ 0 && d.digits % 10 = 0 then
      Decimal.trimmed ⟨d.digits / 10, d.exponent + 1⟩ more
    else d

/-- A decimal in positional notation, with a digit before the point and one after it at least. -/
def positional (d : Decimal) : String :=
  let digits := Nat.toDigits 10 d.digits
  if 0 ≤ d.exponent then
    String.ofList (digits ++ List.replicate d.exponent.toNat '0' ++ ['.', '0'])
  else
    let places := (-d.exponent).toNat
    let padded := List.replicate (places + 1 - digits.length) '0' ++ digits
    let whole := padded.length - places
    String.ofList (padded.take whole ++ '.' :: padded.drop whole)

def render (x : Binary64) : String :=
  if x.isNaN then "NaN"
  else
    let magnitude :=
      if !x.isFinite then "inf"
      else if x.isZero then "0.0"
      else positional (Decimal.trimmed x.shortest (List.replicate 20 ()))
    if x.isNegative then "-" ++ magnitude else magnitude

end Binary64

end FaultGate.Number
