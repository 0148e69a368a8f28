/-!
# Binary floating-point numbers of 64 bits

A number is its 64 bits. Finite values are read off the bits as an integer times a power of two,
and arithmetic is exact on naturals up to one rounding at the end, to the nearest value with
ties to even, so nothing here depends on the machine's own floating-point unit.
-/

namespace FaultGate.Number

/-- A floating-point number, as its bits: sign, eleven bits of exponent, 52 bits of fraction. -/
structure Binary64 where
  bits : UInt64
  deriving DecidableEq, Repr

/-- The quotient rounded to the nearest natural, ties to the even one. -/
def roundDiv (num den : Nat) : Nat :=
  let q := num / den
  let r := num % den
  if den < 2 * r || (2 * r = den && q % 2 = 1) then q + 1 else q

namespace Binary64

/-- The exponent field, which is all ones for infinities and for what is not a number. -/
def exponentField (x : Binary64) : Nat :=
  x.bits.toNat / Nat.pow 2 52 % Nat.pow 2 11

def fractionField (x : Binary64) : Nat :=
  x.bits.toNat % Nat.pow 2 52

def isNegative (x : Binary64) : Bool :=
  Nat.pow 2 63 ≤ x.bits.toNat

def isFinite (x : Binary64) : Bool :=
  x.exponentField ≠ 2047

def isNaN (x : Binary64) : Bool :=
  !x.isFinite && x.fractionField ≠ 0

/-- Is the number zero, of either sign? -/
def isZero (x : Binary64) : Bool :=
  x.exponentField = 0 && x.fractionField = 0

/-- Do the two stand for the same number? The two zeros do, and so do any two that are not
numbers, which makes this an equivalence. -/
def same (x y : Binary64) : Bool :=
  (x.isNaN && y.isNaN) || (x.isZero && y.isZero) || x.bits = y.bits

/-- The integer `m` of the value `m * 2 ^ e` of a finite number, without its sign. -/
def significand (x : Binary64) : Nat :=
  if x.exponentField = 0 then x.fractionField else Nat.pow 2 52 + x.fractionField

/-- The exponent `e` of the value `m * 2 ^ e` of a finite number. -/
def exponent (x : Binary64) : Int :=
  if x.exponentField = 0 then -1074 else (x.exponentField : Int) - 1075

def zero : Binary64 := ⟨0⟩
def infinity : Binary64 := ⟨0x7ff0000000000000⟩
def nan : Binary64 := ⟨0x7ff8000000000000⟩

/-- The number with the sign bit set. -/
def negate (x : Binary64) : Binary64 :=
  ⟨x.bits ||| 0x8000000000000000⟩

/-- The greatest `k` with `2 ^ k ≤ num / den`, for positive numbers. -/
def floorLog (num den : Nat) : Int :=
  let k := (num.log2 : Int) - den.log2
  if num * Nat.pow 2 (-k).toNat < den * Nat.pow 2 k.toNat then k - 1 else k

/-- The number nearest to a quotient of naturals. A quotient too great for every finite number
becomes infinity, and one too small for every positive number becomes zero. -/
def ofRatio (num den : Nat) : Binary64 :=
  if num = 0 || den = 0 then zero
  else
    let unit := max (floorLog num den - 52) (-1074)
    let steps := roundDiv (num * Nat.pow 2 (-unit).toNat) (den * Nat.pow 2 unit.toNat)
    let bits := (unit + 1074).toNat * Nat.pow 2 52 + steps
    if 2047 * Nat.pow 2 52 ≤ bits then infinity else ⟨UInt64.ofNat bits⟩

/-- The number nearest to a natural. -/
def ofNat (n : Nat) : Binary64 :=
  ofRatio n 1

/-- The numerator of a finite number's magnitude. -/
def numerator (x : Binary64) : Nat :=
  x.significand * Nat.pow 2 x.exponent.toNat

/-- The denominator of a finite number's magnitude. -/
def denominator (x : Binary64) : Nat :=
  Nat.pow 2 (-x.exponent).toNat

/-- The magnitude of the product of two finite numbers. -/
def mul (x y : Binary64) : Binary64 :=
  ofRatio (x.numerator * y.numerator) (x.denominator * y.denominator)

/-- The magnitude of the quotient of two finite numbers, the second of them not zero. -/
def div (x y : Binary64) : Binary64 :=
  ofRatio (x.numerator * y.denominator) (x.denominator * y.numerator)

/-- The number nearest to `digits * 10 ^ exponent`. A value beyond all finite numbers is settled
by its size alone, so that a huge exponent costs nothing. -/
def ofDecimal (digits : Nat) (exponent : Int) : Binary64 :=
  if digits = 0 then zero
  else
    let size := ((Nat.repr digits).length : Int) + exponent
    if 400 < size then infinity
    else if size < -400 then zero
    else ofRatio (digits * Nat.pow 10 exponent.toNat) (Nat.pow 10 (-exponent).toNat)

/-- The bits as sixteen lower-case hexadecimal digits. -/
def hex (x : Binary64) : String :=
  let digits := Nat.toDigits 16 x.bits.toNat
  String.ofList (List.replicate (16 - digits.length) '0' ++ digits)

end Binary64

end FaultGate.Number
