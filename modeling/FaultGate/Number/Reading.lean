import FaultGate.Number.Binary64

/-!
# Reading numbers

Integers in a given base, unsigned numbers as header values write them, and decimal numbers with a
fraction or an exponent.
-/

namespace FaultGate.Number

/-- The value of a digit in a base of at most 36. -/
def digitValue? (base : Nat) (c : Char) : Option Nat :=
  let value :=
    if '0' ≤ c && c ≤ '9' then c.toNat - 0x30
    else if 'a' ≤ c && c ≤ 'z' then c.toNat - 0x57
    else if 'A' ≤ c && c ≤ 'Z' then c.toNat - 0x37
    else base
  if value < base then some value else none

/-- Reads digits onto a number that is read already. -/
def digitsFrom (base : Nat) (acc : Nat) : List Char → Option Nat
  | [] => some acc
  | c :: rest =>
    match digitValue? base c with
    | some d => digitsFrom base (acc * base + d) rest
    | none => none

/-- The number that one digit or more stand for. -/
def natural? (base : Nat) (digits : List Char) : Option Nat :=
  if digits.isEmpty then none else digitsFrom base 0 digits

/-- Reads a number below `bound`, with a plus sign before the digits or without. -/
def unsigned? (bound : Nat) (text : List Char) : Option Nat :=
  let digits :=
    match text with
    | '+' :: rest => rest
    | _ => text
  (natural? 10 digits).filter (· < bound)

/-- The sign, digits and exponent of a decimal number. -/
structure Literal where
  negative : Bool
  whole : List Char
  fraction : List Char
  exponent : Int
  deriving DecidableEq, Repr

/-- Reads the exponent of a decimal number: nothing, or a mark, a sign that may be missing, and
one digit or more. -/
def exponent? : List Char → Option Int
  | [] => some 0
  | mark :: rest =>
    if mark = 'e' || mark = 'E' then
      match rest with
      | '-' :: digits => (natural? 10 digits).map fun n => -(n : Int)
      | '+' :: digits => (natural? 10 digits).map Int.ofNat
      | digits => (natural? 10 digits).map Int.ofNat
    else none

/-- Reads a decimal number: a sign that may be missing, digits with a point anywhere among them or
none, and an exponent that may be missing. There must be a digit. -/
def literal? (text : List Char) : Option Literal :=
  let negative := text.head? = some '-'
  let body := if negative || text.head? = some '+' then text.drop 1 else text
  let whole := body.takeWhile Char.isDigit
  let afterWhole := body.dropWhile Char.isDigit
  let (fraction, rest) :=
    match afterWhole with
    | '.' :: r => (r.takeWhile Char.isDigit, r.dropWhile Char.isDigit)
    | r => ([], r)
  if whole.isEmpty && fraction.isEmpty then none
  else (exponent? rest).map fun exponent => ⟨negative, whole, fraction, exponent⟩

/-- The floating-point number nearest to a decimal one. -/
def Literal.toBinary64 (l : Literal) : Binary64 :=
  let digits := (digitsFrom 10 0 (l.whole ++ l.fraction)).getD 0
  let magnitude := Binary64.ofDecimal digits (l.exponent - l.fraction.length)
  if l.negative then magnitude.negate else magnitude

end FaultGate.Number
