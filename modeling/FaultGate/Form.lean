import FaultGate.Text.Utf8

/-!
# Form text

The encoding of queries and of forms: pairs separated by ampersands, a key and its value
separated by the first equals sign, a plus sign for a space, and any byte as a percent sign with
two hexadecimal digits. An escape that is malformed stands for itself, and bytes that are not
UTF-8 become U+FFFD.
-/

namespace FaultGate.Form

def hexValue? (b : UInt8) : Option UInt8 :=
  if 0x30 ≤ b && b ≤ 0x39 then some (b - 0x30)
  else if 0x41 ≤ b && b ≤ 0x46 then some (b - 0x37)
  else if 0x61 ≤ b && b ≤ 0x66 then some (b - 0x57)
  else none

/-- What a byte stands for that is not part of an escape. -/
def plainByte (b : UInt8) : UInt8 :=
  if b = 0x2b then 0x20 else b

/-- Reads form text onto the bytes that are read already, the last one first. -/
def unescapeOnto (done : List UInt8) : List UInt8 → List UInt8
  | [] => done.reverse
  | [b] => (plainByte b :: done).reverse
  | [b, c] => (plainByte c :: plainByte b :: done).reverse
  | b :: c :: d :: rest =>
    if b = 0x25 then
      match hexValue? c, hexValue? d with
      | some high, some low => unescapeOnto ((high * 16 + low) :: done) rest
      | _, _ => unescapeOnto (b :: done) (c :: d :: rest)
    else unescapeOnto (plainByte b :: done) (c :: d :: rest)

/-- The bytes that a piece of form text stands for. -/
def unescape (bytes : List UInt8) : List UInt8 :=
  unescapeOnto [] bytes

/-- The text that a piece of form text stands for. -/
def decodePiece (bytes : List UInt8) : String :=
  Text.decodeLossy (unescape bytes)

def isSeparator (b : UInt8) : Bool := b = 0x26

def isAssignment (b : UInt8) : Bool := b = 0x3d

/-- The key and the value of one pair. A pair without an equals sign has an empty value. -/
def decodePair (bytes : List UInt8) : String × String :=
  (decodePiece (bytes.takeWhile fun b => !isAssignment b),
    decodePiece ((bytes.dropWhile fun b => !isAssignment b).drop 1))

/-- The pairs of a form text. Empty pieces are none. -/
def decode (bytes : List UInt8) : List (String × String) :=
  ((bytes.splitOnP isSeparator).filter fun piece => !piece.isEmpty).map decodePair

end FaultGate.Form
