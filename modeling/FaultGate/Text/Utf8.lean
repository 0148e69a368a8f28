/-!
# UTF-8 texts as byte lists

Bodies, header values and files are lists of bytes; texts are strings. `utf8` writes a text as
bytes, and `pieces` reads any bytes as characters and broken pieces, where a broken piece is as
much of a character as the bytes begin with without completing it. The strict reader `decode?`
wants no broken piece at all, and the forgiving one `decodeLossy` puts U+FFFD in the place of
each.
-/

namespace FaultGate.Text

def utf8 (s : String) : List UInt8 :=
  s.toList.flatMap String.utf8EncodeChar

/-- The character whose encoding the bytes start with, if they start with one. No encoding is
longer than four bytes. -/
def firstChar? (bytes : List UInt8) : Option Char :=
  (bytes.take 4).toByteArray.utf8DecodeChar? 0

/-- Is the byte one that continues a character? -/
def isTail (b : UInt8) : Bool :=
  0x80 ≤ b && b ≤ 0xbf

/-- May `second` follow `first` in the encoding of a character of three or four bytes? The bounds
leave out overlong forms, surrogates and what lies beyond U+10FFFF. -/
def isSecond (first second : UInt8) : Bool :=
  if first = 0xe0 then 0xa0 ≤ second && second ≤ 0xbf
  else if first = 0xed then 0x80 ≤ second && second ≤ 0x9f
  else if first = 0xf0 then 0x90 ≤ second && second ≤ 0xbf
  else if first = 0xf4 then 0x80 ≤ second && second ≤ 0x8f
  else isTail second

/-- How many bytes of a character that is not completed are replaced together: the longest start
of a character that the bytes begin with, and at least one byte. -/
def brokenLength : List UInt8 → Nat
  | first :: second :: rest =>
    if 0xe0 ≤ first && first ≤ 0xef then
      if isSecond first second then 2 else 1
    else if 0xf0 ≤ first && first ≤ 0xf4 then
      if isSecond first second then
        match rest with
        | third :: _ => if isTail third then 3 else 2
        | [] => 2
      else 1
    else 1
  | _ => 1

/-- What bytes are read as: characters, and `none` for each broken piece between them. -/
abbrev Pieces := List (Option Char)

/-- Reads pieces until the bytes end, onto those that are read already, the last one first.
Every piece takes a byte at least, so `fuel` never runs out when it is the number of bytes. -/
def piecesFrom (done : Pieces) : Nat → List UInt8 → Pieces
  | _, [] => done.reverse
  | 0, _ :: _ => done.reverse
  | fuel + 1, b :: rest =>
    match firstChar? (b :: rest) with
    | some c => piecesFrom (some c :: done) fuel ((b :: rest).drop c.utf8Size)
    | none => piecesFrom (none :: done) fuel ((b :: rest).drop (brokenLength (b :: rest)))

/-- The characters of the bytes, with `none` for each piece that is not UTF-8. -/
def pieces (bytes : List UInt8) : Pieces :=
  piecesFrom [] bytes.length bytes

/-- The text that the bytes are the UTF-8 form of, if there is one. -/
def decode? (bytes : List UInt8) : Option String :=
  ((pieces bytes).mapM id).map String.ofList

/-- The text of the bytes, with U+FFFD for each piece that is not UTF-8. -/
def decodeLossy (bytes : List UInt8) : String :=
  String.ofList ((pieces bytes).map fun piece => piece.getD '\uFFFD')

end FaultGate.Text
