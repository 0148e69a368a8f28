import FaultGate.Json.Numeral

/-!
# Reading JSON

A reader takes the pieces of a text and returns what it has read with the pieces that are left.
The parts of the grammar stand here one by one, so that a reader that wants only some of a
document is made of the same parts as the one that reads all of it.
-/

namespace FaultGate.Json

open FaultGate.Text (Pieces)

/-- A JSON value. The members of an object are all kept, in the order of the text. -/
inductive Value where
  | null
  | bool (b : Bool)
  | number (n : Number)
  | string (s : String)
  | array (items : List Value)
  | object (members : List (String × Value))
  deriving Inhabited

/-- Does the piece only separate others? -/
def isBlank (piece : Option Char) : Bool :=
  piece = some ' ' || piece = some '\t' || piece = some '\n' || piece = some '\r'

def skipBlank (input : Pieces) : Pieces :=
  input.dropWhile isBlank

def word? (word : String) (input : Pieces) : Option Pieces :=
  if (word.toList.map some).isPrefixOf input then some (input.drop word.length) else none

def hexValue? : Option Char → Option Nat
  | some c =>
    if '0' ≤ c && c ≤ '9' then some (c.toNat - 0x30)
    else if 'a' ≤ c && c ≤ 'f' then some (c.toNat - 0x57)
    else if 'A' ≤ c && c ≤ 'F' then some (c.toNat - 0x37)
    else none
  | none => none

/-- The number that four hexadecimal digits make. -/
def code? (a b c d : Option Char) : Option Nat := do
  let a ← hexValue? a
  let b ← hexValue? b
  let c ← hexValue? c
  let d ← hexValue? d
  return ((a * 16 + b) * 16 + c) * 16 + d

/-- Is the number the first half of a pair that stands for one character? -/
def isHighHalf (n : Nat) : Bool :=
  0xd800 ≤ n && n < 0xdc00

/-- Is the number the second half of such a pair? -/
def isLowHalf (n : Nat) : Bool :=
  0xdc00 ≤ n && n < 0xe000

/-- The character that two halves stand for, if they are a pair. -/
def paired? (high low : Nat) : Option Char :=
  if isLowHalf low then some (Char.ofNat (0x10000 + (high - 0xd800) * 0x400 + (low - 0xdc00)))
  else none

/-- The character that a letter after a backslash stands for. -/
def escaped? (c : Char) : Option Char :=
  match c with
  | '"' => some '"'
  | '\\' => some '\\'
  | '/' => some '/'
  | 'b' => some '\x08'
  | 'f' => some '\x0c'
  | 'n' => some '\n'
  | 'r' => some '\r'
  | 't' => some '\t'
  | _ => none

/-- Reads a string up to its closing quote, onto the characters that are read already, the last
one first. A character may be written as a backslash and a letter, or as the number of its code
point; one beyond U+FFFF then takes two numbers. -/
def stringOnto (done : List Char) : Pieces → Option (String × Pieces)
  | [] => none
  | none :: _ => none
  | some first :: rest =>
    if first = '"' then some (String.ofList done.reverse, rest)
    else if first = '\\' then
      match rest with
      | some 'u' :: a :: b :: c :: d :: rest =>
        match code? a b c d with
        | none => none
        | some n =>
          if isLowHalf n then none
          else if isHighHalf n then
            match rest with
            | some '\\' :: some 'u' :: e :: f :: g :: h :: rest =>
              match (code? e f g h).bind (paired? n) with
              | some x => stringOnto (x :: done) rest
              | none => none
            | _ => none
          else stringOnto (Char.ofNat n :: done) rest
      | some letter :: rest =>
        match escaped? letter with
        | some x => stringOnto (x :: done) rest
        | none => none
      | _ => none
    else if first.toNat < 0x20 then none
    else stringOnto (first :: done) rest

/-- Reads a string whose opening quote is read already. -/
def string? (input : Pieces) : Option (String × Pieces) :=
  stringOnto [] input

def name? : Pieces → Option (String × Pieces)
  | some '"' :: rest => string? rest
  | _ => none

/-- Reads the colon after the name of a member. -/
def colon? (input : Pieces) : Option Pieces :=
  match skipBlank input with
  | some ':' :: rest => some rest
  | _ => none

/-- Reads the name of a member and the colon after it. -/
def key? (input : Pieces) : Option (String × Pieces) :=
  match name? input with
  | none => none
  | some (name, rest) => (colon? rest).map fun rest => (name, rest)

/-- How deep arrays and objects may be nested. -/
def maxDepth : Nat := 127

mutual

/-- Reads a value that nothing blank stands before. -/
def value? : Nat → Nat → Pieces → Option (Value × Pieces)
  | 0, _, _ => none
  | fuel + 1, depth, input =>
    match input with
    | some '"' :: rest => (string? rest).map fun (s, rest) => (.string s, rest)
    | some '[' :: rest =>
      match depth with
      | 0 => none
      | depth + 1 =>
        match skipBlank rest with
        | some ']' :: rest => some (.array [], rest)
        | rest => items? fuel depth [] rest
    | some '{' :: rest =>
      match depth with
      | 0 => none
      | depth + 1 =>
        match skipBlank rest with
        | some '}' :: rest => some (.object [], rest)
        | rest => members? fuel depth [] rest
    | some 'n' :: _ => (word? "null" input).map (.null, ·)
    | some 't' :: _ => (word? "true" input).map (.bool true, ·)
    | some 'f' :: _ => (word? "false" input).map (.bool false, ·)
    | _ => do
      let (numeral, rest) ← numeral? input
      let n ← numeral.value?
      return (.number n, rest)

/-- Reads the items of an array onto those that are read already, the last one first. -/
def items? : Nat → Nat → List Value → Pieces → Option (Value × Pieces)
  | 0, _, _, _ => none
  | fuel + 1, depth, done, input =>
    match value? fuel depth input with
    | none => none
    | some (v, rest) =>
      match skipBlank rest with
      | some ',' :: rest => items? fuel depth (v :: done) (skipBlank rest)
      | some ']' :: rest => some (.array (v :: done).reverse, rest)
      | _ => none

/-- Reads the members of an object onto those that are read already, the last one first. -/
def members? : Nat → Nat → List (String × Value) → Pieces → Option (Value × Pieces)
  | 0, _, _, _ => none
  | fuel + 1, depth, done, input =>
    match key? input with
    | none => none
    | some (key, rest) =>
      match value? fuel depth (skipBlank rest) with
      | none => none
      | some (v, rest) =>
        match skipBlank rest with
        | some ',' :: rest => members? fuel depth ((key, v) :: done) (skipBlank rest)
        | some '}' :: rest => some (.object ((key, v) :: done).reverse, rest)
        | _ => none

end

namespace Value

/-- The value of a JSON text. A value takes two productions for each of its pieces at the most,
so the fuel suffices. -/
def ofPieces? (input : Pieces) : Option Value :=
  match value? (2 * input.length + 2) maxDepth (skipBlank input) with
  | some (v, rest) => if (skipBlank rest).isEmpty then some v else none
  | none => none

/-- The value of a JSON text in UTF-8. -/
def ofBytes? (bytes : List UInt8) : Option Value :=
  ofPieces? (Text.pieces bytes)

/-- The member of an object with the given name. Of several with one name the last one counts. -/
def member? (v : Value) (name : String) : Option Value :=
  match v with
  | .object members => members.reverse.lookup name
  | _ => none

end Value

end FaultGate.Json
