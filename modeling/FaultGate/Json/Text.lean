/-!
# Writing JSON

Compact JSON texts, built from the texts of their parts. Inside a string the quote, the backslash
and the controls below U+0020 are escaped, the commonest five by a letter and the rest by four
lower-case hexadecimal digits; nothing else is.
-/

namespace FaultGate.Json

/-- The `n`-th hexadecimal digit, in lower case. -/
def hexDigit (n : Nat) : Char :=
  if n < 10 then Char.ofNat (0x30 + n) else Char.ofNat (0x57 + n)

/-- A character as it stands inside a JSON string. -/
def escapeChar (c : Char) : List Char :=
  if c = '"' then ['\\', '"']
  else if c = '\\' then ['\\', '\\']
  else if c = '\x08' then ['\\', 'b']
  else if c = '\t' then ['\\', 't']
  else if c = '\n' then ['\\', 'n']
  else if c = '\x0c' then ['\\', 'f']
  else if c = '\r' then ['\\', 'r']
  else if c.toNat < 0x20 then
    ['\\', 'u', '0', '0', hexDigit (c.toNat / 16), hexDigit (c.toNat % 16)]
  else [c]

/-- The JSON string that holds a text. -/
def string (s : String) : String :=
  String.ofList ('"' :: s.toList.flatMap escapeChar ++ ['"'])

/-- The JSON number of a natural number. -/
def nat (n : Nat) : String :=
  Nat.repr n

/-- The JSON spelling of a truth value. -/
def bool : Bool → String
  | true => "true"
  | false => "false"

/-- The JSON array of items that are JSON texts already. -/
def array (items : List String) : String :=
  "[" ++ String.intercalate "," items ++ "]"

/-- The JSON object of members whose values are JSON texts already. -/
def object (members : List (String × String)) : String :=
  "\x7b" ++ String.intercalate "," (members.map fun m => string m.1 ++ ":" ++ m.2) ++ "\x7d"

end FaultGate.Json
