import FaultGate.Yaml.Scalar.Gap
import FaultGate.Number.Reading

/-!
# Quoted scalars

Between single quotes only a doubled quote is special. Between double quotes a backslash starts
an escape, and one at the end of a line joins the line to the next without a space. In both,
line ends are folded.
-/

namespace FaultGate.Yaml.Quoted

/-- The character that a letter after a backslash stands for. -/
def escaped? (c : Char) : Option Char :=
  match c with
  | '0' => some '\x00'
  | 'a' => some '\x07'
  | 'b' => some '\x08'
  | 't' => some '\t'
  | '\t' => some '\t'
  | 'n' => some '\n'
  | 'v' => some '\x0b'
  | 'f' => some '\x0c'
  | 'r' => some '\r'
  | 'e' => some '\x1b'
  | ' ' => some ' '
  | '"' => some '"'
  | '/' => some '/'
  | '\\' => some '\\'
  | 'N' => some '\u0085'
  | '_' => some '\u00a0'
  | 'L' => some '\u2028'
  | 'P' => some '\u2029'
  | _ => none

/-- How many hexadecimal digits follow a letter after a backslash that announces a code point. -/
def codeLength? (c : Char) : Option Nat :=
  match c with
  | 'x' => some 2
  | 'u' => some 4
  | 'U' => some 8
  | _ => none

/-- The character with a code point, if there is one. -/
def ofCode? (code : Nat) : Option Char :=
  if h : code.isValidChar then some (Char.ofNatAux code h) else none

/-- Reads the escape that a backslash at the cursor starts. -/
def escape? (c : Cursor) : Option (Char × Cursor) := do
  let letter ← c.char? 1
  match codeLength? letter with
  | none =>
    let x ← escaped? letter
    return (x, c.skip 2)
  | some n =>
    let digits := (c.rest.drop 2).take n
    if digits.length ≠ n then none
    else
      let code ← Number.natural? 16 digits
      let x ← ofCode? code
      return (x, c.skip (2 + n))

/-- How a piece of a quoted scalar ends. -/
inductive PieceEnd where
  /-- At a blank, a line end, the closing quote or the end of the text. -/
  | plain
  /-- After a line end that was escaped. -/
  | joined
  deriving DecidableEq, Repr

/-- Reads one piece of a scalar between the given quotes. -/
def piece (quote : Char) : Nat → List Char → Cursor → Option (List Char × PieceEnd × Cursor)
  | 0, done, c => some (done.reverse, .plain, c)
  | fuel + 1, done, c =>
    match c.rest with
    | [] => some (done.reverse, .plain, c)
    | x :: _ =>
      if isBlank x || isBreak x then some (done.reverse, .plain, c)
      else if quote = '\'' && x = '\'' && c.holds 1 '\'' then
        piece quote fuel ('\'' :: done) (c.skip 2)
      else if x = quote then some (done.reverse, .plain, c)
      else if quote = '"' && x = '\\' then
        if c.satisfies 1 isBreak then some (done.reverse, .joined, (c.skip 1).takeBreak.2)
        else
          match escape? c with
          | some (y, next) => piece quote fuel (y :: done) next
          | none => none
      else piece quote fuel (x :: done) (c.skip 1)

/-- Reads pieces and gaps up to the closing quote. A document mark inside the scalar and the end
of the text are errors. -/
def scan (quote : Char) : Nat → List Char → Cursor → Option (List Char × Cursor)
  | 0, _, _ => none
  | fuel + 1, text, c =>
    if c.startsAnyMark || c.rest.isEmpty then none
    else do
      let (more, ending, next) ← piece quote (c.total + 1) [] c
      if next.holds 0 quote then some (text ++ more, next.skip 1)
      else
        let gap : Gap := if ending = .joined then .lines [] [] else .blanks []
        let (gap, next) ← Gap.scan (-1) (next.total + 1) gap next
        scan quote fuel (text ++ more ++ gap.fold) next

/-- Reads a quoted scalar whose opening quote stands at the cursor. -/
def read (quote : Char) (c : Cursor) : Option (String × Cursor) :=
  (scan quote (c.total + 1) [] (c.skip 1)).map fun (text, next) =>
    (String.ofList text, next)

end FaultGate.Yaml.Quoted
