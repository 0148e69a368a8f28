/-!
# A place in a YAML text

The characters that are still to be read, with the line and column they start at. Columns and
lines decide the structure of a block document, and the distance from a place read earlier
decides whether a key is short enough to need no mark of its own.
-/

namespace FaultGate.Yaml

/-- Does the character end a line? A carriage return and a line feed together end one line. -/
def isBreak (c : Char) : Bool :=
  c = '\n' || c = '\r' || c = '\u0085' || c = '\u2028' || c = '\u2029'

def isBlank (c : Char) : Bool :=
  c = ' ' || c = '\t'

/-- May the character stand in an anchor, a tag handle or the name of a directive? -/
def isWord (c : Char) : Bool :=
  c.isAlphanum || c = '_' || c = '-'

/-- May the character stand in a document at all? -/
def isPermitted (c : Char) : Bool :=
  let n := c.toNat
  n = 0x09 || n = 0x0a || n = 0x0d || (0x20 ≤ n && n ≤ 0x7e) || n = 0x85 ||
    (0xa0 ≤ n && n ≤ 0xd7ff) || (0xe000 ≤ n && n ≤ 0xfffd) || 0x10000 ≤ n

/-- The byte order mark, which may stand before the text. -/
def byteOrderMark : Char := '\uFEFF'

structure Cursor where
  rest : List Char
  /-- The number of characters of the whole text, which bounds what is left of it. -/
  total : Nat
  index : Nat
  line : Nat
  column : Nat
  deriving Repr

namespace Cursor

def start (text : List Char) : Cursor := ⟨text, text.length, 0, 0, 0⟩

def char? (c : Cursor) (n : Nat) : Option Char :=
  c.rest[n]?

/-- Does the given character stand `n` places on? -/
def holds (c : Cursor) (n : Nat) (x : Char) : Bool :=
  c.rest[n]? = some x

/-- Does one of the given characters stand `n` places on? -/
def holdsAny (c : Cursor) (n : Nat) (xs : List Char) : Bool :=
  match c.rest[n]? with
  | some x => xs.contains x
  | none => false

/-- Does a character of the class stand `n` places on? -/
def satisfies (c : Cursor) (n : Nat) (p : Char → Bool) : Bool :=
  match c.rest[n]? with
  | some x => p x
  | none => false

/-- Is `n` places on a blank, a line end or the end of the text? -/
def blankOrEnd (c : Cursor) (n : Nat) : Bool :=
  match c.rest[n]? with
  | some x => isBlank x || isBreak x
  | none => true

/-- Is the current line at its end? -/
def atLineEnd (c : Cursor) : Bool :=
  match c.rest with
  | x :: _ => isBreak x
  | [] => true

/-- Goes on by `n` characters of the same line. -/
def skip (c : Cursor) (n : Nat) : Cursor :=
  { c with rest := c.rest.drop n, index := c.index + n, column := c.column + n }

/-- The characters of the class that come next on the line. -/
def takeWhile (c : Cursor) (p : Char → Bool) : List Char :=
  c.rest.takeWhile p

/-- Goes on past the characters of the class that come next on the line. -/
def skipWhile (c : Cursor) (p : Char → Bool) : Cursor :=
  let n := (c.rest.takeWhile p).length
  { c with rest := c.rest.dropWhile p, index := c.index + n, column := c.column + n }

/-- The start of the next line, after a line end of `n` characters. -/
def nextLine (c : Cursor) (rest : List Char) (n : Nat) : Cursor :=
  { c with rest := rest, index := c.index + n, line := c.line + 1, column := 0 }

/-- Goes on to the next line, and tells what the line end counts as in a scalar: line and
paragraph separators stand for themselves and every other line end for a line feed. Where no
line ends, nothing is read. -/
def takeBreak (c : Cursor) : List Char × Cursor :=
  match c.rest with
  | '\r' :: '\n' :: r => (['\n'], c.nextLine r 2)
  | x :: r =>
    if isBreak x then
      ([if x = '\u2028' || x = '\u2029' then x else '\n'], c.nextLine r 1)
    else ([], c)
  | [] => ([], c)

/-- Goes on past a comment, if one starts here. -/
def skipComment (c : Cursor) : Cursor :=
  if c.holds 0 '#' then c.skipWhile fun x => !isBreak x else c

/-- Goes on to the next line if nothing but blanks and a comment is left on this one. -/
def skipLine? (c : Cursor) : Option Cursor :=
  let c := (c.skipWhile isBlank).skipComment
  if c.atLineEnd then some c.takeBreak.2 else none

/-- Does a line begin here with three of the given character, alone? -/
def startsMark (c : Cursor) (x : Char) : Bool :=
  c.column = 0 && c.holds 0 x && c.holds 1 x && c.holds 2 x && c.blankOrEnd 3

/-- Does a document start mark or end mark begin here? -/
def startsAnyMark (c : Cursor) : Bool :=
  c.startsMark '-' || c.startsMark '.'

end Cursor

end FaultGate.Yaml
