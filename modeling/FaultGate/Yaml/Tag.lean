import FaultGate.Yaml.Cursor
import FaultGate.Yaml.Token
import FaultGate.Number.Reading
import FaultGate.Text.Utf8

/-!
# Anchors, tags and directives

The tokens that are read from a name or a tag: `&name` and `*name`, `!suffix`, `!handle!suffix`
and `!<verbatim>`, and the two directives `%YAML` and `%TAG`.
-/

namespace FaultGate.Yaml.Tag

/-- Reads the name after the indicator of an anchor or alias. It must be followed by something
that separates it from what comes next. -/
def name? (c : Cursor) : Option (String × Cursor) :=
  let c := c.skip 1
  let name := c.takeWhile isWord
  let next := c.skipWhile isWord
  if !name.isEmpty &&
      (next.blankOrEnd 0 || next.holdsAny 0 ['?', ':', ',', ']', '}', '%', '@', '\x60']) then
    some (String.ofList name, next)
  else none

/-- Reads a handle: an exclamation mark, word characters, and an exclamation mark that may be
missing. -/
def handle (c : Cursor) : List Char × Cursor :=
  let word := (c.skip 1).takeWhile isWord
  let next := (c.skip 1).skipWhile isWord
  if next.holds 0 '!' then ('!' :: word ++ ['!'], next.skip 1) else ('!' :: word, next)

/-- May the character stand in a tag? Between angle brackets and in directives the indicators of
sequences in brackets may as well. -/
def isTagChar (verbatim : Bool) (x : Char) : Bool :=
  isWord x ||
    [';', '/', '?', ':', '@', '&', '=', '+', '$', '.', '%', '!', '~', '*', '\'', '(', ')'].contains
      x ||
    (verbatim && [',', '[', ']'].contains x)

/-- How many bytes the character has that starts with the given one. -/
def byteCount? (b : Nat) : Option Nat :=
  if b < 0x80 then some 1
  else if 0xc0 ≤ b && b < 0xe0 then some 2
  else if 0xe0 ≤ b && b < 0xf0 then some 3
  else if 0xf0 ≤ b && b < 0xf8 then some 4
  else none

/-- Reads a byte written as a percent sign and two hexadecimal digits. -/
def escapedByte? (c : Cursor) : Option (Nat × Cursor) := do
  if c.holds 0 '%' then
    let high ← (c.char? 1).bind (Number.digitValue? 16)
    let low ← (c.char? 2).bind (Number.digitValue? 16)
    return (high * 16 + low, c.skip 3)
  else none

/-- Reads the given number of escaped bytes that continue a character. -/
def tailBytes : Nat → List Nat → Cursor → Option (List Nat × Cursor)
  | 0, done, c => some (done.reverse, c)
  | n + 1, done, c => do
    let (b, next) ← escapedByte? c
    if 0x80 ≤ b && b < 0xc0 then tailBytes n (b :: done) next else none

/-- Reads one character that is written in escaped bytes. -/
def escapedChar? (c : Cursor) : Option (List Char × Cursor) := do
  let (first, next) ← escapedByte? c
  let count ← byteCount? first
  let (bytes, next) ← tailBytes (count - 1) [first] next
  return ((Text.decodeLossy (bytes.map UInt8.ofNat)).toList, next)

/-- Reads the characters of a tag onto those that are read already. -/
def chars (verbatim : Bool) : Nat → List Char → Cursor → Option (List Char × Cursor)
  | 0, done, c => some (done, c)
  | fuel + 1, done, c =>
    match c.rest with
    | [] => some (done, c)
    | x :: _ =>
      if x = '%' then
        match escapedChar? c with
        | some (y, next) => chars verbatim fuel (done ++ y) next
        | none => none
      else if isTagChar verbatim x then chars verbatim fuel (done ++ [x]) (c.skip 1)
      else some (done, c)

/-- Reads the rest of a tag, after `start` characters of it that were taken for a handle. It
must not be empty altogether. -/
def suffix? (verbatim : Bool) (start : List Char) (c : Cursor) : Option (String × Cursor) := do
  let (text, next) ← chars verbatim (c.total + 1) (start.drop 1) c
  if start.isEmpty && next.index = c.index then none else return (String.ofList text, next)

/-- The handle and suffix of a tag that stands at the cursor. What looks like a handle without a
second exclamation mark is the start of the suffix; a lone exclamation mark is a suffix without
handle. -/
def parts? (c : Cursor) : Option (String × String × Cursor) := do
  if c.holds 1 '<' then
    let (suffix, next) ← suffix? true [] (c.skip 2)
    if next.holds 0 '>' then return ("", suffix, next.skip 1) else none
  else
    let (head, next) := handle c
    if head.length ≠ 1 && head.getLast? = some '!' then
      let (suffix, next) ← suffix? false [] next
      return (String.ofList head, suffix, next)
    else
      let (suffix, next) ← suffix? false head next
      if suffix.isEmpty then return ("", "!", next) else return ("!", suffix, next)

/-- Reads a tag. It must be followed by a blank or a line end, or in brackets by a comma. -/
def read (inFlow : Bool) (c : Cursor) : Option (Token × Cursor) := do
  let (handle, suffix, next) ← parts? c
  if (inFlow && next.holds 0 ',') || next.blankOrEnd 0 then return (.tag handle suffix, next)
  else none

/-- Reads a number of a version, of nine digits at most. -/
def versionNumber? (c : Cursor) : Option (Nat × Cursor) := do
  let digits := c.takeWhile Char.isDigit
  if 9 < digits.length then none
  else
    let n ← Number.natural? 10 digits
    return (n, c.skipWhile Char.isDigit)

/-- Reads the version of a `%YAML` directive. -/
def version? (c : Cursor) : Option (Token × Cursor) := do
  let (major, c) ← versionNumber? (c.skipWhile isBlank)
  if c.holds 0 '.' then
    let (minor, c) ← versionNumber? (c.skip 1)
    return (.versionDirective major minor, c)
  else none

/-- Reads the handle and the expansion of a `%TAG` directive. -/
def definition? (c : Cursor) : Option (Token × Cursor) := do
  let c := c.skipWhile isBlank
  if c.holds 0 '!' then
    let (head, c) := handle c
    if head ≠ ['!'] && head.getLast? ≠ some '!' then none
    else if !c.satisfies 0 isBlank then none
    else
      let (expansion, c) ← suffix? true [] (c.skipWhile isBlank)
      if c.blankOrEnd 0 then return (.tagDirective (String.ofList head) expansion, c) else none
  else none

/-- Reads the directive whose percent sign stands at the cursor, and the rest of its line. -/
def directive? (c : Cursor) : Option (Token × Cursor) := do
  let c := c.skip 1
  let name := c.takeWhile isWord
  let next := c.skipWhile isWord
  if name.isEmpty || !next.blankOrEnd 0 then none
  else
    let (token, next) ←
      if name = "YAML".toList then version? next
      else if name = "TAG".toList then definition? next
      else none
    let next ← next.skipLine?
    return (token, next)

end FaultGate.Yaml.Tag
