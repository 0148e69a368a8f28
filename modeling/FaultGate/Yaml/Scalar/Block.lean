import FaultGate.Yaml.Cursor

/-!
# Block scalars

A block scalar is the lines below its header that are indented at least as far as the first one
that is not empty, or as far as the header says. A literal scalar keeps the line ends; a folded
one turns each single line end between two lines that do not start with a blank into a space.
What becomes of the line ends after the last line is the header's choice.
-/

namespace FaultGate.Yaml.Block

/-- What becomes of the line ends at the end of a block scalar. -/
inductive Chomping where
  /-- All are dropped. -/
  | strip
  /-- The first is kept. -/
  | clip
  /-- All are kept. -/
  | keep
  deriving DecidableEq, Repr

/-- Reads a chomping indicator, if one stands here. -/
def chomping (c : Cursor) : Chomping × Cursor :=
  if c.holds 0 '+' then (.keep, c.skip 1)
  else if c.holds 0 '-' then (.strip, c.skip 1)
  else (.clip, c)

/-- Reads an indentation indicator: a digit other than zero, or nothing, which counts as zero. -/
def indentation (c : Cursor) : Option (Nat × Cursor) :=
  match c.rest with
  | x :: _ =>
    if x = '0' then none
    else if x.isDigit then some (x.toNat - 0x30, c.skip 1)
    else some (0, c)
  | [] => some (0, c)

/-- Reads the two indicators of a header, in either order. -/
def header (c : Cursor) : Option (Chomping × Nat × Cursor) := do
  if c.holdsAny 0 ['+', '-'] then
    let (chomp, c) := chomping c
    let (increment, c) ← indentation c
    return (chomp, increment, c)
  else
    let (increment, c) ← indentation c
    let (chomp, c) := if increment = 0 then (.clip, c) else chomping c
    return (chomp, increment, c)

/-- Goes past indentation spaces, as far as the indentation goes or, while it is not known
(zero), as far as there are spaces. -/
def skipIndentation (indent : Nat) (c : Cursor) : Cursor :=
  let spaces := (c.rest.takeWhile (· = ' ')).length
  if indent = 0 then c.skip spaces else c.skip (min spaces (indent - c.column))

/-- Reads empty lines, and the indentation of the line after them. A tab within the indentation
is an error. The greatest column reached on the way is returned as well. -/
def emptyLines (indent : Nat) :
    Nat → Nat → List Char → Cursor → Option (Nat × List Char × Cursor)
  | 0, deepest, breaks, c => some (deepest, breaks, c)
  | fuel + 1, deepest, breaks, c =>
    let c := skipIndentation indent c
    let deepest := max deepest c.column
    if (indent = 0 || c.column < indent) && c.holds 0 '\t' then none
    else if c.satisfies 0 isBreak then
      let (text, next) := c.takeBreak
      emptyLines indent fuel deepest (breaks ++ text) next
    else some (deepest, breaks, c)

structure Lines where
  text : List Char
  lastBreak : List Char
  /-- The ends of the empty lines after it. -/
  emptyBreaks : List Char
  /-- Did the last line start with a blank? -/
  startedBlank : Bool

/-- The text with what comes between the last line and a further one that starts with a blank or
does not. -/
def Lines.joined (l : Lines) (literal startsBlank : Bool) : List Char :=
  if !literal && l.lastBreak = ['\n'] && !l.startedBlank && !startsBlank then
    l.text ++ (if l.emptyBreaks.isEmpty then [' '] else []) ++ l.emptyBreaks
  else l.text ++ l.lastBreak ++ l.emptyBreaks

/-- Reads the lines that stand at the indentation. -/
def lines (literal : Bool) (indent : Nat) : Nat → Lines → Cursor → Option (Lines × Cursor)
  | 0, l, c => some (l, c)
  | fuel + 1, l, c =>
    if c.column = indent && !c.rest.isEmpty then do
      let startsBlank := c.satisfies 0 isBlank
      let text := l.joined literal startsBlank ++ c.takeWhile fun x => !isBreak x
      let (lastBreak, next) := (c.skipWhile fun x => !isBreak x).takeBreak
      let (_, emptyBreaks, next) ← emptyLines indent (next.total + 1) 0 [] next
      lines literal indent fuel ⟨text, lastBreak, emptyBreaks, startsBlank⟩ next
    else some (l, c)

/-- Reads a block scalar whose indicator stands at the cursor, inside a block indented by
`parentIndent`. -/
def read (literal : Bool) (parentIndent : Int) (c : Cursor) : Option (String × Cursor) := do
  let (chomp, increment, c) ← header (c.skip 1)
  let c ← c.skipLine?
  let given := if increment = 0 then 0 else (max parentIndent 0).toNat + increment
  let (deepest, breaks, c) ← emptyLines given (c.total + 1) 0 [] c
  let indent := if given = 0 then max (max deepest (parentIndent + 1).toNat) 1 else given
  let (l, c) ← lines literal indent (c.total + 1) ⟨[], [], breaks, false⟩ c
  let tail :=
    match chomp with
    | .strip => []
    | .clip => l.lastBreak
    | .keep => l.lastBreak ++ l.emptyBreaks
  return (String.ofList (l.text ++ tail), c)

end FaultGate.Yaml.Block
