import FaultGate.Yaml.Cursor

/-!
# What stands between two pieces of a scalar

In plain and quoted scalars the blanks and line ends between two pieces of text are folded: blanks
on one line stand for themselves, a single line end becomes a space, and of several line ends the
first is dropped. Blanks beside a line end are dropped as well.
-/

namespace FaultGate.Yaml

/-- The blanks of one line, or the first line end with the further ones. -/
inductive Gap where
  | blanks (text : List Char)
  | lines (first more : List Char)
  deriving Repr

namespace Gap

/-- Has a line ended within the gap? -/
def spansLines : Gap → Bool
  | .blanks _ => false
  | .lines _ _ => true

/-- What the gap stands for. A first line end that is a separator of its own is kept, and one
that was escaped is nothing to begin with. -/
def fold : Gap → List Char
  | .blanks text => text
  | .lines first more =>
    if first = ['\n'] then if more.isEmpty then [' '] else more else first ++ more

/-- Reads blanks and line ends. A tab that stands before the column `margin` of a further line
is an error. -/
def scan (margin : Int) : Nat → Gap → Cursor → Option (Gap × Cursor)
  | 0, gap, c => some (gap, c)
  | fuel + 1, gap, c =>
    match c.rest with
    | [] => some (gap, c)
    | x :: _ =>
      if isBlank x then
        match gap with
        | .blanks text => scan margin fuel (.blanks (text ++ [x])) (c.skip 1)
        | .lines _ _ =>
          if x = '\t' && (c.column : Int) < margin then none
          else scan margin fuel gap (c.skip 1)
      else if isBreak x then
        let (text, next) := c.takeBreak
        match gap with
        | .blanks _ => scan margin fuel (.lines text []) next
        | .lines first more => scan margin fuel (.lines first (more ++ text)) next
      else some (gap, c)

end Gap

end FaultGate.Yaml
