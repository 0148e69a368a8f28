import FaultGate.Yaml.Scalar.Gap

/-!
# Plain scalars

A plain scalar has no marks of its own. It goes on, over several lines if they are indented far
enough, until something that cannot be part of it: a comment, a colon before a blank, a document
mark, and inside brackets also a comma or a bracket.
-/

namespace FaultGate.Yaml.Plain

/-- The characters that separate and close the items of a collection in brackets. -/
def flowIndicators : List Char := [',', '[', ']', '{', '}']

/-- Reads one piece, up to a blank, a line end or what ends the scalar. In brackets a colon that
touches an indicator is an error. -/
def piece (inFlow : Bool) : Nat → List Char → Cursor → Option (List Char × Cursor)
  | 0, done, c => some (done.reverse, c)
  | fuel + 1, done, c =>
    match c.rest with
    | [] => some (done.reverse, c)
    | x :: _ =>
      if isBlank x || isBreak x then some (done.reverse, c)
      else if inFlow && x = ':' && c.holdsAny 1 ('?' :: flowIndicators) then none
      else if x = ':' && c.blankOrEnd 1 then some (done.reverse, c)
      else if inFlow && flowIndicators.contains x then some (done.reverse, c)
      else piece inFlow fuel (x :: done) (c.skip 1)

/-- Reads pieces and the gaps between them. A gap belongs to the scalar only when a piece
follows it. The last gap is returned with the text, since one that spans lines lets a key
follow. -/
def scan (inFlow : Bool) (margin : Int) :
    Nat → List Char → Gap → Cursor → Option (List Char × Gap × Cursor)
  | 0, text, gap, c => some (text, gap, c)
  | fuel + 1, text, gap, c =>
    if c.startsAnyMark || c.holds 0 '#' then some (text, gap, c)
    else do
      let (more, next) ← piece inFlow (c.total + 1) [] c
      let (text, gap) :=
        if more.isEmpty then (text, gap) else (text ++ gap.fold ++ more, Gap.blanks [])
      if next.satisfies 0 fun x => isBlank x || isBreak x then
        let (gap, next) ← Gap.scan margin (next.total + 1) gap next
        if !inFlow && (next.column : Int) < margin then some (text, gap, next)
        else scan inFlow margin fuel text gap next
      else some (text, gap, next)

/-- Reads a plain scalar. Its further lines must be indented more than `indent` unless it stands
in brackets. The flag tells whether the cursor has come to another line. -/
def read (inFlow : Bool) (indent : Int) (c : Cursor) : Option (String × Bool × Cursor) := do
  let (text, gap, next) ←
    scan inFlow (indent + 1) (c.total + 1) [] (.blanks []) c
  return (String.ofList text, gap.spansLines, next)

end FaultGate.Yaml.Plain
