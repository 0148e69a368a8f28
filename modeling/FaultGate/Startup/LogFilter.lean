import FaultGate.Log
import FaultGate.Number.Reading
import FaultGate.Text.LetterTable

/-!
# Log filters

A filter is a list of directives separated by commas. A directive sets a threshold for
everything, or for the events whose origin begins with a name; of those that fit an event, the
most specific one counts. Between brackets it may ask for a span and for a field as well: a
directive that asks for a span or for the value of a field is about what happens inside of spans,
and since there are none here, it is read and lets nothing pass. The value of a field may be
any text, whether it is a pattern or not.
-/

namespace FaultGate.Log

/-- Which events pass: none, or those at least as grave as a level. -/
inductive Threshold where
  | off
  | atLeast (level : Level)
  deriving DecidableEq, Repr

def Level.rank : Level → Nat
  | .trace => 0
  | .debug => 1
  | .info => 2
  | .warn => 3
  | .error => 4

/-- Does an event of the level pass? -/
def Threshold.passes (t : Threshold) (level : Level) : Bool :=
  match t with
  | .off => false
  | .atLeast least => least.rank ≤ level.rank

/-- The threshold with a number. -/
def Threshold.ofNumber? : Nat → Option Threshold
  | 0 => some .off
  | 1 => some (.atLeast .error)
  | 2 => some (.atLeast .warn)
  | 3 => some (.atLeast .info)
  | 4 => some (.atLeast .debug)
  | 5 => some (.atLeast .trace)
  | _ => none

/-- The threshold with a name, which is given in lower case. -/
def Threshold.ofName? (name : String) : Option Threshold :=
  [("", Threshold.atLeast .error), ("error", .atLeast .error), ("warn", .atLeast .warn),
    ("info", .atLeast .info), ("debug", .atLeast .debug), ("trace", .atLeast .trace),
    ("off", .off)].lookup name

/-- Reads a threshold, by its number or by its name in any case. -/
def Threshold.ofText? (text : List Char) : Option Threshold :=
  match (Number.unsigned? UInt64.size text).bind Threshold.ofNumber? with
  | some threshold => some threshold
  | none => Threshold.ofName? (String.ofList (text.map Char.toLower))

/-- What a directive asks for of a field: that it is there, and which value it has. -/
structure FieldMatch where
  name : String
  value : Option String
  deriving DecidableEq, Repr

/-- A threshold for the events or the spans that it is about. A comma would end the directive, so
that there is no second field. -/
structure Directive where
  /-- What the origin begins with. -/
  target : Option String
  /-- The name of a span. -/
  span : Option String
  field : Option FieldMatch
  threshold : Threshold
  deriving DecidableEq, Repr

/-- Why a text is no directive. -/
inductive DirectiveError where
  | malformed
  | threshold
  deriving DecidableEq, Repr

def DirectiveError.message : DirectiveError → String
  | .malformed => "invalid filter directive"
  | .threshold =>
    "error parsing level filter: expected one of \"off\", \"error\", \"warn\", \"info\", " ++
      "\"debug\", \"trace\", or a number 0-5"

namespace Directive

/-- Can a directive begin with the character, if not with a bracket? -/
def startsName (c : Char) : Bool :=
  Text.isAlphanumeric c || c = '-' || c = ':' || c = '_'

/-- Reads the threshold after an equals sign. Without one, everything passes. -/
def readThreshold (text : List Char) : Except DirectiveError Threshold :=
  if text.isEmpty then .ok (.atLeast .trace)
  else
    match Threshold.ofText? text with
    | some threshold => .ok threshold
    | none => .error .threshold

/-- Reads what stands after the closing bracket. -/
def readEnd : List Char → Except DirectiveError Threshold
  | [] => .ok (.atLeast .trace)
  | '=' :: text => readThreshold text
  | _ => .error .malformed

/-- Reads a field: its name, and its value after an equals sign. -/
def field? (text : List Char) : Option FieldMatch :=
  match text, text.splitOn '=' with
  | [], _ => none
  | _, name :: value :: _ => some ⟨String.ofList name, some (String.ofList value)⟩
  | _, _ => some ⟨String.ofList text, none⟩

/-- Reads what stands after the opening bracket: the name of a span, and a field between
braces. -/
def readSpan (target : Option String) (text : List Char) : Except DirectiveError Directive :=
  let name := text.takeWhile fun c => c ≠ ']' && c ≠ '\x7b'
  match text.dropWhile fun c => c ≠ ']' && c ≠ '\x7b' with
  | ']' :: rest => (readEnd rest).map (⟨target, some (String.ofList name), none, ·⟩)
  | '\x7b' :: inside =>
    let span := if name.isEmpty then none else some (String.ofList name)
    match field? (inside.takeWhile (· ≠ '\x7d')), inside.dropWhile (· ≠ '\x7d') with
    | some field, '\x7d' :: ']' :: rest => (readEnd rest).map (⟨target, span, some field, ·⟩)
    | _, _ => .error .malformed
  | _ => .error .malformed

/-- Reads a directive. A name alone is that of a threshold if there is such a one, and else that
of an origin of which everything passes. -/
def read : List Char → Except DirectiveError Directive
  | [] => .error .malformed
  | '[' :: rest => readSpan none rest
  | first :: rest =>
    if !startsName first then .error .malformed
    else
      let name := (first :: rest).takeWhile fun c => c ≠ '=' && c ≠ '['
      let target := some (String.ofList name)
      match (first :: rest).dropWhile fun c => c ≠ '=' && c ≠ '[' with
      | '=' :: text => (readThreshold text).map (⟨target, none, none, ·⟩)
      | '[' :: text => readSpan target text
      | _ =>
        match Threshold.ofText? name with
        | some threshold => .ok ⟨none, none, none, threshold⟩
        | none => .ok ⟨target, none, none, .atLeast .trace⟩

/-- Is the directive about events outside of spans too? -/
def isStatic (d : Directive) : Bool :=
  d.span.isNone && d.field.all (·.value.isNone)

/-- Is the directive about the event? Of the names of its fields one is that of the message. -/
def covers (d : Directive) (e : Event) : Bool :=
  d.target.all (fun name => name.toList.isPrefixOf e.origin.target.toList) &&
    d.field.all fun field => field.name = "message" || (e.fields.lookup field.name).isSome

/-- How much of an origin the directive names, counted so that none at all comes last. -/
def reach (d : Directive) : Nat :=
  match d.target with
  | none => 0
  | some name => name.utf8ByteSize + 1

/-- Is the directive as specific as another one, or more so? The longer name of an origin
counts first, then that a field is asked for, and then the order of the names of the fields. -/
def outranks (d other : Directive) : Bool :=
  other.reach < d.reach || other.reach = d.reach &&
    match other.field, d.field with
    | none, _ => true
    | some _, none => false
    | some a, some b => a.name ≤ b.name

/-- The more specific one of two directives, and the later one if neither is. -/
def preferred (best : Option Directive) (d : Directive) : Option Directive :=
  if best.all d.outranks then some d else best

end Directive

/-- The texts of the directives in a filter. -/
def directiveTexts (filter : String) : List (List Char) :=
  (filter.toList.splitOn ',').filter fun text => !text.isEmpty

/-- A filter: its directives, and the texts that were none, with the reason. -/
structure Filter where
  directives : List Directive
  ignored : List (String × DirectiveError)
  deriving DecidableEq, Repr

namespace Filter

/-- Reads a filter in which every directive must be readable. -/
def strict? (text : String) : Option Filter :=
  ((directiveTexts text).mapM fun d => (Directive.read d).toOption).map (⟨·, []⟩)

/-- Reads a filter whose unreadable directives are ignored. -/
def lenient (text : String) : Filter where
  directives := (directiveTexts text).filterMap fun d => (Directive.read d).toOption
  ignored := (directiveTexts text).filterMap fun d =>
    match Directive.read d with
    | .ok _ => none
    | .error error => some (String.ofList d, error)

/-- The directive that counts for an event: the most specific one that is about it, of several
equal ones the last. -/
def chosen? (f : Filter) (e : Event) : Option Directive :=
  (f.directives.filter fun d => d.isStatic && d.covers e).foldl Directive.preferred none

/-- The threshold for an event. Without any directive only errors pass. -/
def threshold (f : Filter) (e : Event) : Threshold :=
  if f.directives.isEmpty then .atLeast .error
  else
    match f.chosen? e with
    | some d => d.threshold
    | none => .off

def passes (f : Filter) (e : Event) : Bool :=
  (f.threshold e).passes e.level

end Filter

end FaultGate.Log
