import FaultGate.Yaml.Event
import FaultGate.Yaml.Schema

/-!
# From a YAML text to its value

A document is read event by event. An alias is read by reading what it repeats once more, and the
number of such repetitions is bounded by the number of events, so a small text cannot stand for a
huge value. Collections may be nested to a fixed depth only.
-/

namespace FaultGate.Yaml

inductive ReadError where
  /-- Something at a place in the text is wrong. -/
  | misplaced
  | repetition
  /-- The text goes on after its first document. -/
  | severalDocuments
  deriving DecidableEq, Repr

/-- The error in words, where it can be told without a place in the text. -/
def ReadError.message? : ReadError → Option String
  | .misplaced => none
  | .repetition => some "repetition limit exceeded"
  | .severalDocuments =>
    some "deserializing from YAML containing more than one document is not supported"

namespace Document

def maxDepth : Nat := 128

/-- How many aliases may be read, for each event of the document. -/
def maxRepetition : Nat := 100

/-- A place in the events, and the number of aliases read so far. -/
structure Place where
  position : Nat
  repeated : Nat

def Place.next (p : Place) : Place :=
  { p with position := p.position + 1 }

/-- A tag of the document's own, without its exclamation mark unless there is nothing else to
it. -/
def ownTag? (tag : Option String) : Option String :=
  match tag.map String.toList with
  | some ['!'] => some "!"
  | some ['!', '!'] => some "!"
  | some ('!' :: '!' :: name) => some (String.ofList name)
  | some ('!' :: name) => some (String.ofList name)
  | _ => none

/-- The place of what an alias repeats. -/
def repeat? (d : Document) (slot : Nat) (p : Place) : Except ReadError Place :=
  if maxRepetition * d.events.size ≤ p.repeated then .error .repetition
  else
    match d.slots.lookup slot with
    | some position => .ok ⟨position, p.repeated + 1⟩
    | none => .error .misplaced

mutual

/-- Reads the node at a place. `tagged` holds for the content of a tagged value, whose tag is read
already. -/
def node (d : Document) : Nat → Nat → Bool → Place → Except ReadError (Value × Place)
  | 0, _, _, _ => .error .misplaced
  | fuel + 1, depth, tagged, p =>
    match d.events[p.position]? with
    | some (.aliasOf slot) => do
      let target ← d.repeat? slot p
      let (v, after) ← node d fuel depth false target
      return (v, ⟨p.position + 1, after.repeated⟩)
    | some (.scalar tag text plain) =>
      match if tagged then none else ownTag? tag with
      | some own => do
        let (v, after) ← node d fuel depth true p
        return (.tagged own v, after)
      | none =>
        match Schema.scalar? (if tagged then none else tag) text plain with
        | some v => .ok (v, p.next)
        | none => .error .misplaced
    | some (.sequenceStart tag) =>
      match if tagged then none else ownTag? tag with
      | some own => do
        let (v, after) ← node d fuel depth true p
        return (.tagged own v, after)
      | none =>
        match depth with
        | 0 => .error .misplaced
        | depth + 1 => items d fuel depth [] p.next
    | some (.mappingStart tag) =>
      match if tagged then none else ownTag? tag with
      | some own => do
        let (v, after) ← node d fuel depth true p
        return (.tagged own v, after)
      | none =>
        match depth with
        | 0 => .error .misplaced
        | depth + 1 => entries d fuel depth tagged [] p.next
    | _ => .error .misplaced

/-- Reads the items of a sequence onto those that are read already, the last one first. -/
def items (d : Document) :
    Nat → Nat → List Value → Place → Except ReadError (Value × Place)
  | 0, _, _, _ => .error .misplaced
  | fuel + 1, depth, done, p =>
    match d.events[p.position]? with
    | some .sequenceEnd => .ok (.sequence done.reverse, p.next)
    | _ =>
      match node d fuel depth false p with
      | .ok (v, after) => items d fuel depth (v :: done) after
      | .error e => .error e

/-- Reads the entries of a mapping onto those that are read already, the last one first. The
keys of the content of a tagged value are read like that content itself. -/
def entries (d : Document) :
    Nat → Nat → Bool → List (Value × Value) → Place → Except ReadError (Value × Place)
  | 0, _, _, _, _ => .error .misplaced
  | fuel + 1, depth, tagged, done, p =>
    match d.events[p.position]? with
    | some .mappingEnd => .ok (.mapping done.reverse, p.next)
    | _ =>
      match node d fuel depth tagged p with
      | .error e => .error e
      | .ok (key, after) =>
        if (Value.entry? key done).isSome then .error .misplaced
        else
          match node d fuel depth false after with
          | .error e => .error e
          | .ok (v, after) => entries d fuel depth tagged ((key, v) :: done) after

end

/-- The value of a document. At each depth no more than all events are read one after the other,
and between two depths no more than a tag and an alias are, so the fuel suffices. -/
def value? (d : Document) : Except ReadError Value := do
  let fuel := (d.events.size + 4) * (maxDepth + 2)
  let (v, _) ← d.node fuel maxDepth false ⟨0, 0⟩
  match d.ending with
  | .broken => .error .misplaced
  | .followed => .error .severalDocuments
  | .last => .ok v

end Document

/-- The value of a text. One that holds no document is null. -/
def Value.ofText (text : String) : Except ReadError Value :=
  match Document.ofTokens? (Token.ofText text) with
  | none => .ok .null
  | some d => d.value?

end FaultGate.Yaml
