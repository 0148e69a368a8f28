import FaultGate.Number.Shortest
import FaultGate.Text.Quoted
import FaultGate.Yaml.Value

/-!
# Reading settings out of YAML values

Readers turn a value into a setting or tell what is wrong with it. Nothing is converted: a
number is no text, and a text is no truth value.

A document may be read directly, or a part of it may be set aside first and read after the rest.
What was set aside is read by other rules: it may hold no tags, an empty section is not null, a
section may also be a list of its fields, and a field may be named by its number.
-/

namespace FaultGate.Settings

open FaultGate.Yaml (Value)

/-- What a reader wants a value to be. -/
inductive Wanted where
  | text
  | flag
  | word16
  | word64
  | list
  | fieldName
  | table (name : String)
  /-- As many items as the section has fields. -/
  | fields (name : String) (count : Nat)
  | items (count : Nat)
  deriving DecidableEq, Repr

def elementCount (n : Nat) : String :=
  if n = 1 then "1 element" else Nat.repr n ++ " elements"

def Wanted.words : Wanted → String
  | .text => "a string"
  | .flag => "a boolean"
  | .word16 => "u16"
  | .word64 => "u64"
  | .list => "a sequence"
  | .fieldName => "field identifier"
  | .table name => "struct " ++ name
  | .fields name count => "struct " ++ name ++ " with " ++ elementCount count
  | .items count => elementCount count ++ " in sequence"

inductive DecodeError where
  | type (found : Value) (wanted : Wanted)
  | range (found : Int) (wanted : Wanted)
  | length (found : Nat) (wanted : Wanted)
  | missing (field : String)
  | duplicate (field : String)
  /-- A tag in what was set aside. -/
  | tagSetAside

def backquoted (s : String) : String :=
  "\x60" ++ s ++ "\x60"

def decimal (n : Int) : String :=
  match n with
  | .ofNat k => Nat.repr k
  | .negSucc k => "-" ++ Nat.repr (k + 1)

/-- What sort of value was found, in words. -/
def foundWords : Value → String
  | .null => "unit value"
  | .bool true => "boolean " ++ backquoted "true"
  | .bool false => "boolean " ++ backquoted "false"
  | .int n => "integer " ++ backquoted (decimal n)
  | .real x => "floating point " ++ backquoted x.render
  | .string s => "string " ++ Text.quoted s
  | .sequence _ => "sequence"
  | .mapping _ => "map"
  | .tagged _ content => foundWords content

def DecodeError.message : DecodeError → String
  | .type found wanted =>
    "invalid type: " ++ foundWords found ++ ", expected " ++ wanted.words
  | .range found wanted =>
    "invalid value: integer " ++ backquoted (decimal found) ++ ", expected " ++ wanted.words
  | .length found wanted =>
    "invalid length " ++ Nat.repr found ++ ", expected " ++ wanted.words
  | .missing field => "missing field " ++ backquoted field
  | .duplicate field => "duplicate field " ++ backquoted field
  | .tagSetAside => "untagged and internally tagged enums do not support enum input"

abbrev Reader (α : Type) := Value → Except DecodeError α

def untagged : Value → Value
  | .tagged _ content => untagged content
  | v => v

def text : Reader String := fun v =>
  match untagged v with
  | .string s => .ok s
  | v => .error (.type v .text)

def flag : Reader Bool := fun v =>
  match untagged v with
  | .bool b => .ok b
  | v => .error (.type v .flag)

/-- Reads an integer that must be at least zero and below a bound. -/
def word (bound : Nat) (wanted : Wanted) : Reader Nat := fun v =>
  match untagged v with
  | .int n => if 0 ≤ n && n < (bound : Int) then .ok n.toNat else .error (.range n wanted)
  | v => .error (.type v wanted)

def word16 : Reader UInt16 := fun v =>
  (word UInt16.size .word16 v).map UInt16.ofNat

def word64 : Reader UInt64 := fun v =>
  (word UInt64.size .word64 v).map UInt64.ofNat

/-- Reads a setting that null leaves out. -/
def optional {α : Type} (read : Reader α) : Reader (Option α) := fun v =>
  match v with
  | .null => .ok none
  | v => (read v).map some

/-- How a part of a document is read. -/
inductive Mode where
  | direct
  | setAside
  deriving DecidableEq, Repr

/-- Reads a list whose items are read by the given reader, up to the first item that is wrong. -/
def list {α : Type} (mode : Mode) (read : Reader α) : Reader (List α) := fun v =>
  match untagged v with
  | .sequence items => items.mapM read
  | .null =>
    match mode with
    | .direct => .ok []
    | .setAside => .error (.type .null .list)
  | v => .error (.type v .list)

mutual

/-- Is there a tag anywhere in the value? -/
def hasTag : Value → Bool
  | .tagged _ _ => true
  | .sequence items => anyTag items
  | .mapping entries => anyEntryTag entries
  | _ => false
termination_by structural v => v

/-- Is there a tag in one of the items? -/
def anyTag : List Value → Bool
  | [] => false
  | v :: rest => hasTag v || anyTag rest
termination_by structural items => items

/-- Is there a tag in one of the keys or values? -/
def anyEntryTag : List (Value × Value) → Bool
  | [] => false
  | (k, v) :: rest => hasTag k || hasTag v || anyEntryTag rest
termination_by structural entries => entries

end

end FaultGate.Settings
