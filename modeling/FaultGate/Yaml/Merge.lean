import FaultGate.Yaml.Value

/-!
# Laying one value over another

Where both values are mappings, they are merged key by key: the keys of the base keep their
places, and new keys follow in the order of the overlay. Everywhere else the overlay's value is
taken whole.
-/

namespace FaultGate.Yaml.Value

/-- The entries with the value of a key replaced, or with a new entry at the end if the key is not
there. -/
def alter (entries : List (Value × Value)) (key : Value) (old : Value → Value) (new : Value) :
    List (Value × Value) :=
  match entries with
  | [] => [(key, new)]
  | (k, v) :: rest =>
    if same k key then (k, old v) :: rest else (k, v) :: alter rest key old new

mutual

/-- The base with the overlay laid over it. -/
def merge (base : Value) : Value → Value
  | .mapping overlay =>
    match base with
    | .mapping entries => .mapping (mergeEntries entries overlay)
    | _ => .mapping overlay
  | .null => .null
  | .bool b => .bool b
  | .int n => .int n
  | .real x => .real x
  | .string s => .string s
  | .sequence items => .sequence items
  | .tagged tag content => .tagged tag content
termination_by structural overlay => overlay

/-- The entries with those of the overlay laid over them. -/
def mergeEntries (entries : List (Value × Value)) : List (Value × Value) → List (Value × Value)
  | [] => entries
  | (key, value) :: rest =>
    mergeEntries (alter entries key (fun old => merge old value) value) rest
termination_by structural overlay => overlay

end

end FaultGate.Yaml.Value
