import FaultGate.Number.Binary64

/-!
# YAML values

What a document says once its anchors, tags and spellings are read. The entries of a mapping keep
their order, and no two keys of one mapping are the same value. Two mappings are the same value
whatever the order of their entries.
-/

namespace FaultGate.Yaml

inductive Value where
  | null
  | bool (b : Bool)
  | int (n : Int)
  | real (x : Number.Binary64)
  | string (s : String)
  | sequence (items : List Value)
  | mapping (entries : List (Value × Value))
  | tagged (tag : String) (content : Value)
  deriving Inhabited

namespace Value

mutual

def same : Value → Value → Bool
  | .null, .null => true
  | .bool a, .bool b => a = b
  | .int a, .int b => a = b
  | .real a, .real b => a.same b
  | .string a, .string b => a = b
  | .sequence as, .sequence bs => sameItems as bs
  | .mapping as, .mapping bs => within as bs && bs.all (holds as)
  | .tagged t a, .tagged u b => t = u && same a b
  | _, _ => false
termination_by structural a => a

/-- Are the items of the two sequences the same, one by one? -/
def sameItems : List Value → List Value → Bool
  | [], [] => true
  | a :: as, b :: bs => same a b && sameItems as bs
  | _, _ => false
termination_by structural a => a

/-- Do the second entries hold all of the first? -/
def within : List (Value × Value) → List (Value × Value) → Bool
  | [], _ => true
  | (k, a) :: as, bs => bs.any (fun e => same k e.1 && same a e.2) && within as bs
termination_by structural a => a

/-- Do the entries hold the given one? -/
def holds : List (Value × Value) → Value × Value → Bool
  | [], _ => false
  | (k, a) :: as, e => (same k e.1 && same a e.2) || holds as e
termination_by structural a => a

end

/-- The value of the first entry with the given key. -/
def entry? (key : Value) : List (Value × Value) → Option Value
  | [] => none
  | (k, v) :: rest => if same k key then some v else entry? key rest

/-- The value that a path of keys leads to. -/
def at? (v : Value) : List Value → Option Value
  | [] => some v
  | key :: path =>
    match v with
    | .mapping entries =>
      match entry? key entries with
      | some inner => at? inner path
      | none => none
    | _ => none

def isMapping : Value → Bool
  | .mapping _ => true
  | _ => false

end Value

end FaultGate.Yaml
