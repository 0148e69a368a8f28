import FaultGate.Settings.Decode

/-!
# Sections

A section is a table of named fields. Its fields are checked in the order in which they stand in
the document, so the first one that is wrong is the one complained of. Only then is each field
looked up, in the order in which the section declares them, and a field that is not there takes
its default or is missed. Fields that the section does not declare are ignored.
-/

namespace FaultGate.Settings

open FaultGate.Yaml (Value)

/-- What a key of a section comes to. -/
inductive FieldKey where
  | named (name : String)
  /-- The number of a field that does not exist. -/
  | ignored
  | refused (error : DecodeError)

/-- A section before its fields are read. -/
structure Section where
  entries : List (FieldKey × Value)
  /-- What is said when a field without a default is not there. -/
  missing : String → DecodeError
  /-- What is wrong with the number of entries. -/
  surplus : Option DecodeError

namespace Section

/-- A key of a section that declares the given fields. -/
def key (mode : Mode) (fields : List String) (v : Value) : FieldKey :=
  match mode, untagged v with
  | _, .string name => .named name
  | .setAside, .int n =>
    if n < 0 then .refused (.type v .fieldName)
    else
      match fields[n.toNat]? with
      | some name => .named name
      | none => .ignored
  | _, v => .refused (.type v .fieldName)

def ofEntries (mode : Mode) (fields : List String) (entries : List (Value × Value)) : Section where
  entries := entries.map fun e => (key mode fields e.1, e.2)
  missing := .missing
  surplus := none

/-- A section that is the list of its fields. -/
def ofItems (name : String) (fields : List String) (items : List Value) : Section where
  entries := (fields.map FieldKey.named).zip items
  missing := fun field => .length (fields.idxOf field) (.fields name fields.length)
  surplus :=
    if fields.length < items.length then some (.length items.length (.items fields.length))
    else none

/-- Reads the section of a name and with the given fields. -/
def ofValue (mode : Mode) (name : String) (fields : List String) : Reader Section := fun v =>
  match untagged v, mode with
  | .mapping entries, _ => .ok (ofEntries mode fields entries)
  | .null, .direct => .ok (ofEntries mode fields [])
  | .sequence items, .setAside => .ok (ofItems name fields items)
  | v, _ => .error (.type v (.table name))

/-- What a section asks of the value of one of its fields. -/
structure Rule where
  name : String
  error? : Value → Option DecodeError

/-- The rule that a field must be readable. -/
def Rule.readable {α : Type} (name : String) (read : Reader α) : Rule where
  name := name
  error? := fun v =>
    match read v with
    | .ok _ => none
    | .error e => some e

/-- The first thing that is wrong with the entries in their order, after those with the names in
`seen`. Entries that no rule is about are left to `other`, and may repeat each other. -/
def firstError (rules : List Rule) (other : Value → Option DecodeError) :
    List String → List (FieldKey × Value) → Option DecodeError
  | _, [] => none
  | seen, (.ignored, _) :: rest => firstError rules other seen rest
  | _, (.refused e, _) :: _ => some e
  | seen, (.named name, v) :: rest =>
    match rules.find? (·.name = name) with
    | none =>
      match other v with
      | some e => some e
      | none => firstError rules other seen rest
    | some rule =>
      if seen.contains name then some (.duplicate name)
      else
        match rule.error? v with
        | some e => some e
        | none => firstError rules other (name :: seen) rest

/-- Checks the fields that are there, and whatever else is there by `other`. -/
def checkWith (s : Section) (other : Value → Option DecodeError) (rules : List Rule) :
    Except DecodeError Unit :=
  match firstError rules other [] s.entries with
  | some e => .error e
  | none =>
    match s.surplus with
    | some e => .error e
    | none => .ok ()

def check (s : Section) (rules : List Rule) : Except DecodeError Unit :=
  s.checkWith (fun _ => none) rules

/-- The value of a field in a list of entries. -/
def lookup (name : String) : List (FieldKey × Value) → Option Value
  | [] => none
  | (.named other, v) :: rest => if other = name then some v else lookup name rest
  | _ :: rest => lookup name rest

/-- Reads a field that must be there. -/
def required {α : Type} (s : Section) (name : String) (read : Reader α) : Except DecodeError α :=
  match lookup name s.entries with
  | some v => read v
  | none => .error (s.missing name)

/-- Reads a field that has a default. -/
def withDefault {α : Type} (s : Section) (name : String) (read : Reader α) (default : α) :
    Except DecodeError α :=
  match lookup name s.entries with
  | some v => read v
  | none => .ok default

end Section

end FaultGate.Settings
