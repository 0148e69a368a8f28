import FaultGate.Settings.Handler
import FaultGate.Text.Utf8
import FaultGate.Yaml.Merge
import FaultGate.Yaml.Reading

/-!
# Settings from files

A base file, and an overlay that may be laid over it before anything is read out of it. The stages
follow one another strictly: the base is read and parsed before the overlay is looked at, and the
settings are checked only when all of them could be read.
-/

namespace FaultGate.Settings

/-- An error of the operating system: what it says, and its number. -/
structure SystemError where
  text : String
  number : Nat
  deriving DecidableEq, Repr

/-- There is no file at the path. -/
def SystemError.missing : SystemError := ⟨"No such file or directory", 2⟩

/-- Why the text of a file cannot be had. -/
inductive FileError where
  | system (error : SystemError)
  | notUtf8
  deriving DecidableEq, Repr

def FileError.message : FileError → String
  | .system e => e.text ++ " (os error " ++ Nat.repr e.number ++ ")"
  | .notUtf8 => "stream did not contain valid UTF-8"

/-- Why a document does not give settings. -/
inductive ParseError where
  | text (error : Yaml.ReadError)
  | value (error : DecodeError)

/-- The error in words, where it can be told without a place in the text. -/
def ParseError.message? : ParseError → Option String
  | .text e => e.message?
  | .value e => some e.message

/-- Why there are no settings, or no registry made from them. -/
inductive Error where
  | file (error : FileError)
  | parse (error : ParseError)
  | violation (violation : Violation)
  | registry (error : RegistryError)

/-- The error in words, where it can be told without a place in a text. -/
def Error.message? : Error → Option String
  | .file e => some ("failed to read file: " ++ e.message)
  | .parse e => e.message?.map ("failed to parse YAML: " ++ ·)
  | .violation v => some ("validation error: " ++ v.message)
  | .registry e => some ("exception registry error: " ++ e.message)

/-- What comes of reading a file that is there: its bytes, unless the system refuses them. -/
inductive Content where
  | bytes (bytes : List UInt8)
  | refused (error : SystemError)
  deriving DecidableEq, Repr

instance : Coe (List UInt8) Content := ⟨.bytes⟩

/-- A file: its content, or nothing if there is none. -/
abbrev File := Option Content

def File.text (file : File) : Except FileError String :=
  match file with
  | none => .error (.system .missing)
  | some (.refused error) => .error (.system error)
  | some (.bytes bytes) =>
    match Text.decode? bytes with
    | some s => .ok s
    | none => .error .notUtf8

def File.value (file : File) : Except Error Yaml.Value :=
  match file.text with
  | .error e => .error (.file e)
  | .ok s =>
    match Yaml.Value.ofText s with
    | .error e => .error (.parse (.text e))
    | .ok v => .ok v

/-- The value of a base file with an overlay laid over it, if one is given. -/
def layered (base : File) (overlay : Option File) : Except Error Yaml.Value := do
  let v ← base.value
  match overlay with
  | none => return v
  | some file => return v.merge (← file.value)

/-- Reads settings from a base file and an overlay. -/
def load {α : Type} (read : Reader α) (base : File) (overlay : Option File) : Except Error α := do
  match read (← layered base overlay) with
  | .ok settings => return settings
  | .error e => throw (.parse (.value e))

namespace Handler

def validate (h : Handler) : Except Error Unit :=
  match h.violation? with
  | some v => .error (.violation v)
  | none => .ok ()

/-- The registry that the settings describe, and the events of building it. -/
def buildRegistry (h : Handler) : Except Error Registry × List Log.Event :=
  match declareAll .empty h.faults with
  | .error v => (.error (.violation v), [])
  | .ok b =>
    match (h.bindAll b).build with
    | (.ok r, events) => (.ok r, events)
    | (.error e, events) => (.error (.registry e), events)

def buildResolver (h : Handler) : Except Error Resolver :=
  match h.buildRegistry.1 with
  | .ok r => .ok ⟨r, h.scope⟩
  | .error e => .error e

end Handler

end FaultGate.Settings
