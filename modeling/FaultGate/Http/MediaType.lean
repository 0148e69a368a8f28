import FaultGate.Http.Uri

/-!
# Media types

A media type is a type and a subtype, and parameters that may follow. A plus sign in the subtype
announces a suffix, which names the format that the subtype is written in.
-/

namespace FaultGate.Http

/-- A media type in lower case, without its parameters. -/
structure MediaType where
  type : String
  /-- What stands before the last plus sign. -/
  subtype : String
  suffix : Option String
  deriving DecidableEq, Repr

namespace MediaType

/-- May the character stand in a media type? The asterisk, which stands for any type, may not. -/
def isNameChar (c : Char) : Bool :=
  isTokenChar c && c ≠ '*'

/-- Goes past a quoted value of a parameter, whose opening quote is read already, and the spaces
and the semicolon after it. The value is not empty, and its first character is not taken for the
closing quote. -/
def skipQuoted? : List Char → Option (List Char)
  | [] => none
  | first :: rest =>
    let isText (c : Char) : Bool := 0x20 ≤ c.toNat && c ≠ '\x7f'
    if !isText first then none
    else
      match rest.dropWhile fun c => isText c && c ≠ '"' with
      | '"' :: rest =>
        match rest.dropWhile (· = ' ') with
        | [] => some []
        | ';' :: rest => some rest
        | _ => none
      | _ => none

/-- Are the parameters after a semicolon well-formed? Spaces may stand before a parameter, and
there need not be one. -/
def areParameters : Nat → List Char → Bool
  | 0, _ => false
  | fuel + 1, text =>
    match text.dropWhile (· = ' ') with
    | [] => true
    | text =>
      let name := text.takeWhile isNameChar
      match text.dropWhile isNameChar with
      | '=' :: rest =>
        if name.isEmpty then false
        else
          match rest with
          | '"' :: rest =>
            match skipQuoted? rest with
            | some rest => areParameters fuel rest
            | none => false
          | rest =>
            let value := rest.takeWhile isNameChar
            match rest.dropWhile isNameChar with
            | [] => true
            | ';' :: rest => !value.isEmpty && areParameters fuel rest
            | _ => false
      | _ => false

/-- The subtype and the suffix in what stands after the slash. A plus sign at the very start
announces no suffix. -/
def split (name : List Char) : List Char × Option (List Char) :=
  let suffix := (name.reverse.takeWhile (· ≠ '+')).reverse
  let rest := name.take (name.length - suffix.length - 1)
  if suffix.length < name.length && !rest.isEmpty then (rest, some suffix) else (name, none)

/-- Reads a media type with its parameters. -/
def ofText? (text : String) : Option MediaType :=
  let chars := text.toList.map Char.toLower
  let type := chars.takeWhile isNameChar
  match chars.dropWhile isNameChar with
  | '/' :: rest =>
    let name := rest.takeWhile isNameChar
    let (subtype, suffix) := split name
    let media : MediaType := ⟨String.ofList type, String.ofList subtype, suffix.map String.ofList⟩
    if type.isEmpty then none
    else
      match rest.dropWhile isNameChar with
      | [] => some media
      | ';' :: parameters =>
        if !name.isEmpty && areParameters (parameters.length + 1) parameters then some media
        else none
      | _ => none
  | _ => none

/-- Does the media type announce a JSON document? -/
def isJson (m : MediaType) : Bool :=
  m.type = "application" && (m.subtype = "json" || m.suffix = some "json")

end MediaType

end FaultGate.Http
