import FaultGate.Number.Reading

/-!
# Socket addresses

The address that a server listens on: an internet address of one of the two versions and a port.
Names of hosts are no addresses.
-/

namespace FaultGate

/-- An address of version four or six. -/
inductive HostAddress where
  | four (bytes : List Nat)
  | six (groups : List Nat) (zone : Nat)
  deriving DecidableEq, Repr

structure SocketAddress where
  host : HostAddress
  port : Nat
  deriving DecidableEq, Repr

namespace SocketAddress

/-- Reads a byte of an address, which has no leading zeros. -/
def byte? (text : List Char) : Option Nat :=
  if text.length ≠ 1 && text.head? = some '0' then none
  else if 3 < text.length then none
  else (Number.natural? 10 text).filter (· < 256)

/-- Reads the four bytes of an address of version four. -/
def four? (text : List Char) : Option (List Nat) :=
  let parts := text.splitOn '.'
  if parts.length = 4 then parts.mapM byte? else none

/-- Reads a group of an address of version six. -/
def group? (text : List Char) : Option Nat :=
  if 4 < text.length then none else Number.natural? 16 text

/-- Reads groups with colons between them. The last one may be an address of version four, which
counts as two. -/
def groups? : List (List Char) → Option (List Nat)
  | [] => some []
  | [last] =>
    match four? last with
    | some [a, b, c, d] => some [a * 256 + b, c * 256 + d]
    | _ => (group? last).map ([·])
  | part :: rest => do
    let group ← group? part
    let groups ← groups? rest
    return group :: groups

/-- Reads one side of the gap in an address of version six. -/
def side? (text : List Char) : Option (List Nat) :=
  if text.isEmpty then some [] else groups? (text.splitOn ':')

/-- Splits a text at the first pair of colons. -/
def splitGap : List Char → List Char → Option (List Char × List Char)
  | _, [] => none
  | done, ':' :: ':' :: rest => some (done.reverse, rest)
  | done, c :: rest => splitGap (c :: done) rest

/-- Reads the eight groups of an address of version six. A gap stands for one zero group or
more. -/
def six? (text : List Char) : Option (List Nat) :=
  match splitGap [] text with
  | none => (side? text).filter (·.length = 8)
  | some (left, right) => do
    let before ← side? left
    let after ← side? right
    let length := before.length + after.length
    if left.contains '.' || 7 < length then none
    else return before ++ List.replicate (8 - length) 0 ++ after

def port? (text : List Char) : Option Nat :=
  (Number.natural? 10 text).filter (· < UInt16.size)

/-- Reads the part between brackets: an address of version six, with a zone or without. -/
def bracketed? (text : List Char) : Option HostAddress :=
  let address := text.takeWhile (· ≠ '%')
  match text.dropWhile (· ≠ '%') with
  | [] => (six? address).map (.six · 0)
  | _ :: zone => do
    let groups ← six? address
    let zone ← (Number.natural? 10 zone).filter (· < UInt32.size)
    return .six groups zone

def ofText? (text : String) : Option SocketAddress :=
  match text.toList with
  | '[' :: rest =>
    match rest.dropWhile (· ≠ ']') with
    | ']' :: ':' :: port => do
      let host ← bracketed? (rest.takeWhile (· ≠ ']'))
      return ⟨host, ← port? port⟩
    | _ => none
  | chars =>
    match chars.dropWhile (· ≠ ':') with
    | ':' :: port => do
      let bytes ← four? (chars.takeWhile (· ≠ ':'))
      return ⟨.four bytes, ← port? port⟩
    | _ => none

def fourText (bytes : List Nat) : String :=
  String.intercalate "." (bytes.map Nat.repr)

def groupsText (groups : List Nat) : String :=
  String.intercalate ":" (groups.map fun group => String.ofList (Nat.toDigits 16 group))

/-- Where the longest run of zero groups starts, the first one of that length, and its length. -/
def longestGap : List Nat → Nat × Nat
  | [] => (0, 0)
  | group :: rest =>
    let here := ((group :: rest).takeWhile (· = 0)).length
    let later := longestGap rest
    if later.2 ≤ here then (0, here) else (later.1 + 1, later.2)

/-- Writes an address of version six. Only a run of two zero groups or more is left out, and an
address that stands for one of version four shows that one. -/
def sixText (groups : List Nat) : String :=
  match groups with
  | [0, 0, 0, 0, 0, 0xffff, high, low] =>
    "::ffff:" ++ fourText [high / 256, high % 256, low / 256, low % 256]
  | _ =>
    let (start, length) := longestGap groups
    if length < 2 then groupsText groups
    else groupsText (groups.take start) ++ "::" ++ groupsText (groups.drop (start + length))

/-- Writes an address. Zone zero is no zone. -/
def text (address : SocketAddress) : String :=
  let host := match address.host with
    | .four bytes => fourText bytes
    | .six groups 0 => "[" ++ sixText groups ++ "]"
    | .six groups zone => "[" ++ sixText groups ++ "%" ++ Nat.repr zone ++ "]"
  host ++ ":" ++ Nat.repr address.port

end SocketAddress

end FaultGate
