/-!
# Request targets

The target of a request is a path with an optional query, the asterisk, a whole address with a
scheme, or an authority alone. Nothing in it is decoded or normalised.
-/

namespace FaultGate.Http

/-- The characters that may stand in a token beside letters and digits. -/
def tokenMarks : List Char :=
  ['!', '#', '$', '%', '&', '\'', '*', '+', '-', '.', '^', '_', '\x60', '|', '~']

/-- May the character stand in a token, such as a method or the name of a header? -/
def isTokenChar (c : Char) : Bool :=
  c.isAlphanum || tokenMarks.contains c

/-- What a request target says about the place that is asked for. -/
structure Uri where
  path : String
  query : Option String
  deriving DecidableEq, Repr

namespace Uri

/-- The greatest length of a target, in bytes. -/
def maxLength : Nat := 65534

def maxScheme : Nat := 64

/-- May the character stand in a path? -/
def isPathChar (c : Char) : Bool :=
  0x80 ≤ c.toNat ||
    (0x21 ≤ c.toNat && c.toNat ≤ 0x7e && !(['#', '<', '>', '?', '\x60'].contains c))

/-- May the character stand in a query? -/
def isQueryChar (c : Char) : Bool :=
  0x80 ≤ c.toNat || (0x21 ≤ c.toNat && c.toNat ≤ 0x7e && !(['"', '#', '<', '>'].contains c))

/-- May the character stand in a scheme? -/
def isSchemeChar (c : Char) : Bool :=
  c.isAlphanum || ['+', '-', '.', '~'].contains c

/-- The characters that may stand in an authority beside letters and digits. -/
def authorityMarks : List Char :=
  ['!', '$', '&', '\'', '(', ')', '*', '+', ',', '-', '.', ':', ';', '=', '@', '[', ']', '_', '~']

/-- May the character stand in an authority, apart from the percent sign? -/
def isAuthorityChar (c : Char) : Bool :=
  c.isAlphanum || authorityMarks.contains c

/-- Reads a path and a query. What a number sign announces is dropped unread. An empty path is the
root. -/
def ofPath? (text : List Char) : Option Uri :=
  let path := text.takeWhile isPathChar
  let pathText := if path.isEmpty then "/" else String.ofList path
  match text.dropWhile isPathChar with
  | [] => some ⟨pathText, none⟩
  | '#' :: _ => some ⟨pathText, none⟩
  | '?' :: rest =>
    let query := String.ofList (rest.takeWhile isQueryChar)
    match rest.dropWhile isQueryChar with
    | [] => some ⟨pathText, some query⟩
    | '#' :: _ => some ⟨pathText, some query⟩
    | _ => none
  | _ => none

/-- What an authority has shown so far. -/
structure AuthorityScan where
  /-- Colons that may introduce a port. -/
  colons : Nat
  opened : Bool
  closed : Bool
  /-- Is there a percent sign in what is not known to be user information or a zone? -/
  percent : Bool
  /-- Was the last character an at sign? -/
  atEnd : Bool

/-- Reads one more character of an authority. -/
def AuthorityScan.step? (s : AuthorityScan) (c : Char) : Option AuthorityScan :=
  let s := { s with atEnd := c = '@' }
  if c = ':' then if 8 ≤ s.colons then none else some { s with colons := s.colons + 1 }
  else if c = '[' then if s.percent || s.opened then none else some { s with opened := true }
  else if c = ']' then
    if !s.opened || s.closed then none
    else some { s with closed := true, colons := 0, percent := false }
  else if c = '@' then some { s with colons := 0, percent := false }
  else if c = '%' then some { s with percent := true }
  else if isAuthorityChar c then some s
  else none

/-- Does the text read as an authority? It may hold one pair of brackets and, after the brackets
and the user information, one colon and no percent sign. -/
def isAuthority (text : List Char) : Bool :=
  match text.foldlM AuthorityScan.step? ⟨0, false, false, false, false⟩ with
  | some s => s.opened = s.closed && s.colons ≤ 1 && !s.atEnd && !s.percent
  | none => false

def endsAuthority (c : Char) : Bool :=
  c = '/' || c = '?' || c = '#'

/-- How a target begins. -/
inductive Scheme where
  | absent
  | present (rest : List Char)
  | tooLong

/-- Reads a scheme and the three characters after it. -/
def scheme (text : List Char) : Scheme :=
  let name := text.takeWhile isSchemeChar
  match text.dropWhile isSchemeChar with
  | ':' :: '/' :: '/' :: rest => if maxScheme < name.length then .tooLong else .present rest
  | _ => .absent

/-- Reads a target that does not start with a slash. -/
def ofAddress? (text : List Char) : Option Uri :=
  match scheme text with
  | .tooLong => none
  | .absent => if isAuthority text && !text.isEmpty then some ⟨"", none⟩ else none
  | .present rest =>
    let authority := rest.takeWhile fun c => !endsAuthority c
    if authority.isEmpty || !isAuthority authority then none
    else ofPath? (rest.dropWhile fun c => !endsAuthority c)

def ofText? (text : String) : Option Uri :=
  if maxLength < text.utf8ByteSize then none
  else
    match text.toList with
    | ['*'] => some ⟨"*", none⟩
    | '/' :: _ => ofPath? text.toList
    | chars => ofAddress? chars

end Uri

end FaultGate.Http
