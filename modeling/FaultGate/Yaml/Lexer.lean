import FaultGate.Yaml.Scalar.Block
import FaultGate.Yaml.Scalar.Plain
import FaultGate.Yaml.Scalar.Quoted
import FaultGate.Yaml.Tag

/-!
# From a YAML text to its tokens

Tokens are read from left to right. Two things are known only later. Indentation opens and
closes block collections, so the columns of the open ones are kept. And whether something is a
key shows only at the colon after it, so the place where a key may have started is kept for the
block and for each open bracket; when the colon comes, the key's token is put in at that place.
Such a key must stand on one line and be short.
-/

namespace FaultGate.Yaml

/-- A place where a key may have started. -/
structure SimpleKey where
  /-- Must a colon follow, because nothing else can stand at this column? -/
  required : Bool
  /-- The number of tokens before it. -/
  place : Nat
  index : Nat
  line : Nat
  column : Nat
  deriving Repr

/-- The tokens read so far, and what is kept for those to come. -/
structure Lexer where
  cursor : Cursor
  tokens : Array Token
  /-- The column of the innermost open block collection, or -1. -/
  indent : Int
  /-- The columns of the collections around it. -/
  outerIndents : List Int
  /-- The place where a key may have started, in the innermost bracket or in the block. -/
  simpleKey : Option SimpleKey
  /-- The same for what surrounds the innermost bracket, one entry for each open bracket. -/
  outerKeys : List (Option SimpleKey)
  /-- May a key start here? -/
  keyAllowed : Bool

namespace Lexer

def start (text : List Char) : Lexer where
  cursor := .start text
  tokens := #[]
  indent := -1
  outerIndents := []
  simpleKey := none
  outerKeys := []
  keyAllowed := true

def inFlow (s : Lexer) : Bool :=
  !s.outerKeys.isEmpty

def emit (s : Lexer) (token : Token) : Lexer :=
  { s with tokens := s.tokens.push token }

/-- Emits a token that is the given number of characters long. -/
def emitMark (s : Lexer) (length : Nat) (token : Token) : Lexer :=
  { s with tokens := s.tokens.push token, cursor := s.cursor.skip length }

/-- Puts a token in after the given number of tokens. -/
def emitAt (s : Lexer) (place : Nat) (token : Token) : Lexer :=
  { s with tokens := (s.tokens.extract 0 place).push token ++ s.tokens.extract place s.tokens.size }

/-- Goes on past blanks, comments and line ends to the next token. A tab may not come before a
token that could start a key. In the block a new line lets a key start. -/
def toNextToken : Nat → Lexer → Lexer
  | 0, s => s
  | fuel + 1, s =>
    let c := s.cursor
    let c := if c.index = 0 && c.holds 0 byteOrderMark then c.skip 1 else c
    let tabs := s.inFlow || !s.keyAllowed
    let c := (c.skipWhile fun x => x = ' ' || (tabs && x = '\t')).skipComment
    if c.satisfies 0 isBreak then
      toNextToken fuel
        { s with cursor := c.takeBreak.2, keyAllowed := s.keyAllowed || !s.inFlow }
    else { s with cursor := c }

/-- Is it too late for the colon of the key? -/
def isStale (c : Cursor) (k : SimpleKey) : Bool :=
  k.line < c.line || k.index + 1024 < c.index

/-- Forgets a key whose colon can no longer come, which is an error if it had to come. -/
def freshKey? (c : Cursor) : Option SimpleKey → Option (Option SimpleKey)
  | none => some none
  | some k => if isStale c k then if k.required then none else some none else some (some k)

/-- Forgets all keys whose colons can no longer come. -/
def dropStale? (s : Lexer) : Option Lexer := do
  let simpleKey ← freshKey? s.cursor s.simpleKey
  let outerKeys ← s.outerKeys.mapM (freshKey? s.cursor)
  return { s with simpleKey, outerKeys }

/-- Forgets the innermost key, which is an error if its colon had to come. -/
def dropKey? (s : Lexer) : Option Lexer :=
  match s.simpleKey with
  | some k => if k.required then none else some { s with simpleKey := none }
  | none => some s

/-- Notes that a key may start here, if one may. -/
def noteKey? (s : Lexer) : Option Lexer :=
  if s.keyAllowed then do
    let s ← s.dropKey?
    let c := s.cursor
    let required := !s.inFlow && s.indent = (c.column : Int)
    return { s with simpleKey := some ⟨required, s.tokens.size, c.index, c.line, c.column⟩ }
  else some s

/-- Opens a block collection at a column to the right of the innermost one, with its token after
the given number of tokens. -/
def openBlock (s : Lexer) (column place : Nat) (token : Token) : Lexer :=
  if !s.inFlow && s.indent < (column : Int) then
    { s.emitAt place token with indent := column, outerIndents := s.indent :: s.outerIndents }
  else s

/-- Closes the block collections to the right of a column. -/
def closeBlocks (column : Int) : List Int → Lexer → Lexer
  | [], s => s
  | outer :: more, s =>
    if !s.inFlow && column < s.indent then
      closeBlocks column more { s.emit .blockEnd with indent := outer, outerIndents := more }
    else s

/-- Closes the block collections to the right of a column, of all that are open. -/
def close (s : Lexer) (column : Int) : Lexer :=
  closeBlocks column s.outerIndents s

/-- Leaves all block collections, before what can only stand outside of them. -/
def leave? (s : Lexer) : Option Lexer :=
  ((s.close (-1)).dropKey?).map fun s => { s with keyAllowed := false }

def openFlow? (s : Lexer) (token : Token) : Option Lexer := do
  let s ← s.noteKey?
  let s := { s with simpleKey := none, outerKeys := s.simpleKey :: s.outerKeys, keyAllowed := true }
  return s.emitMark 1 token

/-- Closes a bracket. One that was never opened is left to the grammar. -/
def closeFlow? (s : Lexer) (token : Token) : Option Lexer := do
  let s ← s.dropKey?
  let s :=
    match s.outerKeys with
    | k :: more => { s with simpleKey := k, outerKeys := more }
    | [] => s
  return { s with keyAllowed := false }.emitMark 1 token

def separate? (s : Lexer) : Option Lexer := do
  let s ← s.dropKey?
  return { s with keyAllowed := true }.emitMark 1 .flowEntry

/-- Starts an item of a block sequence. One in a bracket is left to the grammar. -/
def blockEntry? (s : Lexer) : Option Lexer :=
  if !s.inFlow && !s.keyAllowed then none
  else do
    let s ← (s.openBlock s.cursor.column s.tokens.size .blockSequenceStart).dropKey?
    return { s with keyAllowed := true }.emitMark 1 .blockEntry

/-- Starts a key that is marked as one. -/
def markedKey? (s : Lexer) : Option Lexer :=
  if !s.inFlow && !s.keyAllowed then none
  else do
    let s ← (s.openBlock s.cursor.column s.tokens.size .blockMappingStart).dropKey?
    return { s with keyAllowed := !s.inFlow }.emitMark 1 .key

/-- Starts a value. What stands before it is a key if a key may have started there; the tokens
of the key, and of the mapping if it is the first of one, are put in before it. -/
def value? (s : Lexer) : Option Lexer :=
  match s.simpleKey with
  | some k =>
    let s := (s.emitAt k.place .key).openBlock k.column k.place .blockMappingStart
    some ({ s with simpleKey := none, keyAllowed := false }.emitMark 1 .value)
  | none =>
    if !s.inFlow && !s.keyAllowed then none
    else
      let s := s.openBlock s.cursor.column s.tokens.size .blockMappingStart
      some ({ s with keyAllowed := !s.inFlow }.emitMark 1 .value)

/-- Emits a token that was read from the cursor on, as something that can be a key. -/
def content? (s : Lexer) (read : Cursor → Option (Token × Cursor)) : Option Lexer := do
  let s ← s.noteKey?
  let (token, next) ← read s.cursor
  return { s with cursor := next, keyAllowed := false }.emit token

/-- Reads a plain scalar. If it has come to another line, a key may start there. -/
def plain? (s : Lexer) : Option Lexer := do
  let s ← s.noteKey?
  let (text, spansLines, next) ← Plain.read s.inFlow s.indent s.cursor
  return { s with cursor := next, keyAllowed := spansLines }.emit (.scalar text true)

def block? (s : Lexer) (literal : Bool) : Option Lexer := do
  let s ← s.dropKey?
  let (text, next) ← Block.read literal s.indent s.cursor
  return { s with cursor := next, keyAllowed := true }.emit (.scalar text false)

/-- The characters that have a meaning of their own at the start of a token. -/
def indicators : List Char :=
  ['-', '?', ':', ',', '[', ']', '{', '}', '#', '&', '*', '!', '|', '>', '\'', '"', '%', '@',
    '\x60']

/-- Does a plain scalar start with the character at the cursor? A dash does not end up here
before a blank, and in the block neither do a question mark and a colon. -/
def startsPlain (s : Lexer) (x : Char) : Bool :=
  !(isBlank x || isBreak x || indicators.contains x) ||
    (x = '-' && !s.cursor.satisfies 1 isBlank) ||
    (!s.inFlow && (x = '?' || x = ':') && !s.cursor.blankOrEnd 1)

/-- Reads the token that starts with the given character at the cursor. -/
def token? (s : Lexer) (x : Char) : Option Lexer :=
  let c := s.cursor
  if c.column = 0 && x = '%' then do
    let s ← s.leave?
    let (token, next) ← Tag.directive? s.cursor
    return { s with cursor := next }.emit token
  else if c.startsMark '-' then s.leave?.map (·.emitMark 3 .documentStart)
  else if c.startsMark '.' then s.leave?.map (·.emitMark 3 .documentEnd)
  else if x = '[' then s.openFlow? .flowSequenceStart
  else if x = '{' then s.openFlow? .flowMappingStart
  else if x = ']' then s.closeFlow? .flowSequenceEnd
  else if x = '}' then s.closeFlow? .flowMappingEnd
  else if x = ',' then s.separate?
  else if x = '-' && c.blankOrEnd 1 then s.blockEntry?
  else if x = '?' && (s.inFlow || c.blankOrEnd 1) then s.markedKey?
  else if x = ':' && (s.inFlow || c.blankOrEnd 1) then s.value?
  else if x = '*' then s.content? fun c => (Tag.name? c).map fun (n, c) => (.aliasOf n, c)
  else if x = '&' then s.content? fun c => (Tag.name? c).map fun (n, c) => (.anchor n, c)
  else if x = '!' then s.content? (Tag.read s.inFlow)
  else if x = '|' && !s.inFlow then s.block? true
  else if x = '>' && !s.inFlow then s.block? false
  else if x = '\'' || x = '"' then
    s.content? fun c => (Quoted.read x c).map fun (text, c) => (.scalar text false, c)
  else if s.startsPlain x then s.plain?
  else none

/-- Ends the text: all block collections are closed, and no colon may be owing. -/
def finish? (s : Lexer) : Option Lexer :=
  s.leave?.map (·.emit .endOfText)

/-- Reads the next token, with those that indentation puts before it. The flag tells whether it
was the last. -/
def step? (s : Lexer) : Option (Lexer × Bool) := do
  let s := toNextToken (s.cursor.total + 1) s
  let s ← s.dropStale?
  let s := s.close s.cursor.column
  match s.cursor.rest with
  | [] => s.finish?.map (·, true)
  | x :: _ => (s.token? x).map (·, false)

/-- Reads tokens until the text ends or cannot be read any further. -/
def run : Nat → Lexer → Array Token
  | 0, s => s.tokens.push .malformed
  | fuel + 1, s =>
    match s.step? with
    | none => s.tokens.push .malformed
    | some (s, true) => s.tokens
    | some (s, false) => run fuel s

end Lexer

/-- The tokens of a text. A byte order mark before the text is not part of it, and a character
that may not stand in a document makes all of it malformed. -/
def Token.ofText (text : String) : List Token :=
  let chars :=
    match text.toList with
    | c :: rest => if c = byteOrderMark then rest else c :: rest
    | [] => []
  if chars.all isPermitted then (Lexer.run (chars.length + 2) (.start chars)).toList
  else [.malformed]

end FaultGate.Yaml
