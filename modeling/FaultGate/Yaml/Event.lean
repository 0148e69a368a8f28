import FaultGate.Yaml.Lexer

/-!
# The events of a YAML document

Events say what a document is made of, in the order of the text: scalars, aliases, and the
starts and ends of sequences and mappings. Everything that a text may leave out is made explicit
here: empty scalars in place of missing keys and values, and the full tag in place of its
handle. When the text turns out not to be a document, the events up to that point are kept,
because a value may be refused for what they say already.
-/

namespace FaultGate.Yaml

inductive Event where
  | scalar (tag : Option String) (text : String) (plain : Bool)
  /-- A place that repeats what stands at the slot's position. -/
  | aliasOf (slot : Nat)
  | sequenceStart (tag : Option String)
  | sequenceEnd
  | mappingStart (tag : Option String)
  | mappingEnd
  deriving DecidableEq, Repr

/-- What comes after the events of a document. -/
inductive Ending where
  /-- The text does not go on as a document must. -/
  | broken
  /-- Nothing. -/
  | last
  /-- More text, so that there is a further document, or there would be one. -/
  | followed
  deriving DecidableEq, Repr

/-- The first document of a text. -/
structure Document where
  events : Array Event
  /-- The position of what was anchored last under each slot. -/
  slots : List (Nat × Nat)
  ending : Ending

/-- The tokens still to be read, and the events found so far. -/
structure Builder where
  tokens : List Token
  events : Array Event
  slots : List (Nat × Nat)
  /-- The slot of each anchor. -/
  anchors : List (String × Nat)
  /-- What each tag handle stands for. -/
  handles : List (String × String)

/-- A step of the grammar. One that fails keeps the events found before. -/
abbrev Production := OptionT (StateM Builder)

namespace Production

/-- The next token. There is none after what is malformed. -/
def next : Production Token := do
  match (← get).tokens with
  | [] => failure
  | .malformed :: _ => failure
  | token :: _ => return token

def skip : Production Unit :=
  modify fun b => { b with tokens := b.tokens.drop 1 }

def emit (event : Event) : Production Unit :=
  modify fun b => { b with events := b.events.push event }

/-- A scalar that is left out. -/
def emptyScalar : Production Unit :=
  emit (.scalar none "" true)

/-- What a node may say about itself before its content. -/
structure Properties where
  anchor : Option String
  tag : Option (String × String)

def Properties.none : Properties := ⟨.none, .none⟩

/-- Reads an anchor, if one comes next. -/
def anchor (p : Properties) : Production Properties := do
  match ← next with
  | .anchor name => do skip; return { p with anchor := some name }
  | _ => return p

/-- Reads a tag, if one comes next. -/
def tag (p : Properties) : Production Properties := do
  match ← next with
  | .tag handle suffix => do skip; return { p with tag := some (handle, suffix) }
  | _ => return p

/-- Reads an anchor and a tag in either order. -/
def properties : Production Properties := do
  match ← next with
  | .anchor _ => do tag (← anchor .none)
  | .tag _ _ => do anchor (← tag .none)
  | _ => return .none

/-- The full text of a tag. Its handle must be a known one. -/
def fullTag : Option (String × String) → Production (Option String)
  | none => return none
  | some ("", suffix) => return some suffix
  | some (handle, suffix) => do
    match (← get).handles.lookup handle with
    | some expansion => return some (expansion ++ suffix)
    | none => failure

/-- Notes that the next event is anchored. The slot is the number of anchors with different
names, so an anchor that is set again shares its slot with the next new one. -/
def place : Option String → Production Unit
  | none => return ()
  | some name =>
    modify fun b =>
      let slot := b.anchors.length
      { b with
        slots := (slot, b.events.size) :: b.slots
        anchors := (name, slot) :: b.anchors.filter fun a => a.1 ≠ name }

/-- Reads an alias of an anchor that stands before it. -/
def aliasOf (name : String) : Production Unit := do
  match (← get).anchors.lookup name with
  | some slot => do skip; emit (.aliasOf slot)
  | none => failure

/-- Does the token close what is around it or separate it from what comes next? A node in front of
one is left out. -/
def endsBlockItem : Token → Bool
  | .key => true
  | .value => true
  | .blockEnd => true
  | _ => false

def endsFlowItem : Token → Bool
  | .flowEntry => true
  | .flowSequenceEnd => true
  | _ => false

def endsFlowPair : Token → Bool
  | .flowEntry => true
  | .flowMappingEnd => true
  | _ => false

/-- Goes past the comma before an item that is not the first. -/
def separator (first : Bool) : Production Token := do
  match first, ← next with
  | true, token => return token
  | false, .flowEntry => do skip; next
  | false, _ => failure

mutual

/-- Reads a node. Only where a block may stand can it be one without brackets, and only as a key
or a value can it be a sequence that is not indented. -/
def node : Nat → Bool → Bool → Production Unit
  | 0, _, _ => failure
  | fuel + 1, inBlock, unindented => do
    match ← next with
    | .aliasOf name => aliasOf name
    | _ => do
      let given ← properties
      let token ← next
      let tag ← fullTag given.tag
      place given.anchor
      match token with
      | .scalar text plain => do
        skip
        emit (.scalar (if tag = some "!" then none else tag) text plain)
      | .flowSequenceStart => do skip; emit (.sequenceStart tag); flowSequence fuel true
      | .flowMappingStart => do skip; emit (.mappingStart tag); flowMapping fuel true
      | .blockEntry =>
        if unindented then do emit (.sequenceStart tag); unindentedSequence fuel
        else missing given tag
      | .blockSequenceStart =>
        if inBlock then do skip; emit (.sequenceStart tag); blockSequence fuel
        else missing given tag
      | .blockMappingStart =>
        if inBlock then do skip; emit (.mappingStart tag); blockMapping fuel
        else missing given tag
      | _ => missing given tag

/-- A node without content, which must have an anchor or a tag. -/
def missing (given : Properties) (tag : Option String) : Production Unit :=
  if given.anchor.isSome || given.tag.isSome then emit (.scalar tag "" true) else failure

/-- Reads the items of a block sequence. -/
def blockSequence : Nat → Production Unit
  | 0 => failure
  | fuel + 1 => do
    match ← next with
    | .blockEntry => do
      skip
      match ← next with
      | .blockEntry => emptyScalar
      | .blockEnd => emptyScalar
      | _ => node fuel true false
      blockSequence fuel
    | .blockEnd => do skip; emit .sequenceEnd
    | _ => failure

/-- Reads the items of a sequence whose dashes stand no further right than the key before it. -/
def unindentedSequence : Nat → Production Unit
  | 0 => failure
  | fuel + 1 => do
    match ← next with
    | .blockEntry => do
      skip
      let token ← next
      if token = .blockEntry || endsBlockItem token then emptyScalar else node fuel true false
      unindentedSequence fuel
    | _ => emit .sequenceEnd

/-- Reads the pairs of a block mapping. -/
def blockMapping : Nat → Production Unit
  | 0 => failure
  | fuel + 1 => do
    match ← next with
    | .key => do
      skip
      if endsBlockItem (← next) then emptyScalar else node fuel true true
      match ← next with
      | .value => do
        skip
        if endsBlockItem (← next) then emptyScalar else node fuel true true
      | _ => emptyScalar
      blockMapping fuel
    | .blockEnd => do skip; emit .mappingEnd
    | _ => failure

/-- Reads the items of a sequence in brackets. A comma may follow the last one. -/
def flowSequence : Nat → Bool → Production Unit
  | 0, _ => failure
  | fuel + 1, first => do
    match ← next with
    | .flowSequenceEnd => do skip; emit .sequenceEnd
    | _ => do
      match ← separator first with
      | .flowSequenceEnd => do skip; emit .sequenceEnd
      | .key => do
        skip
        emit (.mappingStart none)
        flowPair fuel
        emit .mappingEnd
        flowSequence fuel false
      | _ => do
        node fuel false false
        flowSequence fuel false

/-- Reads a key and a value that are an item of a sequence in brackets. Whatever ends a missing
key is taken away with it. -/
def flowPair : Nat → Production Unit
  | 0 => failure
  | fuel + 1 => do
    let token ← next
    if token = .value || endsFlowItem token then do skip; emptyScalar
    else node fuel false false
    match ← next with
    | .value => do
      skip
      if endsFlowItem (← next) then emptyScalar else node fuel false false
    | _ => emptyScalar

/-- Reads the pairs of a mapping in brackets. A comma may follow the last one, and a pair may be
a key without a value. -/
def flowMapping : Nat → Bool → Production Unit
  | 0, _ => failure
  | fuel + 1, first => do
    match ← next with
    | .flowMappingEnd => do skip; emit .mappingEnd
    | _ => do
      match ← separator first with
      | .flowMappingEnd => do skip; emit .mappingEnd
      | .key => do
        skip
        let token ← next
        if token = .value || endsFlowPair token then emptyScalar else node fuel false false
        match ← next with
        | .value => do
          skip
          if endsFlowPair (← next) then emptyScalar else node fuel false false
        | _ => emptyScalar
        flowMapping fuel false
      | _ => do
        node fuel false false
        emptyScalar
        flowMapping fuel false

end

/-- The tag handles that need no directive. -/
def standardHandles : List (String × String) :=
  [("!", "!"), ("!!", "tag:yaml.org,2002:")]

/-- Reads the directives of a document. Each handle may be defined once, in place of the standard
meaning if it has one, and a version must be 1.1 or 1.2. -/
def directives : Nat → Bool → List (String × String) → Production (List (String × String))
  | 0, _, _ => failure
  | fuel + 1, hasVersion, defined => do
    match ← next with
    | .versionDirective major minor =>
      if hasVersion || major ≠ 1 || (minor ≠ 1 && minor ≠ 2) then failure
      else do skip; directives fuel true defined
    | .tagDirective handle expansion =>
      if (defined.lookup handle).isSome then failure
      else do skip; directives fuel hasVersion ((handle, expansion) :: defined)
    | _ => return defined

/-- Does the token start a document that is announced, or end one? -/
def isDocumentToken : Token → Bool
  | .versionDirective _ _ => true
  | .tagDirective _ _ => true
  | .documentStart => true
  | .documentEnd => true
  | .endOfText => true
  | _ => false

def document (fuel : Nat) : Production Unit := do
  let first ← next
  if isDocumentToken first && first ≠ .documentEnd then do
    let defined ← directives fuel false []
    modify fun b => { b with handles := defined ++ standardHandles }
    match ← next with
    | .documentStart => do
      skip
      if isDocumentToken (← next) then emptyScalar else node fuel true false
    | _ => failure
  else node fuel true false
  let _ ← next

end Production

/-- What the tokens after a document say about its ending. -/
def Ending.ofTokens (tokens : List Token) : Ending :=
  match tokens.dropWhile (· = .documentEnd) with
  | .endOfText :: _ => .last
  | _ => .followed

/-- The first document of a text, or `none` if the text holds nothing at all. A node takes one
token at least or stands in a place that did, and between two tokens no more than four
productions are entered, so the fuel suffices. -/
def Document.ofTokens? (tokens : List Token) : Option Document :=
  if tokens.head? = some .endOfText then none
  else
    let start : Builder := ⟨tokens, #[], [], [], Production.standardHandles⟩
    let (result, b) := (Production.document (4 * tokens.length + 4)).run start
    let ending :=
      match result with
      | some () => Ending.ofTokens b.tokens
      | none => .broken
    some ⟨b.events, b.slots, ending⟩

end FaultGate.Yaml
