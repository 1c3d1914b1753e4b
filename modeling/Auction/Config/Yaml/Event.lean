import Auction.Config.Yaml.Token

/-!
# YAML text: events

The parser turns tokens into events, one at a time (`Parser.next`), by a state machine with a
stack of states to return to: a document, then nodes, each a scalar, an alias, or the start and
end of a sequence or a mapping.

**Documents.** A document without `---` starts at its first token; one with `---` may be led by
directives. Only `%YAML 1.1` is accepted, once; a `%TAG` handle may be given once, and `!` and
`!!` (for `tag:yaml.org,2002:`) stand unless given.

**Nodes.** A node may carry an anchor and a tag, in either order; the tag's handle must be
known. A missing node, as after a key with no value, is an empty plain scalar. In a block
mapping a sequence may stand at the indentation of its key.

**Errors.** A parser error names, from zero, the line of the collection or node it interrupts,
or else the line of the token it did not expect.
-/

namespace Auction

namespace Yaml

/-- What an event is. Anchors are optional; an empty tag is no tag. -/
inductive EventKind where
  | streamStart
  | streamEnd
  | documentStart
  | documentEnd
  | alias (name : String)
  | scalar (anchor : Option String) (tag value : String) (style : ScalarStyle)
  | sequenceStart (anchor : Option String) (tag : String)
  | sequenceEnd
  | mappingStart (anchor : Option String) (tag : String)
  | mappingEnd
  deriving Repr, Inhabited

/-- An event with the position where it starts. -/
structure Event where
  kind : EventKind
  start : Mark
  deriving Repr, Inhabited

/-- Where the parser stands. -/
inductive ParseState where
  | streamStart
  | implicitDocumentStart
  | documentStart
  | documentContent
  | documentEnd
  | blockNode
  | blockNodeOrIndentlessSequence
  | flowNode
  | blockSequenceFirstEntry
  | blockSequenceEntry
  | indentlessSequenceEntry
  | blockMappingFirstKey
  | blockMappingKey
  | blockMappingValue
  | flowSequenceFirstEntry
  | flowSequenceEntry
  | flowSequenceEntryMappingKey
  | flowSequenceEntryMappingValue
  | flowSequenceEntryMappingEnd
  | flowMappingFirstKey
  | flowMappingKey
  | flowMappingValue
  | flowMappingEmptyValue
  | finished
  deriving DecidableEq, Repr, Inhabited

/-- The parser: its scanner, its state and the stacks of states and collection starts. -/
structure Parser where
  scanner : Scanner
  state : ParseState
  states : List ParseState
  marks : List Mark
  /-- The tag handles of the current document and their prefixes. -/
  tagDirectives : List (String × String)
  deriving Inhabited

/-- A parser about to read a text. -/
def Parser.ofString (text : String) : Parser :=
  ⟨Scanner.ofString text, .streamStart, [], [], []⟩

/-- A step of the parser. -/
abbrev Parse := StateT Parser (Except Failure)

/-- Runs a step of the scanner. -/
def scan (x : Scan α) : Parse α := fun p => do
  let (a, s) ← x.run p.scanner
  pure (a, { p with scanner := s })

/-- The next token. -/
def peek : Parse Token := scan peekToken

/-- Passes the next token. -/
def skip : Parse Unit := scan skipToken

/-- Moves to a state. -/
def goTo (s : ParseState) : Parse Unit := modify fun p => { p with state := s }

/-- Saves a state to return to. -/
def pushState (s : ParseState) : Parse Unit := modify fun p => { p with states := s :: p.states }

/-- Returns to the last saved state. -/
def popState : Parse Unit := modify fun p =>
  match p.states with
  | s :: rest => { p with state := s, states := rest }
  | [] => p

/-- Saves where a collection starts. -/
def pushMark (m : Mark) : Parse Unit := modify fun p => { p with marks := m :: p.marks }

/-- Forgets where the innermost collection starts, and returns it. -/
def popMark : Parse Mark := do
  let p ← get
  match p.marks with
  | m :: rest =>
    set { p with marks := rest }
    return m
  | [] => return Mark.start

/-- A parser error about the token at `problem`, in the collection or node at `context`. -/
def parseError (context problem : Mark) (message : String) : Parse α :=
  throw (.parser context.line problem.line message)

/-- An empty plain scalar at `m`. -/
def emptyScalar (m : Mark) : Event := ⟨.scalar none "" "" .plain, m⟩

/-- The tag handles every document knows. -/
def defaultTagDirectives : List (String × String) :=
  [("!", "!"), ("!!", "tag:yaml.org,2002:")]

/-- Reads the directives before a document, then adds the default tag handles not given. -/
def processDirectives : Parse Unit := do
  let mut t ← peek
  let mut versioned := false
  for _ in [0:(← scan bound)] do
    match t.kind with
    | .version major minor =>
      if versioned then parseError Mark.start t.start "found duplicate %YAML directive"
      if major != 1 || minor != 1 then
        parseError Mark.start t.start "found incompatible YAML document"
      versioned := true
    | .tagDirective handle pre =>
      if ((← get).tagDirectives.lookup handle).isSome then
        parseError Mark.start t.start "found duplicate %TAG directive"
      modify fun p => { p with tagDirectives := p.tagDirectives ++ [(handle, pre)] }
    | _ => break
    skip
    t ← peek
  for (handle, pre) in defaultTagDirectives do
    if ((← get).tagDirectives.lookup handle).isNone then
      modify fun p => { p with tagDirectives := p.tagDirectives ++ [(handle, pre)] }

/-- The stream start event. -/
def parseStreamStart : Parse Event := do
  let t ← peek
  match t.kind with
  | .streamStart =>
    goTo .implicitDocumentStart
    skip
    return ⟨.streamStart, t.start⟩
  | _ => parseError Mark.start t.start "did not find expected <stream-start>"

/-- The start of a document, implicit or after `---`, or the end of the stream. -/
def parseDocumentStart (implicit : Bool) : Parse Event := do
  let mut t ← peek
  if !implicit then
    for _ in [0:(← scan bound)] do
      if !t.kind.isDocumentEnd then break
      skip
      t ← peek
  if implicit && !(t.kind.isDirective || t.kind.isDocumentStart || t.kind.isStreamEnd) then
    processDirectives
    pushState .documentEnd
    goTo .blockNode
    return ⟨.documentStart, t.start⟩
  else if !t.kind.isStreamEnd then
    let start := t.start
    processDirectives
    let t' ← peek
    if !t'.kind.isDocumentStart then
      parseError Mark.start t'.start "did not find expected <document start>"
    pushState .documentEnd
    goTo .documentContent
    skip
    return ⟨.documentStart, start⟩
  else
    goTo .finished
    skip
    return ⟨.streamEnd, t.start⟩

/-- The end of a document, after its `...` if written. -/
def parseDocumentEnd : Parse Event := do
  let t ← peek
  if t.kind.isDocumentEnd then skip
  modify fun p => { p with tagDirectives := [] }
  goTo .documentStart
  return ⟨.documentEnd, t.start⟩

/-- A node: an alias, or a scalar or the start of a collection with its anchor and tag. In a
`block` context block collections may start; `indentless` allows a sequence at the indentation
of the key that holds it. -/
def parseNode (block indentless : Bool) : Parse Event := do
  let mut t ← peek
  if let .alias name := t.kind then
    popState
    skip
    return ⟨.alias name, t.start⟩
  let start := t.start
  let mut anchor : Option String := none
  let mut tagToken : Option (String × String × Mark) := none
  match t.kind with
  | .anchor name =>
    anchor := some name
    skip
    t ← peek
    if let .tag handle suffix := t.kind then
      tagToken := some (handle, suffix, t.start)
      skip
      t ← peek
  | .tag handle suffix =>
    tagToken := some (handle, suffix, t.start)
    skip
    t ← peek
    if let .anchor name := t.kind then
      anchor := some name
      skip
      t ← peek
  | _ => pure ()
  let mut tag := ""
  if let some (handle, suffix, tagMark) := tagToken then
    if handle.isEmpty then tag := suffix
    else
      if let some pre := (← get).tagDirectives.lookup handle then tag := pre ++ suffix
      if tag.isEmpty then parseError start tagMark "found undefined tag handle"
  if indentless && t.kind.isBlockEntry then
    goTo .indentlessSequenceEntry
    return ⟨.sequenceStart anchor tag, start⟩
  match t.kind with
  | .scalar value style =>
    popState
    skip
    return ⟨.scalar anchor tag value style, start⟩
  | .flowSequenceStart =>
    goTo .flowSequenceFirstEntry
    return ⟨.sequenceStart anchor tag, start⟩
  | .flowMappingStart =>
    goTo .flowMappingFirstKey
    return ⟨.mappingStart anchor tag, start⟩
  | .blockSequenceStart =>
    if block then
      goTo .blockSequenceFirstEntry
      return ⟨.sequenceStart anchor tag, start⟩
  | .blockMappingStart =>
    if block then
      goTo .blockMappingFirstKey
      return ⟨.mappingStart anchor tag, start⟩
  | _ => pure ()
  if anchor.isSome || !tag.isEmpty then
    popState
    return ⟨.scalar anchor tag "" .plain, start⟩
  parseError start t.start "did not find expected node content"

/-- The content of a document after `---`: a node, or an empty scalar when none is written. -/
def parseDocumentContent : Parse Event := do
  let t ← peek
  if t.kind.isDirective || t.kind.isDocumentStart || t.kind.isDocumentEnd || t.kind.isStreamEnd
  then
    popState
    return emptyScalar t.start
  parseNode true false

/-- An entry of a block sequence, or its end. -/
def parseBlockSequenceEntry (first : Bool) : Parse Event := do
  if first then
    let t ← peek
    pushMark t.start
    skip
  let t ← peek
  match t.kind with
  | .blockEntry =>
    let m := t.stop
    skip
    let t ← peek
    if !(t.kind.isBlockEntry || t.kind.isBlockEnd) then
      pushState .blockSequenceEntry
      parseNode true false
    else
      goTo .blockSequenceEntry
      return emptyScalar m
  | .blockEnd =>
    popState
    let _ ← popMark
    skip
    return ⟨.sequenceEnd, t.start⟩
  | _ =>
    let context ← popMark
    parseError context t.start "did not find expected '-' indicator"

/-- An entry of a sequence at the indentation of its key, or its end. -/
def parseIndentlessSequenceEntry : Parse Event := do
  let t ← peek
  if t.kind.isBlockEntry then
    let m := t.stop
    skip
    let t ← peek
    if !(t.kind.isBlockEntry || t.kind.isKey || t.kind.isValue || t.kind.isBlockEnd) then
      pushState .indentlessSequenceEntry
      parseNode true false
    else
      goTo .indentlessSequenceEntry
      return emptyScalar m
  else
    popState
    return ⟨.sequenceEnd, t.start⟩

/-- A key of a block mapping, or its end. -/
def parseBlockMappingKey (first : Bool) : Parse Event := do
  if first then
    let t ← peek
    pushMark t.start
    skip
  let t ← peek
  match t.kind with
  | .key =>
    let m := t.stop
    skip
    let t ← peek
    if !(t.kind.isKey || t.kind.isValue || t.kind.isBlockEnd) then
      pushState .blockMappingValue
      parseNode true true
    else
      goTo .blockMappingValue
      return emptyScalar m
  | .blockEnd =>
    popState
    let _ ← popMark
    skip
    return ⟨.mappingEnd, t.start⟩
  | _ =>
    let context ← popMark
    parseError context t.start "did not find expected key"

/-- A value of a block mapping; an empty scalar when none is written. -/
def parseBlockMappingValue : Parse Event := do
  let t ← peek
  if t.kind.isValue then
    let m := t.stop
    skip
    let t ← peek
    if !(t.kind.isKey || t.kind.isValue || t.kind.isBlockEnd) then
      pushState .blockMappingKey
      parseNode true true
    else
      goTo .blockMappingKey
      return emptyScalar m
  else
    goTo .blockMappingKey
    return emptyScalar t.start

/-- An entry of a flow sequence, or its end; an entry `key: value` is a mapping of its own. -/
def parseFlowSequenceEntry (first : Bool) : Parse Event := do
  if first then
    let t ← peek
    pushMark t.start
    skip
  let mut t ← peek
  if !t.kind.isFlowSequenceEnd then
    if !first then
      if t.kind.isFlowEntry then
        skip
        t ← peek
      else
        let context ← popMark
        parseError context t.start "did not find expected ',' or ']'"
    if t.kind.isKey then
      goTo .flowSequenceEntryMappingKey
      skip
      return ⟨.mappingStart none "", t.start⟩
    else if !t.kind.isFlowSequenceEnd then
      pushState .flowSequenceEntry
      return ← parseNode false false
  popState
  let _ ← popMark
  skip
  return ⟨.sequenceEnd, t.start⟩

/-- The key of a mapping inside a flow sequence. When none is written the token that follows
is passed over with it. -/
def parseFlowSequenceEntryMappingKey : Parse Event := do
  let t ← peek
  if !(t.kind.isValue || t.kind.isFlowEntry || t.kind.isFlowSequenceEnd) then
    pushState .flowSequenceEntryMappingValue
    parseNode false false
  else
    skip
    goTo .flowSequenceEntryMappingValue
    return emptyScalar t.stop

/-- The value of a mapping inside a flow sequence. -/
def parseFlowSequenceEntryMappingValue : Parse Event := do
  let t ← peek
  if t.kind.isValue then
    skip
    let t ← peek
    if !(t.kind.isFlowEntry || t.kind.isFlowSequenceEnd) then
      pushState .flowSequenceEntryMappingEnd
      return ← parseNode false false
    goTo .flowSequenceEntryMappingEnd
    return emptyScalar t.start
  goTo .flowSequenceEntryMappingEnd
  return emptyScalar t.start

/-- The end of a mapping inside a flow sequence. -/
def parseFlowSequenceEntryMappingEnd : Parse Event := do
  let t ← peek
  goTo .flowSequenceEntry
  return ⟨.mappingEnd, t.start⟩

/-- A key of a flow mapping, or its end. -/
def parseFlowMappingKey (first : Bool) : Parse Event := do
  if first then
    let t ← peek
    pushMark t.start
    skip
  let mut t ← peek
  if !t.kind.isFlowMappingEnd then
    if !first then
      if t.kind.isFlowEntry then
        skip
        t ← peek
      else
        let context ← popMark
        parseError context t.start "did not find expected ',' or '\x7d'"
    if t.kind.isKey then
      skip
      let t' ← peek
      if !(t'.kind.isValue || t'.kind.isFlowEntry || t'.kind.isFlowMappingEnd) then
        pushState .flowMappingValue
        return ← parseNode false false
      goTo .flowMappingValue
      return emptyScalar t'.start
    else if !t.kind.isFlowMappingEnd then
      pushState .flowMappingEmptyValue
      return ← parseNode false false
  popState
  let _ ← popMark
  skip
  return ⟨.mappingEnd, t.start⟩

/-- A value of a flow mapping; an empty scalar when none is written, or for a key written
alone. -/
def parseFlowMappingValue (empty : Bool) : Parse Event := do
  let t ← peek
  if empty then
    goTo .flowMappingKey
    return emptyScalar t.start
  if t.kind.isValue then
    skip
    let t ← peek
    if !(t.kind.isFlowEntry || t.kind.isFlowMappingEnd) then
      pushState .flowMappingKey
      return ← parseNode false false
    goTo .flowMappingKey
    return emptyScalar t.start
  goTo .flowMappingKey
  return emptyScalar t.start

/-- The event of the current state. -/
def parseState : Parse Event := do
  match (← get).state with
  | .streamStart => parseStreamStart
  | .implicitDocumentStart => parseDocumentStart true
  | .documentStart => parseDocumentStart false
  | .documentContent => parseDocumentContent
  | .documentEnd => parseDocumentEnd
  | .blockNode => parseNode true false
  | .blockNodeOrIndentlessSequence => parseNode true true
  | .flowNode => parseNode false false
  | .blockSequenceFirstEntry => parseBlockSequenceEntry true
  | .blockSequenceEntry => parseBlockSequenceEntry false
  | .indentlessSequenceEntry => parseIndentlessSequenceEntry
  | .blockMappingFirstKey => parseBlockMappingKey true
  | .blockMappingKey => parseBlockMappingKey false
  | .blockMappingValue => parseBlockMappingValue
  | .flowSequenceFirstEntry => parseFlowSequenceEntry true
  | .flowSequenceEntry => parseFlowSequenceEntry false
  | .flowSequenceEntryMappingKey => parseFlowSequenceEntryMappingKey
  | .flowSequenceEntryMappingValue => parseFlowSequenceEntryMappingValue
  | .flowSequenceEntryMappingEnd => parseFlowSequenceEntryMappingEnd
  | .flowMappingFirstKey => parseFlowMappingKey true
  | .flowMappingKey => parseFlowMappingKey false
  | .flowMappingValue => parseFlowMappingValue false
  | .flowMappingEmptyValue => parseFlowMappingValue true
  | .finished => return ⟨.streamEnd, Mark.start⟩

/-- The next event; none after the end of the stream, or once a character error has been
met, even one met while looking ahead. -/
def Parser.next : Parse (Option Event) := do
  let p ← get
  if p.scanner.ended || p.scanner.input.failed.isSome || p.state == .finished then return none
  return some (← parseState)

end Yaml

end Auction
