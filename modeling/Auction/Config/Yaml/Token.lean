import Auction.Config.Yaml.Input
import Auction.Text

/-!
# YAML text: tokens

The scanner turns the characters of a YAML text into tokens, on demand: the parser asks for the
next token with `peekToken` and passes it with `skipToken`.

**Lookahead.** A token is handed out only when at least two more follow it, and while the token
could still turn out to be a mapping key. Scanning that far ahead is what makes some errors past
the end of the first document visible.

**Simple keys.** A scalar, an alias, an anchor, a tag or a flow collection start may be a key
without a `?`; each level of flow nesting remembers where such a key may have started. When a
`:` follows on the same line within 1024 characters, a key token is put back before it, and in
a block, a mapping start where the indentation grows. A possible key at the indentation of its
block that meets the end of its line without a `:` is an error.

**Indentation.** In a block, each deeper column where a sequence entry or a mapping key starts
opens a collection, and each line that starts left of it closes it again (a block end token).
Tabs may not indent a line where a key could start.

**Comments.** After most tokens a comment on the same line is read at once; a comment before a
token is read with the comment lines that follow it, whatever indentation they have.
-/

namespace Auction

namespace Yaml

/-- How a scalar is written. -/
inductive ScalarStyle where
  | plain
  | single
  | double
  | literal
  | folded
  deriving DecidableEq, Repr, Inhabited

/-- What a token is. -/
inductive TokenKind where
  | streamStart
  | streamEnd
  /-- A `%YAML` directive with its version. -/
  | version (major minor : Nat)
  /-- A `%TAG` directive: a handle and the prefix it stands for. -/
  | tagDirective (handle pre : String)
  | documentStart
  | documentEnd
  | blockSequenceStart
  | blockMappingStart
  | blockEnd
  | flowSequenceStart
  | flowSequenceEnd
  | flowMappingStart
  | flowMappingEnd
  | blockEntry
  | flowEntry
  | key
  | value
  | alias (name : String)
  | anchor (name : String)
  /-- A tag: its handle (empty for a tag written in full) and its suffix. -/
  | tag (handle suffix : String)
  | scalar (text : String) (style : ScalarStyle)
  deriving Repr, Inhabited

/-- A token with the positions where it starts and ends. -/
structure Token where
  kind : TokenKind
  start : Mark
  stop : Mark
  deriving Repr, Inhabited

namespace TokenKind

/-- Whether a token is a block end. -/
def isBlockEnd : TokenKind → Bool
  | .blockEnd => true
  | _ => false

/-- Whether a token is a block sequence entry. -/
def isBlockEntry : TokenKind → Bool
  | .blockEntry => true
  | _ => false

/-- Whether a token is a key indicator. -/
def isKey : TokenKind → Bool
  | .key => true
  | _ => false

/-- Whether a token is a value indicator. -/
def isValue : TokenKind → Bool
  | .value => true
  | _ => false

/-- Whether a token is a flow entry separator. -/
def isFlowEntry : TokenKind → Bool
  | .flowEntry => true
  | _ => false

/-- Whether a token ends a flow sequence. -/
def isFlowSequenceEnd : TokenKind → Bool
  | .flowSequenceEnd => true
  | _ => false

/-- Whether a token ends a flow mapping. -/
def isFlowMappingEnd : TokenKind → Bool
  | .flowMappingEnd => true
  | _ => false

/-- Whether a token ends the text. -/
def isStreamEnd : TokenKind → Bool
  | .streamEnd => true
  | _ => false

/-- Whether a token is a directive. -/
def isDirective : TokenKind → Bool
  | .version .. | .tagDirective .. => true
  | _ => false

/-- Whether a token is a document start marker. -/
def isDocumentStart : TokenKind → Bool
  | .documentStart => true
  | _ => false

/-- Whether a token is a document end marker. -/
def isDocumentEnd : TokenKind → Bool
  | .documentEnd => true
  | _ => false

end TokenKind

/-- Where a key without `?` may have started. -/
structure SimpleKey where
  possible : Bool
  /-- Whether the key stands at the indentation of its block, so a `:` must follow. -/
  required : Bool
  /-- The number of the token the key would come before. -/
  tokenNumber : Nat
  mark : Mark
  deriving Inhabited

/-- The scanner: its input, the tokens produced so far and what decides the next ones. -/
structure Scanner where
  input : Input
  /-- Whether the stream start token has been produced. -/
  started : Bool
  /-- Whether the parser has passed a stream end token. -/
  ended : Bool
  /-- Every token produced, in order. -/
  tokens : Array Token
  /-- How many tokens the parser has passed. -/
  parsed : Nat
  /-- Whether the token at `parsed` may be handed out without scanning further. -/
  available : Bool
  flowLevel : Nat
  /-- The indentation of the innermost block collection, `-1` outside any. -/
  indent : Int
  /-- The indentations of the enclosing block collections, innermost first. -/
  indents : List Int
  /-- Whether a simple key may start at the reading position. -/
  keyAllowed : Bool
  /-- A possible simple key for each level of flow nesting. -/
  keys : Array SimpleKey
  /-- The level whose possible key comes before each token number. -/
  keyIndex : List (Nat × Nat)
  deriving Inhabited

/-- A scanner about to read a text. -/
def Scanner.ofString (text : String) : Scanner :=
  { input := Input.ofString text, started := false, ended := false, tokens := #[], parsed := 0,
    available := false, flowLevel := 0, indent := -1, indents := [], keyAllowed := false,
    keys := #[], keyIndex := [] }

/-- A step of the scanner. -/
abbrev Scan := StateT Scanner (Except Failure)

/-! ## Reading characters -/

/-- A bound on the steps of any loop over the text. -/
def bound : Scan Nat := return (← get).input.chars.size + 16

/-- The character `k` places after the reading position. -/
def peekAt (k : Nat) : Scan Char := return (← get).input.peek k

/-- The reading position. -/
def markNow : Scan Mark := return (← get).input.mark

/-- Changes the input. -/
def onInput (f : Input → Input) : Scan Unit := modify fun s => { s with input := f s.input }

/-- Makes `length` characters available; false when a refused character stops the decoding,
which the input keeps. -/
def fill (length : Nat) : Scan Bool := do
  let s ← get
  let (i, ok) := s.input.fill length
  set { s with input := i }
  return ok

/-- Makes `length` characters available, failing on a refused character. -/
def need (length : Nat) : Scan Unit := do
  unless (← fill length) do
    throw (.reader ((← get).input.failed.getD "control characters are not allowed"))

/-- Passes over a character. -/
def skipChar : Scan Unit := onInput Input.skip

/-- Passes over a line break. -/
def skipBreak : Scan Unit := onInput Input.skipLine

/-- Reads a character onto `acc`. -/
def readChar (acc : String) : Scan String := do
  let s ← get
  let (i, acc) := s.input.read acc
  set { s with input := i }
  return acc

/-- Reads a line break onto `acc`. -/
def readBreak (acc : String) : Scan String := do
  let s ← get
  let (i, acc) := s.input.readLine acc
  set { s with input := i }
  return acc

/-- A scanner error with the position of its context; the problem is at the reading
position. -/
def scanError (context : Mark) (problem : String) : Scan α := do
  throw (.scanner context.line (← markNow).line problem)

/-- Passes over the blanks at the reading position. -/
def skipBlanks : Scan Unit := do
  need 1
  for _ in [0:← bound] do
    if isBlank (← peekAt 0) then
      skipChar
      need 1
    else break

/-- Passes over the rest of a line, up to its break. -/
def skipToBreak : Scan Unit := do
  for _ in [0:← bound] do
    if isBreakOrEnd (← peekAt 0) then break
    skipChar
    need 1

/-! ## The token queue, simple keys and indentation -/

/-- Adds a token at the end of the queue, or before the token numbered `position`. -/
def insertToken (position : Option Nat) (t : Token) : Scan Unit :=
  modify fun s => { s with tokens :=
    match position with
    | none => s.tokens.push t
    | some i => s.tokens.insertIdxIfInBounds i t }

/-- Appends a token of one or more characters read from the reading position. -/
def tokenOver (kind : TokenKind) (width : Nat) : Scan Unit := do
  let start ← markNow
  for _ in [0:width] do skipChar
  insertToken none ⟨kind, start, ← markNow⟩

/-- The possible simple key of the innermost flow level. -/
def Scanner.topKey (s : Scanner) : SimpleKey := s.keys.back?.getD default

/-- Forgets the possible simple key of the innermost level; a required one is an error. -/
def removeSimpleKey : Scan Unit := do
  let s ← get
  let k := s.topKey
  if k.possible then
    if k.required then scanError k.mark "could not find expected ':'"
    set { s with keys := s.keys.setIfInBounds (s.keys.size - 1) { k with possible := false },
                 keyIndex := s.keyIndex.filter (·.1 != k.tokenNumber) }

/-- Remembers that a simple key may start at the reading position. -/
def saveSimpleKey : Scan Unit := do
  let s ← get
  if s.keyAllowed then
    let key : SimpleKey :=
      ⟨true, s.flowLevel == 0 && s.indent == (s.input.mark.column : Int), s.tokens.size,
        s.input.mark⟩
    removeSimpleKey
    modify fun s => { s with
      keys := s.keys.setIfInBounds (s.keys.size - 1) key,
      keyIndex := (key.tokenNumber, s.keys.size - 1) ::
        s.keyIndex.filter (·.1 != key.tokenNumber) }

/-- Whether the possible key of level `i` still is one: on the line where it started and
within 1024 characters of it. A key found stale is forgotten; a required one is an error. -/
def keyStillValid (i : Nat) : Scan Bool := do
  let s ← get
  match s.keys[i]? with
  | none => return false
  | some k =>
    if !k.possible then return false
    if k.mark.line < s.input.mark.line || k.mark.index + 1024 < s.input.mark.index then
      if k.required then scanError k.mark "could not find expected ':'"
      set { s with keys := s.keys.setIfInBounds i { k with possible := false } }
      return false
    return true

/-- Enters a flow collection. -/
def increaseFlowLevel : Scan Unit := do
  let s ← get
  let m := s.input.mark
  set { s with keys := s.keys.push ⟨false, false, 0, m⟩, flowLevel := s.flowLevel + 1 }
  if s.flowLevel + 1 > 10000 then scanError m "exceeded max depth of 10000"

/-- Leaves a flow collection. -/
def decreaseFlowLevel : Scan Unit := do
  let s ← get
  if s.flowLevel > 0 then
    set { s with flowLevel := s.flowLevel - 1, keys := s.keys.pop,
                 keyIndex := s.keyIndex.filter (·.1 != s.topKey.tokenNumber) }

/-- Opens a block collection at `column` when it is deeper than the current one, with a start
token at the end of the queue or before the token numbered `position`. -/
def rollIndent (column : Nat) (position : Option Nat) (kind : TokenKind) (mark : Mark) :
    Scan Unit := do
  let s ← get
  if s.flowLevel > 0 then return
  if s.indent < (column : Int) then
    set { s with indents := s.indent :: s.indents, indent := column }
    if s.indents.length + 1 > 10000 then scanError s.topKey.mark "exceeded max depth of 10000"
    insertToken position ⟨kind, mark, mark⟩

/-- Closes the block collections deeper than `column`, each with a block end token. -/
def unrollIndent (column : Int) (scanMark : Mark) : Scan Unit := do
  if (← get).flowLevel > 0 then return
  let blockMark := { scanMark with index := scanMark.index - 1 }
  for _ in [0:(← get).indents.length + 1] do
    let s ← get
    if s.indent ≤ column then break
    match s.indents with
    | [] => break
    | i :: rest =>
      set { s with tokens := s.tokens.push ⟨.blockEnd, blockMark, blockMark⟩, indent := i,
                   indents := rest }

/-! ## Comments -/

/-- Passes over everything from the reading position up to the break after position
`seen`: blanks and line breaks before it, then the comment there. -/
def consumeComment (seen : Nat) : Scan Unit := do
  for _ in [0:← bound] do
    need 1
    let i := (← get).input
    if isBreakOrEnd (i.peek 0) then
      if i.mark.index ≥ seen then break
      need 2
      skipBreak
    else skipChar

/-- Reads a comment that follows a token on its line, unless a line break came since the last
character that was neither blank nor a break. Looking ahead for the comment may decode more of
the text; a character error met that way is kept, not raised. -/
def scanLineComment : Scan Unit := do
  if (← get).input.newlines > 0 then return
  let mut peek := 0
  for _ in [0:513] do
    if peek ≥ 512 then break
    if !(← fill (peek + 1)) then break
    let c ← peekAt peek
    if isBlank c then
      peek := peek + 1
      continue
    if c == '#' then consumeComment ((← markNow).index + peek)
    break

/-- Reads the comment at the reading position and the comment lines that follow it, looking
past blanks and line breaks within 512 characters for each. Looking ahead may decode more of
the text; a character error met that way is kept, not raised. -/
def scanComments : Scan Unit := do
  let mut peek := 0
  for _ in [0:(← bound) * 513] do
    if peek ≥ 512 then break
    if !(← fill (peek + 1)) then break
    let s ← get
    let c := s.input.peek peek
    if isBlank c then
      peek := peek + 1
      continue
    let closesFlow := s.flowLevel > 0 && (c == ']' || c == '}')
    if closesFlow || isBreakOrEnd c then
      if !isBreak c then break
      peek := peek + 1
      continue
    if c != '#' then break
    consumeComment (s.input.mark.index + peek)
    peek := 1

/-- Passes over blanks, comments and line breaks up to the next token. A line break in a block
allows a simple key; a tab is passed over only in a flow collection or where no simple key may
start. A byte order mark at the start of a line is passed over when the buffer starts with
one. -/
def scanToNextToken : Scan Unit := do
  for _ in [0:← bound] do
    need 1
    let i := (← get).input
    if i.mark.column == 0 && i.atStart.toNat == 0xFEFF then skipChar
    need 1
    for _ in [0:← bound] do
      let s ← get
      let c := s.input.peek 0
      if c == ' ' || ((s.flowLevel > 0 || !s.keyAllowed) && c == '\t') then
        skipChar
        need 1
      else break
    if (← peekAt 0) == '#' then scanComments
    if isBreak (← peekAt 0) then
      need 2
      skipBreak
      if (← get).flowLevel == 0 then modify fun s => { s with keyAllowed := true }
    else break

/-! ## Directives -/

/-- Reads a directive name. -/
def scanDirectiveName (start : Mark) : Scan String := do
  need 1
  let mut name := ""
  for _ in [0:← bound] do
    if isWordChar (← peekAt 0) then
      name ← readChar name
      need 1
    else break
  if name.isEmpty then scanError start "could not find expected directive name"
  if !isBlankOrEnd (← peekAt 0) then scanError start "found unexpected non-alphabetical character"
  return name

/-- Reads one number of a `%YAML` version, of at most two digits. -/
def scanVersionNumber (start : Mark) : Scan Nat := do
  need 1
  let mut value := 0
  let mut length := 0
  for _ in [0:← bound] do
    let c ← peekAt 0
    if c.isDigit then
      length := length + 1
      if length > 2 then scanError start "found extremely long version number"
      value := value * 10 + (c.toNat - 48)
      skipChar
      need 1
    else break
  if length == 0 then scanError start "did not find expected version number"
  return value

/-- Reads the version of a `%YAML` directive. -/
def scanVersion (start : Mark) : Scan (Nat × Nat) := do
  skipBlanks
  let major ← scanVersionNumber start
  if (← peekAt 0) != '.' then scanError start "did not find expected digit or '.' character"
  skipChar
  let minor ← scanVersionNumber start
  return (major, minor)

/-- Reads a tag handle: `!`, `!!` or `!name!`. In a directive nothing else will do; in a tag a
handle without its closing `!` is the start of the suffix. -/
def scanTagHandle (directive : Bool) (start : Mark) : Scan String := do
  need 1
  if (← peekAt 0) != '!' then scanError start "did not find expected '!'"
  let mut handle ← readChar ""
  need 1
  for _ in [0:← bound] do
    if isWordChar (← peekAt 0) then
      handle ← readChar handle
      need 1
    else break
  if (← peekAt 0) == '!' then handle ← readChar handle
  else if directive && handle != "!" then scanError start "did not find expected '!'"
  return handle

/-- Whether a character may stand in a tag; `,`, `[` and `]` only in a tag written in full or
in a directive. -/
def isUriChar (wide : Bool) (c : Char) : Bool :=
  isWordChar c || ";/?:@&=+$.%!~*'()".toList.contains c || (wide && ",[]".toList.contains c)

/-- Reads the escaped octets of one character of a tag, `%` and two hexadecimal digits each;
the octets must form a UTF-8 sequence. -/
def scanUriEscapes (start : Mark) (acc : String) : Scan String := do
  let mut width := 1024
  let mut octets : List Nat := []
  for _ in [0:5] do
    if width == 0 then break
    need 3
    let i := (← get).input
    match i.peek 0 == '%', hexValue (i.peek 1), hexValue (i.peek 2) with
    | true, some high, some low =>
      let octet := high * 16 + low
      if width == 1024 then
        width := octetWidth octet
        if width == 0 then scanError start "found an incorrect leading UTF-8 octet"
      else if octet / 64 != 2 then scanError start "found an incorrect trailing UTF-8 octet"
      octets := octets ++ [octet]
      skipChar
      skipChar
      skipChar
      width := width - 1
    | _, _, _ => scanError start "did not find URI escaped octet"
  return acc ++ Text.ofUtf8Lossy octets

/-- Reads the characters of a tag after `head`, whose first character is dropped. -/
def scanTagUri (wide : Bool) (head : String) (start : Mark) : Scan String := do
  let mut uri := String.ofList (head.toList.drop 1)
  let mut found := !head.isEmpty
  need 1
  for _ in [0:← bound] do
    let c ← peekAt 0
    if isUriChar wide c then
      if c == '%' then uri ← scanUriEscapes start uri
      else uri ← readChar uri
      need 1
      found := true
    else break
  if !found then scanError start "did not find expected tag URI"
  return uri

/-- Reads the handle and prefix of a `%TAG` directive. -/
def scanTagDirective (start : Mark) : Scan (String × String) := do
  skipBlanks
  let handle ← scanTagHandle true start
  need 1
  if !isBlank (← peekAt 0) then scanError start "did not find expected whitespace"
  skipBlanks
  let pre ← scanTagUri true "" start
  need 1
  if !isBlankOrEnd (← peekAt 0) then
    scanError start "did not find expected whitespace or line break"
  return (handle, pre)

/-- Reads a directive, and the rest of its line. -/
def scanDirective : Scan Token := do
  let start ← markNow
  skipChar
  let name ← scanDirectiveName start
  let kind ← if name == "YAML" then do
      let (major, minor) ← scanVersion start
      pure (TokenKind.version major minor)
    else if name == "TAG" then do
      let (handle, pre) ← scanTagDirective start
      pure (TokenKind.tagDirective handle pre)
    else scanError start "found unknown directive name"
  let stop ← markNow
  skipBlanks
  if (← peekAt 0) == '#' then skipToBreak
  if !isBreakOrEnd (← peekAt 0) then scanError start "did not find expected comment or line break"
  if isBreak (← peekAt 0) then
    need 2
    skipBreak
  return ⟨kind, start, stop⟩

/-! ## Anchors, aliases and tags -/

/-- Reads an anchor or an alias name: letters, digits, `_` and `-`, followed by a blank, the end
of a line or one of `? : , ] } % @` and a backquote. -/
def scanAnchor (anchor : Bool) : Scan Token := do
  let start ← markNow
  skipChar
  need 1
  let mut name := ""
  for _ in [0:← bound] do
    if isWordChar (← peekAt 0) then
      name ← readChar name
      need 1
    else break
  let stop ← markNow
  let c ← peekAt 0
  if name.isEmpty || !(isBlankOrEnd c || "?:,]\x7d%@".toList.contains c || c.toNat == 96) then
    scanError start "did not find expected alphabetic or numeric character"
  return ⟨if anchor then .anchor name else .alias name, start, stop⟩

/-- Reads a tag: `!<uri>` written in full, `!handle!suffix`, `!suffix`, or `!` alone. -/
def scanTag : Scan Token := do
  let start ← markNow
  need 2
  let (handle, suffix) ← if (← peekAt 1) == '<' then do
      skipChar
      skipChar
      let suffix ← scanTagUri true "" start
      if (← peekAt 0) != '>' then scanError start "did not find the expected '>'"
      skipChar
      pure ("", suffix)
    else do
      let handle ← scanTagHandle false start
      if handle.length > 1 && handle.toList.getLast? == some '!' then
        let suffix ← scanTagUri false "" start
        pure (handle, suffix)
      else
        let suffix ← scanTagUri false handle start
        pure (if suffix.isEmpty then ("", "!") else ("!", suffix))
  need 1
  let c ← peekAt 0
  if !isBlankOrEnd c then
    if (← get).flowLevel == 0 || c != ',' then
      scanError start "did not find expected whitespace or line break"
  return ⟨.tag handle suffix, start, ← markNow⟩

/-! ## Block scalars -/

/-- Passes over the indentation and empty lines before a line of a block scalar, reading the
breaks onto `breaks`; with `indent` zero, the indentation is found from the deepest of them.
Returns the indentation, the breaks and the position after the last break. -/
def blockScalarBreaks (indent : Nat) (breaks : String) (start : Mark) :
    Scan (Nat × String × Mark) := do
  let mut stop ← markNow
  let mut breaks := breaks
  let mut deepest := 0
  for _ in [0:← bound] do
    need 1
    for _ in [0:← bound] do
      let i := (← get).input
      if (indent == 0 || i.mark.column < indent) && i.peek 0 == ' ' then
        skipChar
        need 1
      else break
    let i := (← get).input
    if i.mark.column > deepest then deepest := i.mark.column
    if (indent == 0 || i.mark.column < indent) && i.peek 0 == '\t' then
      scanError start "found a tab character where an indentation space is expected"
    if !isBreak (i.peek 0) then break
    need 2
    breaks ← readBreak breaks
    stop ← markNow
  let mut indent := indent
  if indent == 0 then
    let s ← get
    indent := max (max deepest (s.indent + 1).toNat) 1
  return (indent, breaks, stop)

/-- Reads a literal (`|`) or folded (`>`) block scalar with its header. -/
def scanBlockScalar (literal : Bool) : Scan Token := do
  let start ← markNow
  skipChar
  need 1
  let mut chomping : Int := 0
  let mut increment := 0
  let c ← peekAt 0
  if c == '+' || c == '-' then
    chomping := if c == '+' then 1 else -1
    skipChar
    need 1
    let d ← peekAt 0
    if d.isDigit then
      if d == '0' then scanError start "found an indentation indicator equal to 0"
      increment := d.toNat - 48
      skipChar
  else if c.isDigit then
    if c == '0' then scanError start "found an indentation indicator equal to 0"
    increment := c.toNat - 48
    skipChar
    need 1
    let d ← peekAt 0
    if d == '+' || d == '-' then
      chomping := if d == '+' then 1 else -1
      skipChar
  skipBlanks
  if (← peekAt 0) == '#' then
    scanLineComment
    skipToBreak
  if !isBreakOrEnd (← peekAt 0) then
    scanError start "did not find expected comment or line break"
  if isBreak (← peekAt 0) then
    need 2
    skipBreak
  let s ← get
  let mut indent :=
    if increment > 0 then (if s.indent ≥ 0 then s.indent.toNat + increment else increment)
    else 0
  let (found, first, after) ← blockScalarBreaks indent "" start
  indent := found
  let mut trailingBreaks := first
  let mut stop := after
  let mut text := ""
  let mut leadingBreak := ""
  let mut leadingBlank := false
  need 1
  for _ in [0:← bound] do
    let i := (← get).input
    if !(i.mark.column == indent && !isEnd (i.peek 0)) then break
    let trailingBlank := isBlank (i.peek 0)
    if !literal && !leadingBlank && !trailingBlank && leadingBreak.toList.head? == some '\n' then
      if trailingBreaks.isEmpty then text := text.push ' '
    else text := text ++ leadingBreak
    leadingBreak := ""
    text := text ++ trailingBreaks
    trailingBreaks := ""
    leadingBlank := isBlank (i.peek 0)
    for _ in [0:← bound] do
      if isBreakOrEnd (← peekAt 0) then break
      text ← readChar text
      need 1
    need 2
    leadingBreak ← readBreak leadingBreak
    let (found, breaks, after) ← blockScalarBreaks indent trailingBreaks start
    indent := found
    trailingBreaks := breaks
    stop := after
  if chomping != -1 then text := text ++ leadingBreak
  if chomping == 1 then text := text ++ trailingBreaks
  return ⟨.scalar text (if literal then .literal else .folded), start, stop⟩

/-! ## Quoted scalars -/

/-- What an escape in a double-quoted scalar stands for: a character, or the number of
hexadecimal digits of a code point that follow. -/
def escapeOf (c : Char) : Option (Char ⊕ Nat) :=
  match c with
  | '0' => some (.inl (Char.ofNat 0))
  | 'a' => some (.inl (Char.ofNat 7))
  | 'b' => some (.inl (Char.ofNat 8))
  | 't' | '\t' => some (.inl '\t')
  | 'n' => some (.inl '\n')
  | 'v' => some (.inl (Char.ofNat 11))
  | 'f' => some (.inl (Char.ofNat 12))
  | 'r' => some (.inl '\r')
  | 'e' => some (.inl (Char.ofNat 27))
  | ' ' => some (.inl ' ')
  | '"' => some (.inl '"')
  | '/' => some (.inl '/')
  | '\'' => some (.inl '\'')
  | '\\' => some (.inl '\\')
  | 'N' => some (.inl (Char.ofNat 0x85))
  | '_' => some (.inl (Char.ofNat 0xA0))
  | 'L' => some (.inl (Char.ofNat 0x2028))
  | 'P' => some (.inl (Char.ofNat 0x2029))
  | 'x' => some (.inr 2)
  | 'u' => some (.inr 4)
  | 'U' => some (.inr 8)
  | _ => none

/-- Whether a document marker, `---` or `...` followed by a blank or the end, starts at the
reading position at the start of a line. -/
def atDocumentMarker (i : Input) : Bool :=
  i.mark.column == 0 &&
    ((i.peek 0 == '-' && i.peek 1 == '-' && i.peek 2 == '-') ||
      (i.peek 0 == '.' && i.peek 1 == '.' && i.peek 2 == '.')) && isBlankOrEnd (i.peek 3)

/-- Joins the line breaks inside a flow or plain scalar: a single line feed folds to a space,
more keep all but the first. -/
def foldBreaks (text leadingBreak trailingBreaks : String) : String :=
  if leadingBreak.toList.head? == some '\n' then
    if trailingBreaks.isEmpty then text.push ' ' else text ++ trailingBreaks
  else text ++ leadingBreak ++ trailingBreaks

/-- Reads a single- or double-quoted scalar. -/
def scanFlowScalar (single : Bool) : Scan Token := do
  let start ← markNow
  skipChar
  let mut text := ""
  let mut leadingBreak := ""
  let mut trailingBreaks := ""
  let mut whitespaces := ""
  for _ in [0:← bound] do
    need 4
    let i := (← get).input
    if atDocumentMarker i then scanError start "found unexpected document indicator"
    if isEnd (i.peek 0) then scanError start "found unexpected end of stream"
    let mut leadingBlanks := false
    for _ in [0:← bound] do
      let i := (← get).input
      let c := i.peek 0
      if isBlankOrEnd c then break
      if single && c == '\'' && i.peek 1 == '\'' then
        text := text.push '\''
        skipChar
        skipChar
      else if single && c == '\'' then break
      else if !single && c == '"' then break
      else if !single && c == '\\' && isBreak (i.peek 1) then
        need 3
        skipChar
        skipBreak
        leadingBlanks := true
        break
      else if !single && c == '\\' then
        match escapeOf (i.peek 1) with
        | none => scanError start "found unknown escape character"
        | some (.inl e) =>
          text := text.push e
          skipChar
          skipChar
        | some (.inr width) =>
          skipChar
          skipChar
          need width
          let mut value := 0
          for k in [0:width] do
            match hexValue (← peekAt k) with
            | some d => value := value * 16 + d
            | none => scanError start "did not find expected hexdecimal number"
          if (0xD800 ≤ value && value ≤ 0xDFFF) || value > 0x10FFFF then
            scanError start "found invalid Unicode character escape code"
          text := text.push (Char.ofNat value)
          for _ in [0:width] do skipChar
      else text ← readChar text
      need 2
    need 1
    let c ← peekAt 0
    if (single && c == '\'') || (!single && c == '"') then break
    for _ in [0:← bound] do
      let c ← peekAt 0
      if isBlank c then
        if !leadingBlanks then whitespaces ← readChar whitespaces else skipChar
      else if isBreak c then
        need 2
        if !leadingBlanks then
          whitespaces := ""
          leadingBreak ← readBreak leadingBreak
          leadingBlanks := true
        else trailingBreaks ← readBreak trailingBreaks
      else break
      need 1
    if leadingBlanks then
      text := foldBreaks text leadingBreak trailingBreaks
      trailingBreaks := ""
      leadingBreak := ""
    else
      text := text ++ whitespaces
      whitespaces := ""
  skipChar
  return ⟨.scalar text (if single then .single else .double), start, ← markNow⟩

/-! ## Plain scalars -/

/-- Whether a character ends a plain scalar where it stands: `:` before a blank or the end,
and in a flow collection also `,`, `?` and the brackets. -/
def endsPlain (flow : Bool) (c next : Char) : Bool :=
  (c == ':' && isBlankOrEnd next) || (flow && ",?[]\x7b\x7d".toList.contains c)

/-- Reads a plain scalar, which may continue on more indented lines. -/
def scanPlainScalar : Scan Token := do
  let s0 ← get
  let indent : Int := s0.indent + 1
  let start := s0.input.mark
  let mut stop := start
  let mut text := ""
  let mut leadingBreak := ""
  let mut trailingBreaks := ""
  let mut whitespaces := ""
  let mut leadingBlanks := false
  for _ in [0:← bound] do
    need 4
    let i := (← get).input
    if atDocumentMarker i then break
    if i.peek 0 == '#' then break
    for _ in [0:← bound] do
      let s ← get
      let c := s.input.peek 0
      if isBlankOrEnd c then break
      if endsPlain (s.flowLevel > 0) c (s.input.peek 1) then break
      if leadingBlanks then
        text := foldBreaks text leadingBreak trailingBreaks
        trailingBreaks := ""
        leadingBreak := ""
        leadingBlanks := false
      else if !whitespaces.isEmpty then
        text := text ++ whitespaces
        whitespaces := ""
      text ← readChar text
      stop ← markNow
      need 2
    let c ← peekAt 0
    if !(isBlank c || isBreak c) then break
    need 1
    for _ in [0:← bound] do
      let i := (← get).input
      let c := i.peek 0
      if isBlank c then
        if leadingBlanks && (i.mark.column : Int) < indent && c == '\t' then
          scanError start "found a tab character that violates indentation"
        if !leadingBlanks then whitespaces ← readChar whitespaces else skipChar
      else if isBreak c then
        need 2
        if !leadingBlanks then
          whitespaces := ""
          leadingBreak ← readBreak leadingBreak
          leadingBlanks := true
        else trailingBreaks ← readBreak trailingBreaks
      else break
      need 1
    let s ← get
    if s.flowLevel == 0 && (s.input.mark.column : Int) < indent then break
  if leadingBlanks then modify fun s => { s with keyAllowed := true }
  return ⟨.scalar text .plain, start, stop⟩

/-! ## Fetching tokens -/

/-- Sets whether a simple key may start next. -/
def allowKey (b : Bool) : Scan Unit := modify fun s => { s with keyAllowed := b }

/-- The stream start token. -/
def fetchStreamStart : Scan Unit := do
  modify fun s => { s with indent := -1, keys := s.keys.push default, keyAllowed := true,
                           started := true }
  let m ← markNow
  insertToken none ⟨.streamStart, m, m⟩

/-- The stream end token, at the start of a line. -/
def fetchStreamEnd : Scan Unit := do
  if (← markNow).column != 0 then
    onInput fun i => { i with mark := ⟨i.mark.index, i.mark.line + 1, 0⟩ }
  unrollIndent (-1) (← markNow)
  removeSimpleKey
  allowKey false
  let m ← markNow
  insertToken none ⟨.streamEnd, m, m⟩

/-- A directive token. -/
def fetchDirective : Scan Unit := do
  unrollIndent (-1) (← markNow)
  removeSimpleKey
  allowKey false
  insertToken none (← scanDirective)

/-- A document marker token. -/
def fetchDocumentIndicator (kind : TokenKind) : Scan Unit := do
  unrollIndent (-1) (← markNow)
  removeSimpleKey
  allowKey false
  tokenOver kind 3

/-- A flow collection start token, which may start a simple key. -/
def fetchFlowCollectionStart (kind : TokenKind) : Scan Unit := do
  saveSimpleKey
  increaseFlowLevel
  allowKey true
  tokenOver kind 1

/-- A flow collection end token. -/
def fetchFlowCollectionEnd (kind : TokenKind) : Scan Unit := do
  removeSimpleKey
  decreaseFlowLevel
  allowKey false
  tokenOver kind 1

/-- A flow entry separator token. -/
def fetchFlowEntry : Scan Unit := do
  removeSimpleKey
  allowKey true
  tokenOver .flowEntry 1

/-- A block sequence entry token, opening a sequence at its column when needed. -/
def fetchBlockEntry : Scan Unit := do
  let s ← get
  if s.flowLevel == 0 then
    let m := s.input.mark
    if !s.keyAllowed then scanError m "block sequence entries are not allowed in this context"
    rollIndent m.column none .blockSequenceStart m
  removeSimpleKey
  allowKey true
  tokenOver .blockEntry 1

/-- An explicit key token, opening a mapping at its column when needed. -/
def fetchKey : Scan Unit := do
  let s ← get
  if s.flowLevel == 0 then
    let m := s.input.mark
    if !s.keyAllowed then scanError m "mapping keys are not allowed in this context"
    rollIndent m.column none .blockMappingStart m
  removeSimpleKey
  allowKey ((← get).flowLevel == 0)
  tokenOver .key 1

/-- A value token. A possible simple key before it becomes a key token, opening a mapping at
its column when needed; otherwise the value follows an explicit key, or none. -/
def fetchValue : Scan Unit := do
  let level := (← get).keys.size - 1
  if ← keyStillValid level then
    let k := (← get).topKey
    insertToken (some k.tokenNumber) ⟨.key, k.mark, k.mark⟩
    rollIndent k.mark.column (some k.tokenNumber) .blockMappingStart k.mark
    modify fun s => { s with
      keys := s.keys.setIfInBounds level { k with possible := false },
      keyIndex := s.keyIndex.filter (·.1 != k.tokenNumber) }
    allowKey false
  else
    let s ← get
    if s.flowLevel == 0 then
      let m := s.input.mark
      if !s.keyAllowed then scanError m "mapping values are not allowed in this context"
      rollIndent m.column none .blockMappingStart m
    allowKey ((← get).flowLevel == 0)
  tokenOver .value 1

/-- An anchor or alias token, which may start a simple key. -/
def fetchAnchor (anchor : Bool) : Scan Unit := do
  saveSimpleKey
  allowKey false
  insertToken none (← scanAnchor anchor)

/-- A tag token, which may start a simple key. -/
def fetchTag : Scan Unit := do
  saveSimpleKey
  allowKey false
  insertToken none (← scanTag)

/-- A block scalar token. -/
def fetchBlockScalar (literal : Bool) : Scan Unit := do
  removeSimpleKey
  allowKey true
  insertToken none (← scanBlockScalar literal)

/-- A quoted scalar token, which may be a simple key. -/
def fetchFlowScalar (single : Bool) : Scan Unit := do
  saveSimpleKey
  allowKey false
  insertToken none (← scanFlowScalar single)

/-- A plain scalar token, which may be a simple key. -/
def fetchPlainScalar : Scan Unit := do
  saveSimpleKey
  allowKey false
  insertToken none (← scanPlainScalar)

/-- Whether a plain scalar starts at `c`, followed by `next`. -/
def startsPlain (flow : Bool) (c next : Char) : Bool :=
  !(isBlankOrEnd c || "-?:,[]\x7b\x7d#&*!|>'\"%@".toList.contains c || c.toNat == 96) ||
    (c == '-' && !isBlank next) || (!flow && (c == '?' || c == ':') && !isBlankOrEnd next)

/-- The token at the reading position, after the indicators that only start a line. -/
def fetchToken : Scan Unit := do
  let s ← get
  let flow := s.flowLevel > 0
  let c := s.input.peek 0
  let next := s.input.peek 1
  if c == '[' then fetchFlowCollectionStart .flowSequenceStart
  else if c == '{' then fetchFlowCollectionStart .flowMappingStart
  else if c == ']' then fetchFlowCollectionEnd .flowSequenceEnd
  else if c == '}' then fetchFlowCollectionEnd .flowMappingEnd
  else if c == ',' then fetchFlowEntry
  else if c == '-' && isBlankOrEnd next then fetchBlockEntry
  else if c == '?' && (flow || isBlankOrEnd next) then fetchKey
  else if c == ':' && (flow || isBlankOrEnd next) then fetchValue
  else if c == '*' then fetchAnchor false
  else if c == '&' then fetchAnchor true
  else if c == '!' then fetchTag
  else if c == '|' && !flow then fetchBlockScalar true
  else if c == '>' && !flow then fetchBlockScalar false
  else if c == '\'' then fetchFlowScalar true
  else if c == '"' then fetchFlowScalar false
  else if startsPlain flow c next then fetchPlainScalar
  else scanError s.input.mark "found character that cannot start any token"

/-- Scans the next token. After most tokens, a comment on the same line is read at once. -/
def fetchNextToken : Scan Unit := do
  need 1
  if !(← get).started then
    fetchStreamStart
    return
  let scanMark ← markNow
  scanToNextToken
  unrollIndent (← markNow).column scanMark
  need 4
  let i := (← get).input
  let c := i.peek 0
  if isEnd c then fetchStreamEnd
  else if i.mark.column == 0 && c == '%' then fetchDirective
  else if atDocumentMarker i && c == '-' then fetchDocumentIndicator .documentStart
  else if atDocumentMarker i && c == '.' then fetchDocumentIndicator .documentEnd
  else
    fetchToken
    match (← get).tokens.back? with
    | some t => if !t.kind.isBlockEntry then scanLineComment
    | none => scanLineComment

/-- Scans until the token at the head of the queue may be handed out: two more tokens follow
it and it can no longer turn out to be a simple key. -/
def fetchMoreTokens : Scan Unit := do
  for _ in [0:(← bound) + 8] do
    let s ← get
    if s.parsed + 2 < s.tokens.size then
      match s.keyIndex.lookup s.parsed with
      | none => break
      | some level => if !(← keyStillValid level) then break
    fetchNextToken
  modify fun s => { s with available := true }

/-- The token at the head of the queue. -/
def peekToken : Scan Token := do
  if !(← get).available then fetchMoreTokens
  let s ← get
  return s.tokens.getD s.parsed default

/-- Passes the token at the head of the queue. -/
def skipToken : Scan Unit := modify fun s =>
  { s with available := false, parsed := s.parsed + 1,
           ended := (s.tokens.getD s.parsed default).kind.isStreamEnd }

end Yaml

end Auction
