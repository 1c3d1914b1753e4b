import Auction.Config.Datum
import Auction.Time.Basic

/-!
# Reading TOML documents

`Toml.read` reads a TOML document into the entries of its root table, the way a streaming
reader does: the document is a sequence of expressions, one a line (a `key = value` pair, a
table header `[a.b]` or an array-of-tables header `[[a]]`), and each expression is read, then
checked against what came before, then decoded, before the line break that ends it is looked
for. So the first problem in the order of the text is the one reported, whichever stage finds
it, and the message names it the way that stage does.

**Bytes.** The document is read byte by byte, each byte held as the character of the same
number: the syntax, all ASCII, reads as itself, and a byte that a message quotes shows as the
character U+0000–U+00FF of its value, as such readers print a byte. Text is decoded from its
bytes when a string is complete.

**Syntax.** Keys are bare (letters, digits, `-`, `_`) or quoted, and dotted. Values are basic
and literal strings (also multi-line), `true` and `false`, arrays, inline tables, and words of
number and date characters, which are only classified here (integer, float, or one of four
kinds of date and time) and read when decoded.

**Redefinition.** Every key seen is remembered with what it stands for (a table, an array of
tables, a value) and whether a header made it explicit: a pair may not define a key twice nor
reach through a value, a header may not name a table twice nor a table that pairs made (a
table that only headers of deeper tables made stays open to a header of its own), and `[[a]]`
starts a new table of the array, forgetting what was under the last one.

**Values.** Integers are 64-bit, in decimal or with a `0x`, `0o`, `0b` prefix, `_` standing
between digits; floats are read after their form is checked; an offset date-time is a time and
a local date, time or date-time a value of its own kind.
-/

namespace Auction

namespace Toml

/-- The bytes of a document, each held as the character of its value. -/
abbrev Bytes := List Char

/-! ## Bytes -/

/-- Whether a byte is a decimal digit. -/
def isDigit (c : Char) : Bool := '0' ≤ c && c ≤ '9'

/-- Whether a byte is a blank: a space or a tab. -/
def isBlank (c : Char) : Bool := c = ' ' || c = '\t'

/-- Whether a byte may stand in a bare key. -/
def isKeyByte (c : Char) : Bool :=
  isDigit c || ('A' ≤ c && c ≤ 'Z') || ('a' ≤ c && c ≤ 'z') || c = '-' || c = '_'

/-- Whether a byte is a control that may not stand in a document: all but tab, line feed and
carriage return, and delete. -/
def isControl (c : Char) : Bool :=
  let n := c.toNat
  n ≤ 8 || n = 0x0B || n = 0x0C || (0x0E ≤ n && n ≤ 0x1F) || n = 0x7F

/-- Drops leading blanks. -/
def skipBlanks (b : Bytes) : Bytes := b.dropWhile isBlank

/-- The bytes of a text. -/
def bytesOf (s : String) : Bytes := (Text.utf8Bytes s.toList).map Char.ofNat

/-- The text that bytes encode. -/
def textOf (b : Bytes) : String := Text.ofUtf8Lossy (b.map Char.toNat)

/-- A byte as a code point in messages, `U+0031 '1'`: four upper-case hexadecimal digits, and
the character itself when it is printable. -/
def codePoint (c : Char) : String :=
  let hex := "U+" ++ String.ofList (Text.hexDigits 4 c.toNat |>.map Char.toUpper)
  if Text.isPrintable c then hex ++ " '" ++ String.singleton c ++ "'" else hex

/-- Whether bytes start with a word. -/
def startsWith (b : Bytes) (w : String) : Bool := w.toList.isPrefixOf b

/-! ## Lines and comments -/

/-- Reads a line break: a line feed, or a carriage return and a line feed. -/
def newline : Bytes → Except String Bytes
  | '\n' :: rest => .ok rest
  | '\r' :: '\n' :: rest => .ok rest
  | ['\r'] => .error "windows new line expected"
  | '\r' :: _ => .error "windows new line should be \\r\\n"
  | c :: _ => .error ("expected newline but got " ++ codePoint c)
  | [] => .error "expected newline"

/-- Reads the body of a comment up to the line break that ends it, which is left; the
carriage return of a `\r\n` goes with the comment, and one not followed by a line feed is a
control like any other. -/
def commentBody : Bytes → Except String Bytes
  | [] => .ok []
  | '\n' :: rest => .ok ('\n' :: rest)
  | '\r' :: '\n' :: rest => .ok ('\n' :: rest)
  | '\r' :: _ => .error "invalid character in comment"
  | c :: rest => if isControl c then .error "invalid character in comment" else commentBody rest

/-- Skips blanks, comments and line breaks, as between the items of an array. -/
def skipGaps : Nat → Bytes → Except String Bytes
  | 0, b => .ok b
  | fuel + 1, b =>
    match skipBlanks b with
    | '#' :: rest => do
      let rest ← commentBody rest
      match rest with
      | [] => pure []
      | _ => skipGaps fuel rest
    | '\n' :: rest => skipGaps fuel rest
    | '\r' :: rest => do
      let rest ← newline ('\r' :: rest)
      skipGaps fuel rest
    | rest => .ok rest

/-- Expects a byte. -/
def expect (x : Char) : Bytes → Except String Bytes
  | [] => .error ("expected character " ++ String.singleton x ++ " but the document ended here")
  | c :: rest =>
    if c = x then .ok rest else .error ("expected character " ++ String.singleton x)

/-! ## Strings -/

/-- The value of a hexadecimal digit. -/
def hexValue (c : Char) : Option Nat :=
  if isDigit c then some (c.toNat - 48)
  else if 'a' ≤ c && c ≤ 'f' then some (c.toNat - 87)
  else if 'A' ≤ c && c ≤ 'F' then some (c.toNat - 55)
  else none

/-- The code point of a `\u` or `\U` escape: `width` hexadecimal digits from what follows, where
`avail` is what follows within the string (for a multi-line string, its closing delimiter too). -/
def escapePoint (width : Nat) (avail : Bytes) : Except String Nat :=
  let ds := avail.take width
  if ds.length < width then
    .error ("unicode point needs " ++ toString width ++ " character, not " ++ toString ds.length)
  else
    match ds.foldlM (fun acc c => (hexValue c).map (acc * 16 + ·)) 0 with
    | none => .error "non-hex character"
    | some v =>
      if v > 0x10FFFF || (0xD800 ≤ v && v < 0xE000) then
        .error "escape sequence is invalid Unicode code point"
      else .ok v

/-- The byte a one-letter escape stands for. -/
def simpleEscape : Char → Option Char
  | '"' => some '"'
  | '\\' => some '\\'
  | 'b' => some (Char.ofNat 8)
  | 'e' => some (Char.ofNat 27)
  | 'f' => some (Char.ofNat 12)
  | 'n' => some '\n'
  | 'r' => some '\r'
  | 't' => some '\t'
  | _ => none

/-- The first control byte of a body, where a body without escapes must have none. -/
def checkPlain (body : Bytes) : Except String Bytes :=
  if body.any isControl then .error "invalid UTF-8" else .ok body

/-- Whether the rest of a line after a backslash in a multi-line string is only blanks: the
line break is then trimmed with the blanks and breaks after it. -/
def endsLine : Bytes → Bool
  | ' ' :: rest | '\t' :: rest => endsLine rest
  | '\r' :: '\n' :: _ => true
  | '\n' :: _ => true
  | _ => false

/-- Decodes the escapes of a string body onto `acc` (reversed); with `multi`, a backslash that
ends a line joins the next non-blank byte. -/
def unescape (multi : Bool) : Nat → Bytes → Bytes → Except String Bytes
  | 0, acc, _ => .ok acc.reverse
  | _ + 1, acc, [] => .ok acc.reverse
  | fuel + 1, acc, '\\' :: rest =>
    if multi && endsLine rest then
      unescape multi fuel acc (rest.dropWhile fun c => c = '\n' || c = '\r' || isBlank c)
    else
      match rest with
      | [] => .ok acc.reverse
      | e :: more =>
        match simpleEscape e with
        | some c => unescape multi fuel (c :: acc) more
        | none =>
          if e = 'u' || e = 'U' then do
            let width := if e = 'u' then 4 else 8
            let v ← escapePoint width (if multi then more ++ ['"', '"', '"'] else more)
            let enc := (Text.utf8 (Char.ofNat v)).map Char.ofNat
            unescape multi fuel (enc.reverse ++ acc) (more.drop width)
          else .error ("invalid escaped character " ++ codePoint e)
  | fuel + 1, acc, c :: rest =>
    if isControl c then .error ("invalid character " ++ codePoint c)
    else unescape multi fuel (c :: acc) rest

/-- Scans a basic string after its opening quote: the body, whether it holds an escape, and
the bytes after the closing quote. -/
def scanBasic (escaped : Bool) (acc : Bytes) : Bytes → Except String (Bytes × Bool × Bytes)
  | [] => .error "basic string not terminated by \""
  | '"' :: rest => .ok (acc.reverse, escaped, rest)
  | '\n' :: _ | '\r' :: _ => .error "basic strings cannot have new lines"
  | '\\' :: rest =>
    match rest with
    | [] => .error "need a character after \\"
    | c :: more => scanBasic true (c :: '\\' :: acc) more
  | c :: rest => scanBasic escaped (c :: acc) rest

/-- Reads a basic string after its opening quote: its text and the bytes after it. -/
def basicString (b : Bytes) : Except String (String × Bytes) := do
  let (body, escaped, rest) ← scanBasic false [] b
  let bytes ← if escaped then unescape false (body.length + 1) [] body else checkPlain body
  pure (textOf bytes, rest)

/-- Scans a literal string after its opening quote. -/
def scanLiteral (acc : Bytes) : Bytes → Except String (Bytes × Bytes)
  | [] => .error "unterminated literal string"
  | '\'' :: rest => .ok (acc.reverse, rest)
  | '\n' :: _ | '\r' :: _ => .error "literal strings cannot have new lines"
  | c :: rest => if isControl c then .error "invalid character" else scanLiteral (c :: acc) rest

/-- Reads a literal string after its opening quote. -/
def literalString (b : Bytes) : Except String (String × Bytes) := do
  let (body, rest) ← scanLiteral [] b
  pure (textOf body, rest)

/-- The end of a multi-line string at a run of `q` delimiters: up to two of them beyond the
three that close it belong to the body. -/
def closing (q : Char) (name : String) (acc : Bytes) (b : Bytes) :
    Except String (Bytes × Bytes) :=
  let run := (b.takeWhile (· = q)).length
  if run ≥ 6 then
    .error (String.ofList [q, q, q] ++ " not allowed in multiline " ++ name ++ " string")
  else .ok (acc.reverse ++ List.replicate (run - 3) q, b.drop run)

/-- Scans a multi-line basic string after its opening delimiter: the body, whether it holds an
escape, and the bytes after the closing delimiter. -/
def scanMultiBasic (escaped : Bool) (acc : Bytes) : Bytes → Except String (Bytes × Bool × Bytes)
  | [] => .error "multiline basic string not terminated by \"\"\""
  | '"' :: '"' :: '"' :: rest => do
    let (body, after) ← closing '"' "basic" acc ('"' :: '"' :: '"' :: rest)
    pure (body, escaped, after)
  | '\\' :: rest =>
    match rest with
    | [] => .error "need a character after \\"
    | c :: more => scanMultiBasic true (c :: '\\' :: acc) more
  | '\r' :: rest =>
    match rest with
    | '\n' :: more => scanMultiBasic escaped ('\n' :: '\r' :: acc) more
    | _ => .error "need a \\n after \\r"
  | c :: rest => scanMultiBasic escaped (c :: acc) rest

/-- Scans a multi-line literal string after its opening delimiter. -/
def scanMultiLiteral (acc : Bytes) : Bytes → Except String (Bytes × Bytes)
  | [] => .error "multiline literal string not terminated by '''"
  | '\'' :: '\'' :: '\'' :: rest => closing '\'' "literal" acc ('\'' :: '\'' :: '\'' :: rest)
  | '\r' :: rest =>
    match rest with
    | '\n' :: more => scanMultiLiteral ('\n' :: '\r' :: acc) more
    | _ => .error "need a \\n after \\r"
  | c :: rest => if isControl c then .error "invalid character" else scanMultiLiteral (c :: acc) rest

/-- Drops the line break that directly follows the opening of a multi-line string. -/
def dropFirstBreak : Bytes → Bytes
  | '\n' :: rest => rest
  | '\r' :: '\n' :: rest => rest
  | b => b

/-- Reads a multi-line basic string after its opening delimiter. -/
def multiBasicString (b : Bytes) : Except String (String × Bytes) := do
  let (body, escaped, rest) ← scanMultiBasic false [] b
  let body := dropFirstBreak body
  let bytes ← if escaped then unescape true (body.length + 1) [] body else checkPlain body
  pure (textOf bytes, rest)

/-- Reads a multi-line literal string after its opening delimiter. -/
def multiLiteralString (b : Bytes) : Except String (String × Bytes) := do
  let (body, rest) ← scanMultiLiteral [] b
  pure (textOf (dropFirstBreak body), rest)

/-! ## Keys -/

/-- Reads one part of a key. -/
def simpleKey : Bytes → Except String (String × Bytes)
  | [] => .error "expected key but found none"
  | '\'' :: rest => literalString rest
  | '"' :: rest => basicString rest
  | c :: rest =>
    if isKeyByte c then
      let more := rest.takeWhile isKeyByte
      .ok (textOf (c :: more), rest.drop more.length)
    else .error ("invalid character at start of key: " ++ String.singleton c)

/-- Reads the parts after the first of a dotted key, onto `acc` (reversed). -/
def keyParts : Nat → List String → Bytes → Except String (List String × Bytes)
  | 0, acc, b => .ok (acc.reverse, b)
  | fuel + 1, acc, b =>
    match skipBlanks b with
    | '.' :: rest => do
      let (part, after) ← simpleKey (skipBlanks rest)
      keyParts fuel (part :: acc) after
    | rest => .ok (acc.reverse, rest)

/-- Reads a dotted key. -/
def key (b : Bytes) : Except String (List String × Bytes) := do
  let (first, rest) ← simpleKey b
  keyParts (rest.length + 1) [first] rest

/-! ## Values as written -/

/-- The kind of a date or time, by the parts it has. -/
inductive MomentKind where
  /-- A date and time with an offset. -/
  | dateTime
  /-- A date and time without one. -/
  | localDateTime
  | localDate
  | localTime
  deriving DecidableEq, Repr

/-- A value as written: strings and booleans read, numbers and dates only classified. -/
inductive Value where
  | str (s : String)
  | bool (b : Bool)
  | integer (word : Bytes)
  | float (word : Bytes)
  | moment (kind : MomentKind) (word : Bytes)
  | array (items : List Value)
  /-- An inline table: its pairs in order, each with its dotted key. -/
  | inline (pairs : List (List String × Value))
  deriving Repr, Inhabited

/-- Whether a byte may continue a word of digits in a base. -/
def inBase (base : Nat) (c : Char) : Bool :=
  c = '_' ||
    match base with
    | 16 => (hexValue c).isSome
    | 8 => '0' ≤ c && c ≤ '7'
    | _ => c = '0' || c = '1'

/-- Scans the rest of a number word from position `i` of `b`: its end, and whether it is a float;
`inf` and `nan` end a word, any other letter but `e` and `E` is refused or ends it. -/
def numberEnd (b : Bytes) : Nat → Nat → Bool → Except String (Nat × Bool)
  | 0, i, isFloat => .ok (i, isFloat)
  | fuel + 1, i, isFloat =>
    match b[i]? with
    | none => .ok (i, isFloat)
    | some c =>
      if isDigit c || c = '+' || c = '-' || c = '_' then numberEnd b fuel (i + 1) isFloat
      else if c = '.' || c = 'e' || c = 'E' then numberEnd b fuel (i + 1) true
      else if c = 'i' then
        if startsWith (b.drop i) "inf" then .ok (i + 3, true)
        else .error "unexpected character 'i' while scanning for a number"
      else if c = 'n' then
        if startsWith (b.drop i) "nan" then .ok (i + 3, true)
        else .error "unexpected character 'n' while scanning for a number"
      else .ok (i, isFloat)

/-- Scans a number word of digits, signs, `_`, points and exponents. -/
def scanPlainNumber (b : Bytes) : Except String (Value × Bytes) := do
  let (n, isFloat) ← numberEnd b (b.length + 1) 0 false
  if n = 0 then throw "incomplete number"
  pure (if isFloat then .float (b.take n) else .integer (b.take n), b.drop n)

/-- Scans an integer or a float. A leading `0` followed by a base letter starts a prefixed
integer, and followed by anything but `.`, `e` or `E` is the integer zero alone. -/
def scanNumber (b : Bytes) : Except String (Value × Bytes) :=
  match b with
  | '0' :: c :: _ :: _ =>
    if c = '.' || c = 'e' || c = 'E' then scanPlainNumber b
    else if c = 'x' || c = 'o' || c = 'b' then
      let base := if c = 'x' then 16 else if c = 'o' then 8 else 2
      let n := 2 + ((b.drop 2).takeWhile (inBase base)).length
      .ok (.integer (b.take n), b.drop n)
    else .ok (.integer ['0'], b.drop 1)
  | _ => scanPlainNumber b

/-- Scans a date or time from position `i`: its end and whether a date, a time and a zone were
seen. A space followed by a digit may join a date and a time once; the byte after that digit is
taken unseen. -/
def momentEnd (b : Array Char) :
    Nat → Nat → Bool → Bool → Bool → Bool → Nat × Bool × Bool × Bool
  | 0, i, date, time, zone, _ => (i, date, time, zone)
  | fuel + 1, i, date, time, zone, spaced =>
    match b[i]? with
    | none => (i, date, time, zone)
    | some c =>
      if isDigit c then momentEnd b fuel (i + 1) date time zone spaced
      else if c = '-' then momentEnd b fuel (i + 1) true time (zone || i ≥ 8) spaced
      else if c = 'T' || c = 't' || c = ':' || c = '.' then
        momentEnd b fuel (i + 1) date true zone spaced
      else if c = '+' then momentEnd b fuel (i + 1) date time true spaced
      else if c = 'Z' || c = 'z' then momentEnd b fuel (i + 1) date time true spaced
      else if c = ' ' && !spaced && (b[i + 1]?.map isDigit).getD false then
        let j := if i + 2 ≥ b.size then i + 1 else i + 2
        momentEnd b fuel (j + 1) date true zone true
      else (i, date, time, zone)

/-- Scans a date or time. -/
def scanMoment (b : Bytes) : Value × Bytes :=
  let (n, date, time, zone) := momentEnd b.toArray (b.length + 1) 0 false false false false
  let kind : MomentKind :=
    if time then (if date then (if zone then .dateTime else .localDateTime) else .localTime)
    else .localDate
  (.moment kind (b.take n), b.drop n)

/-- Reads a word that is a number, a date or a time: `inf` and `nan`, a signed number, and
otherwise a date when `-` follows four digits or a time when `:` follows two. -/
def word (b : Bytes) : Except String (Value × Bytes) :=
  match b with
  | 'i' :: _ =>
    if startsWith b "inf" then .ok (.float (b.take 3), b.drop 3) else .error "expected 'inf'"
  | 'n' :: _ =>
    if startsWith b "nan" then .ok (.float (b.take 3), b.drop 3) else .error "expected 'nan'"
  | '+' :: _ | '-' :: _ => scanNumber b
  | _ =>
    if b.length < 3 then scanNumber b
    else
      let lead := (b.take 5).takeWhile isDigit
      match b[lead.length]? with
      | some c =>
        if lead.length < 5 && ((lead.length = 2 && c = ':') || (lead.length = 4 && c = '-')) then
          .ok (scanMoment b)
        else scanNumber b
      | none => scanNumber b

mutual
/-- Reads a value. -/
def value : Nat → Bytes → Except String (Value × Bytes)
  | 0, _ => .error "value nests too deeply"
  | _ + 1, [] => .error "expected value, not eof"
  | fuel + 1, b =>
    match b with
    | '"' :: '"' :: '"' :: rest => do
      let (s, after) ← multiBasicString rest
      pure (.str s, after)
    | '"' :: rest => do
      let (s, after) ← basicString rest
      pure (.str s, after)
    | '\'' :: '\'' :: '\'' :: rest => do
      let (s, after) ← multiLiteralString rest
      pure (.str s, after)
    | '\'' :: rest => do
      let (s, after) ← literalString rest
      pure (.str s, after)
    | 't' :: _ =>
      if startsWith b "true" then .ok (.bool true, b.drop 4) else .error "expected 'true'"
    | 'f' :: _ =>
      if startsWith b "false" then .ok (.bool false, b.drop 5) else .error "expected 'false'"
    | '[' :: rest => do
      let (items, after) ← arrayItems fuel true [] rest
      pure (.array items, after)
    | '{' :: rest => do
      let (pairs, after) ← inlinePairs fuel true [] rest
      pure (.inline pairs, after)
    | _ => word b

/-- Reads the items of an array after its `[`, onto `acc` (reversed); `first` until an item
was read. -/
def arrayItems : Nat → Bool → List Value → Bytes → Except String (List Value × Bytes)
  | 0, _, _, _ => .error "array nests too deeply"
  | _ + 1, _, acc, [] => do
    let rest ← expect ']' []
    pure (acc.reverse, rest)
  | fuel + 1, first, acc, b => do
    let b ← skipGaps (b.length + 1) b
    match b with
    | [] => throw "array is incomplete"
    | ']' :: rest => pure (acc.reverse, rest)
    | c :: rest =>
      let b ←
        if c = ',' then
          if first then throw "array cannot start with comma" else skipGaps (rest.length + 1) rest
        else if !first then throw "array elements must be separated by commas"
        else pure b
      match b with
      | ']' :: rest => pure (acc.reverse, rest)
      | _ => do
        let (v, b) ← value fuel b
        let b ← skipGaps (b.length + 1) b
        arrayItems fuel false (v :: acc) b

/-- Reads the pairs of an inline table after its `{`, onto `acc` (reversed); `first` until a
pair was read. -/
def inlinePairs : Nat → Bool → List (List String × Value) → Bytes →
    Except String (List (List String × Value) × Bytes)
  | 0, _, _, _ => .error "table nests too deeply"
  | _ + 1, _, acc, [] => do
    let rest ← expect '}' []
    pure (acc.reverse, rest)
  | fuel + 1, first, acc, b =>
    match skipBlanks b with
    | [] => .error "inline table is incomplete"
    | '}' :: rest => .ok (acc.reverse, rest)
    | b => do
      let b ← if first then pure b else do
        let b ← expect ',' b
        pure (skipBlanks b)
      let (k, v, b) ← pair fuel b
      inlinePairs fuel false ((k, v) :: acc) b

/-- Reads a `key = value` pair. -/
def pair : Nat → Bytes → Except String (List String × Value × Bytes)
  | 0, _ => .error "value nests too deeply"
  | fuel + 1, b => do
    let (k, rest) ← key b
    let rest := skipBlanks rest
    if rest.isEmpty then throw "expected = after a key, but the document ends there"
    let rest ← expect '=' rest
    let (v, rest) ← value fuel (skipBlanks rest)
    pure (k, v, rest)
end

/-! ## Expressions -/

/-- A top-level expression. -/
inductive Expr where
  | pair (key : List String) (v : Value)
  | table (key : List String)
  | arrayTable (key : List String)
  deriving Repr

/-- Reads an expression: blanks, then a header or a pair or nothing, then blanks and a
comment; the line break after it is left. -/
def expression (b : Bytes) : Except String (Option Expr × Bytes) := do
  let b := skipBlanks b
  match b with
  | [] => return (none, [])
  | '#' :: rest => return (none, ← commentBody rest)
  | '\n' :: _ | '\r' :: _ => return (none, b)
  | _ => pure ()
  let (e, rest) ← match b with
    | '[' :: '[' :: rest => do
      let (k, after) ← key (skipBlanks rest)
      let after ← expect ']' (skipBlanks after)
      let after ← expect ']' after
      pure (Expr.arrayTable k, after)
    | '[' :: rest => do
      let (k, after) ← key (skipBlanks rest)
      let after ← expect ']' (skipBlanks after)
      pure (Expr.table k, after)
    | _ => do
      let (k, v, after) ← pair (3 * b.length + 8) b
      pure (Expr.pair k v, after)
  match skipBlanks rest with
  | '#' :: more => pure (some e, ← commentBody more)
  | more => pure (some e, more)

/-- Reads the expressions of a document in order, onto `acc` (reversed), with the problem that
stopped the reading, if any. Every expression but the first starts with a line break. -/
def expressions : Nat → Bool → List Expr → Bytes → List Expr × Option String
  | 0, _, acc, _ => (acc.reverse, none)
  | _ + 1, _, acc, [] => (acc.reverse, none)
  | fuel + 1, first, acc, b =>
    match (if first then .ok b else newline b) with
    | .error e => (acc.reverse, some e)
    | .ok [] => (acc.reverse, none)
    | .ok b =>
      match expression b with
      | .error e => (acc.reverse, some e)
      | .ok (e, rest) => expressions fuel false (e.toList ++ acc) rest

/-! ## Redefinition -/

/-- What a key stands for, to the check of redefinitions. -/
inductive Kind where
  | table
  | arrayTable
  | value
  deriving DecidableEq, Repr

/-- The name of a kind in messages. -/
def Kind.name : Kind → String
  | .table => "table"
  | .arrayTable => "array table"
  | .value => "value"

/-- A key seen: its number, the number of the key it is under (`0` for the root), its name, what
it stands for, whether it is explicit, and whether a pair's dotted key made it. -/
structure Entry where
  id : Nat
  parent : Nat
  name : String
  kind : Kind
  explicit : Bool
  byPair : Bool
  deriving Repr

/-- The keys seen, in the order they were first seen, and the table that pairs go into. -/
structure Seen where
  entries : List Entry := []
  nextId : Nat := 1
  current : Nat := 0
  deriving Repr

/-- The key `name` under the key `parent`. -/
def Seen.find (s : Seen) (parent : Nat) (name : String) : Option Entry :=
  s.entries.find? fun e => e.parent = parent && e.name == name

/-- Adds a key under `parent`, with its number. -/
def Seen.create (s : Seen) (parent : Nat) (name : String) (kind : Kind) (explicit byPair : Bool) :
    Seen × Nat :=
  ({ s with entries := s.entries ++ [⟨s.nextId, parent, name, kind, explicit, byPair⟩],
            nextId := s.nextId + 1 }, s.nextId)

/-- Changes the key numbered `id`. -/
def Seen.update (s : Seen) (id : Nat) (f : Entry → Entry) : Seen :=
  { s with entries := s.entries.map fun e => if e.id = id then f e else e }

/-- The numbers of the keys under `id`, at any depth: a key comes after the key it is under. -/
def Seen.below (s : Seen) (id : Nat) : List Nat :=
  s.entries.foldl (fun acc e => if acc.contains e.parent then acc ++ [e.id] else acc) [id]
    |>.drop 1

/-- Makes every key under `id` that a pair made explicit; tables that headers made on the way
to their own tables stay open to a header of their own. -/
def Seen.markBelow (s : Seen) (id : Nat) : Seen :=
  let ids := s.below id
  { s with entries := s.entries.map fun e =>
      if e.byPair && ids.contains e.id then { e with explicit := true } else e }

/-- Forgets every key under `id`. -/
def Seen.clearBelow (s : Seen) (id : Nat) : Seen :=
  let ids := s.below id
  { s with entries := s.entries.filter fun e => !ids.contains e.id }

/-- Walks the parts of a pair's key from `parent`, making the missing ones tables; a part
already seen must be a table that no header made, and the last part may not have been seen. -/
def Seen.walkPair (s : Seen) (parent : Nat) : List String → Except String (Seen × Nat)
  | [] => .ok (s, parent)
  | k :: ks =>
    match s.find parent k with
    | none =>
      let (s, id) := s.create parent k .table false true
      s.walkPair id ks
    | some e =>
      if ks.isEmpty then .error ("key " ++ k ++ " is already defined")
      else if e.kind ≠ .table then
        .error ("expected " ++ k ++ " to be a table, not a " ++ e.kind.name)
      else if e.explicit then
        .error ("cannot redefine table " ++ k ++ " that has already been explicitly defined")
      else s.walkPair e.id ks

/-- Checks a pair's key in the current table; its last part becomes a value. -/
def Seen.pair (s : Seen) (k : List String) : Except String Seen := do
  let (s, last) ← s.walkPair s.current k
  pure (s.update last fun e => { e with kind := .value })

mutual
/-- Checks the keys inside a value: an inline table's pairs with a check of their own. -/
def checkValue : Value → Except String Unit
  | .inline pairs => checkPairs {} pairs
  | .array items => checkItems items
  | _ => .ok ()

/-- Checks the pairs of an inline table in order. -/
def checkPairs (s : Seen) : List (List String × Value) → Except String Unit
  | [] => .ok ()
  | (k, v) :: rest => do
    let s ← s.pair k
    checkValue v
    checkPairs s rest

/-- Checks the items of an array. -/
def checkItems : List Value → Except String Unit
  | [] => .ok ()
  | v :: rest => do
    checkValue v
    checkItems rest
end

/-- Walks the parts of a header's key but the last from the root, making the missing ones
tables; a part already seen may not be a value. -/
def Seen.walkHeader (s : Seen) (parent : Nat) : List String → Except String (Seen × Nat)
  | [] => .ok (s, parent)
  | k :: ks =>
    match s.find parent k with
    | none =>
      let (s, id) := s.create parent k .table false false
      s.walkHeader id ks
    | some e =>
      if e.kind = .value then .error ("expected " ++ k ++ " to be a table, not a " ++ e.kind.name)
      else s.walkHeader e.id ks

/-- Checks a table header: the keys that pairs made under the table left become explicit, and
the table named must be new or made only by the headers of tables under it. -/
def Seen.table (s : Seen) (k : List String) : Except String Seen := do
  let s := s.markBelow s.current
  let (s, parent) ← s.walkHeader 0 k.dropLast
  let name := k.getLast?.getD ""
  match s.find parent name with
  | some e =>
    if e.kind ≠ .table then throw ("key " ++ name ++ " should be a table, not a " ++ e.kind.name)
    if e.explicit then throw ("table " ++ name ++ " already exists")
    pure { s.update e.id (fun e => { e with explicit := true }) with current := e.id }
  | none =>
    let (s, id) := s.create parent name .table true false
    pure { s with current := id }

/-- Checks an array-of-tables header: the array starts a new table, forgetting the keys of the
last one. -/
def Seen.arrayTable (s : Seen) (k : List String) : Except String Seen := do
  let s := s.markBelow s.current
  let (s, parent) ← s.walkHeader 0 k.dropLast
  let name := k.getLast?.getD ""
  match s.find parent name with
  | some e =>
    if e.kind ≠ .arrayTable then
      throw ("key " ++ e.kind.name ++ " already exists as a " ++ name ++
        ",  but should be an array table")
    pure { s.clearBelow e.id with current := e.id }
  | none =>
    let (s, id) := s.create parent name .arrayTable true false
    pure { s with current := id }

/-! ## Numbers -/

/-- Drops the `_` of an integer's digits, each of which must follow a digit. -/
def integerDigits : Bytes → Bool → Bytes → Except String Bytes
  | [], _, acc => .ok acc.reverse
  | '_' :: rest, before, acc =>
    if before then integerDigits rest false acc
    else .error "number must have at least one digit between underscores"
  | c :: rest, _, acc => integerDigits rest true (c :: acc)

/-- The digits of an integer word without its `_`, which may neither start nor end it. -/
def integerClean (w : Bytes) : Except String Bytes :=
  let start := match w with
    | '+' :: _ | '-' :: _ => 1
    | _ => 0
  if w.length = start then .ok w
  else if w[start]? = some '_' then .error "number cannot start with underscore"
  else if w.getLast? = some '_' then .error "number cannot end with underscore"
  else
    let head := w.takeWhile (· ≠ '_')
    if head.length = w.length then .ok w
    else integerDigits (w.drop (head.length + 1)) false head.reverse

/-- A signed 64-bit integer in a base, or the reason it is none, in the words of a reader of
integers. -/
def parseIn (base : Nat) (ds : Bytes) : Except String Int :=
  let s := textOf ds
  let refusal (e : IntText) : String := IntText.message "ParseInt" s e
  if base = 10 then
    match IntText.parse 64 s with
    | .ok n => .ok n
    | e => .error (refusal e)
  else
    match Literal.digits base false 0 ds with
    | .ok n => if n < 9223372036854775808 then .ok n else .error (refusal .rangeError)
    | e => .error (refusal e)

/-- The value of an integer word. -/
def integerValue (w : Bytes) : Except String Int :=
  match w with
  | '0' :: c :: _ :: _ =>
    let (base, name) : Nat × String :=
      if c = 'x' then (16, "hexadecimal") else if c = 'o' then (8, "octal") else (2, "binary")
    do
      let ds ← integerClean (w.drop 2)
      (parseIn base ds).mapError fun e => "couldn't parse " ++ name ++ " number: " ++ e
  | _ => do
    let ds ← integerClean w
    let body := match ds with
      | '+' :: r | '-' :: r => r
      | r => r
    if body.length > 1 && body.head? = some '0' then
      throw "leading zero not allowed on decimal number"
    (parseIn 10 ds).mapError fun e => "couldn't parse decimal number: " ++ e

/-- Drops the `_` of a float's digits after the first one, onto `acc` (reversed); `prev` is the
byte before the rest, and `before` whether a digit came since the last `_`. -/
def floatDigits : Bytes → Char → Bool → Bytes → Except String Bytes
  | [], _, _, acc => .ok acc.reverse
  | c :: rest, prev, before, acc =>
    let next := rest.head?
    if c = '_' then
      if !before then .error "number must have at least one digit between underscores"
      else if next = some 'e' || next = some 'E' then .error "cannot have underscore before exponent"
      else floatDigits rest c false acc
    else if c = '+' || c = '-' then floatDigits rest c false (c :: acc)
    else if c = 'e' || c = 'E' then
      if next = some '_' then .error "cannot have underscore after exponent"
      else floatDigits rest c before (c :: acc)
    else if c = '.' then
      if next = some '_' then .error "cannot have underscore after decimal point"
      else if prev = '_' then .error "cannot have underscore before decimal point"
      else floatDigits rest c before (c :: acc)
    else floatDigits rest c true (c :: acc)

/-- A float word without its `_`, which may neither start nor end it; every `_`, the first
included, is checked against the bytes around it. -/
def floatClean (w : Bytes) : Except String Bytes :=
  if w.head? = some '_' then .error "number cannot start with underscore"
  else if w.getLast? = some '_' then .error "number cannot end with underscore"
  else if !w.contains '_' then .ok w
  else floatDigits w ' ' false []

/-- Checks the decimal points of a float: at most one, between two digits. -/
def checkPoints : Bytes → Char → Bool → Except String Unit
  | [], _, _ => .ok ()
  | c :: rest, prev, seen =>
    if c = '.' then
      if seen then .error "float can have at most one decimal point"
      else if !isDigit prev then .error "float decimal point must be preceded by a digit"
      else if !(rest.head?.map isDigit).getD false then
        .error "float decimal point must be followed by a digit"
      else checkPoints rest c true
    else checkPoints rest c seen

/-- The value of a float word. -/
def floatValue (w : Bytes) : Except String Real64 := do
  if w = "+nan".toList || w = "-nan".toList then return .nan
  let ds ← floatClean w
  if ds.head? = some '.' then throw "float cannot start with a dot"
  if ds.getLast? = some '.' then throw "float cannot end with a dot"
  checkPoints ds ' ' false
  let body := match ds with
    | '+' :: r | '-' :: r => r
    | r => r
  if body.head? = some '0' && (body[1]?.map isDigit).getD false then
    throw "float integer part cannot have leading zeroes"
  let s := textOf ds
  let refused (why : String) : String :=
    "unable to parse float: strconv.ParseFloat: parsing " ++ Text.quote s ++ ": " ++ why
  if s = "inf" || s = "+inf" then return .infinite false
  if s = "-inf" then return .infinite true
  if s = "nan" then return .nan
  match Real64.literalParts s with
  | none => throw (refused "invalid syntax")
  | some (neg, m, e) =>
    let x := Real64.ofDecimal neg m e
    if x.isFinite then pure x else throw (refused "value out of range")

/-! ## Dates and times -/

/-- The value of a run of decimal digits. -/
def digitsValue (ds : Bytes) : Except String Nat :=
  ds.foldlM (fun acc c => if isDigit c then .ok (acc * 10 + (c.toNat - 48))
    else .error "expected digit (0-9)") 0

/-- A date: year, month, day. -/
def parseDate (w : Bytes) : Except String (Nat × Nat × Nat) := do
  if w.length ≠ 10 || w[4]? ≠ some '-' || w[7]? ≠ some '-' then
    throw "dates are expected to have the format YYYY-MM-DD"
  let y ← digitsValue (w.take 4)
  let m ← digitsValue ((w.drop 5).take 2)
  let d ← digitsValue ((w.drop 8).take 2)
  if m < 1 || m > 12 || d < 1 || d > daysInMonth y m then throw "impossible date"
  pure (y, m, d)

/-- A time of day: hour, minute, second, nanoseconds, the number of fraction digits kept, and
the bytes after it. -/
def parseTime (w : Bytes) : Except String ((Nat × Nat × Nat × Nat × Nat) × Bytes) := do
  if w.length < 8 then throw "times are expected to have the format HH:MM:SS[.NNNNNN]"
  let h ← digitsValue (w.take 2)
  if h > 23 then throw "hour cannot be greater 23"
  if w[2]? ≠ some ':' then throw "expecting colon between hours and minutes"
  let m ← digitsValue ((w.drop 3).take 2)
  if m > 59 then throw "minutes cannot be greater 59"
  if w[5]? ≠ some ':' then throw "expecting colon between minutes and seconds"
  let s ← digitsValue ((w.drop 6).take 2)
  if s > 60 then throw "seconds cannot be greater 60"
  match w.drop 8 with
  | '.' :: rest =>
    let ds := rest.takeWhile isDigit
    if ds.isEmpty && !rest.isEmpty then throw "need at least one digit after fraction point"
    if ds.isEmpty then throw "nanoseconds need at least one digit"
    let kept := ds.take 9
    let frac := kept.foldl (fun a c => a * 10 + (c.toNat - 48)) 0
    pure ((h, m, s, frac * Nat.pow 10 (9 - kept.length), kept.length), rest.drop ds.length)
  | rest => pure ((h, m, s, 0, 0), rest)

/-- Zero-padded digits. -/
def pad (width n : Nat) : String := padNat width n

/-- The text of a local date. -/
def dateText (y m d : Nat) : String := pad 4 y ++ "-" ++ pad 2 m ++ "-" ++ pad 2 d

/-- The text of a local time: the fraction shown with as many digits as were written. -/
def timeText (h m s nanos precision : Nat) : String :=
  pad 2 h ++ ":" ++ pad 2 m ++ ":" ++ pad 2 s ++
    (if precision = 0 then "" else "." ++ String.ofList ((pad 9 nanos).toList.take precision))

/-- A local date and time, and the bytes after it. -/
def parseDateTime (w : Bytes) :
    Except String ((Nat × Nat × Nat) × (Nat × Nat × Nat × Nat × Nat) × Bytes) := do
  if w.length < 11 then
    throw "local datetimes are expected to have the format YYYY-MM-DDTHH:MM:SS[.NNNNNNNNN]"
  let date ← parseDate (w.take 10)
  let sep := w[10]?.getD ' '
  if sep ≠ 'T' && sep ≠ ' ' && sep ≠ 't' then
    throw "datetime separator is expected to be T or a space"
  let (time, rest) ← parseTime (w.drop 11)
  pure (date, time, rest)

/-- The offset of a zone in seconds: `Z`, or `±hh:mm`. -/
def zoneOffset (z : Bytes) : Except String Int := do
  match z with
  | 'Z' :: rest | 'z' :: rest =>
    if rest.isEmpty then return 0 else throw "extra bytes at the end of the timezone"
  | _ => pure ()
  if z.length ≠ 6 then throw "invalid date-time timezone"
  let sign := z.head?.getD ' '
  if sign ≠ '+' && sign ≠ '-' then throw "invalid timezone offset character"
  if z[3]? ≠ some ':' then throw "expected a : separator"
  let h ← digitsValue ((z.drop 1).take 2)
  if h > 23 then throw "invalid timezone offset hours"
  let m ← digitsValue ((z.drop 4).take 2)
  if m > 59 then throw "invalid timezone offset minutes"
  let seconds : Int := ((h * 60 + m) * 60 : Nat)
  pure (if sign = '-' then -seconds else seconds)

/-- The value of a date or time word. -/
def momentValue (kind : MomentKind) (w : Bytes) : Except String Datum :=
  match kind with
  | .localDate => do
    let (y, m, d) ← parseDate w
    pure (.stamp "toml.LocalDate" (dateText y m d))
  | .localTime => do
    let ((h, mi, s, ns, p), rest) ← parseTime w
    if !rest.isEmpty then throw "extra characters at the end of a local time"
    pure (.stamp "toml.LocalTime" (timeText h mi s ns p))
  | .localDateTime => do
    let ((y, m, d), (h, mi, s, ns, p), rest) ← parseDateTime w
    if !rest.isEmpty then throw "extra characters at the end of a local date time"
    pure (.stamp "toml.LocalDateTime" (dateText y m d ++ "T" ++ timeText h mi s ns p))
  | .dateTime => do
    let ((y, m, d), (h, mi, s, ns, _), rest) ← parseDateTime w
    let offset ← zoneOffset rest
    let wall := Instant.ofCivil y m d h mi s ns
    pure (.stamp "time.Time" (Instant.describe ⟨wall.ns - offset * 1000000000, offset⟩))

/-! ## Decoding -/

/-- Defines a value at a key path inside a table; a table on the way is made when missing,
and the last table of an array of tables is the one reached. -/
def insertAt : List (String × Datum) → List String → Datum → List (String × Datum)
  | entries, [], _ => entries
  | entries, [k], v => Datum.setKey entries k v
  | entries, k :: ks, v =>
    match Datum.lookup entries k with
    | some (.map es) => Datum.setKey entries k (.map (insertAt es ks v))
    | some (.seq items) =>
      match items.getLast? with
      | some (.map es) => Datum.setKey entries k (.seq (items.dropLast ++ [.map (insertAt es ks v)]))
      | _ => entries
    | some _ => entries
    | none => entries ++ [(k, .map (insertAt [] ks v))]

/-- Opens the table at a path, reaching through the last table of arrays of tables; with
`appendTable`, adds a new table to the array at the path. -/
def openTable : List (String × Datum) → List String → Bool → List (String × Datum)
  | entries, [], _ => entries
  | entries, [k], appendTable =>
    match Datum.lookup entries k, appendTable with
    | none, false => entries ++ [(k, .map [])]
    | none, true => entries ++ [(k, .seq [.map []])]
    | some (.seq items), true => Datum.setKey entries k (.seq (items ++ [.map []]))
    | _, _ => entries
  | entries, k :: ks, appendTable =>
    match Datum.lookup entries k with
    | some (.map es) => Datum.setKey entries k (.map (openTable es ks appendTable))
    | some (.seq items) =>
      match items.getLast? with
      | some (.map es) =>
        Datum.setKey entries k (.seq (items.dropLast ++ [.map (openTable es ks appendTable)]))
      | _ => entries
    | some _ => entries
    | none => entries ++ [(k, .map (openTable [] ks appendTable))]

mutual
/-- Decodes a value. -/
def Value.datum : Value → Except String Datum
  | .str s => .ok (.str s)
  | .bool b => .ok (.bool b)
  | .integer w => return .long (← integerValue w)
  | .float w => return .float (← floatValue w)
  | .moment kind w => momentValue kind w
  | .array items => return .seq (← datums items)
  | .inline pairs => return .map (← pairDatums [] pairs)

/-- Decodes the items of an array in order. -/
def datums : List Value → Except String (List Datum)
  | [] => .ok []
  | v :: rest => do
    let d ← v.datum
    return d :: (← datums rest)

/-- Decodes the pairs of an inline table in order into a table. -/
def pairDatums (acc : List (String × Datum)) :
    List (List String × Value) → Except String (List (String × Datum))
  | [] => .ok acc
  | (k, v) :: rest => do
    let d ← v.datum
    pairDatums (insertAt acc k d) rest
end

/-- What the reading has built: the root table and the path of the current table. -/
structure Built where
  root : List (String × Datum) := []
  current : List String := []

/-- Checks and decodes the expressions in order. -/
def apply : Seen → Built → List Expr → Except String Built
  | _, built, [] => .ok built
  | seen, built, e :: rest => do
    match e with
    | .pair k v =>
      let seen ← seen.pair k
      checkValue v
      let d ← v.datum
      apply seen { built with root := insertAt built.root (built.current ++ k) d } rest
    | .table k =>
      let seen ← seen.table k
      apply seen { root := openTable built.root k false, current := k } rest
    | .arrayTable k =>
      let seen ← seen.arrayTable k
      apply seen { root := openTable built.root k true, current := k } rest

/-- Reads a TOML document into the entries of its root table, or the first problem in the
order of the text. -/
def read (text : String) : Except String (List (String × Datum)) :=
  let b := bytesOf text
  let (exprs, stop) := expressions (2 * b.length + 2) true [] b
  match apply {} {} exprs, stop with
  | .error e, _ => .error ("toml: " ++ e)
  | .ok _, some e => .error ("toml: " ++ e)
  | .ok built, none => .ok built.root

end Toml

end Auction
