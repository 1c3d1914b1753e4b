import Auction.Web.Exchange

/-!
# Form bodies

A form body fills no field of the API's requests (their fields are named for JSON only), so
what matters is whether it reads at all; a body that does not is answered as an invalid body.

**Media types.** A `Content-Type` is a type `type/subtype` (lower-cased) and parameters
`; name=value`, the value a token or a quoted string; a trailing `;` is allowed, and a
parameter repeated with another value, a malformed parameter or anything after the subtype is
an error. A parameter's value may also be given encoded (`name*=utf-8''a%41`) or in pieces
(`name*0=a; name*1=b`), which stand before a plain `name=`.

**URL-encoded forms** read when the media type reads, the body (when the type is exactly
`application/x-www-form-urlencoded`) reads as a query, and so does the request's own query.

**Multipart forms** need the type `multipart/form-data` and a `boundary` parameter. The body
is read line by line: lines before the first boundary line `--boundary` are skipped; each part
has header lines `Name: value` up to an empty line, and its content runs to the next line break
followed by `--boundary` and then a blank, a line break, `--` or the end. Between parts only
that line break may stand, and `--boundary--` ends the form, whatever follows it. Lines end in
`\r\n`, or in `\n` when the first boundary line does; a line read outside a part's content may
not be longer than 4096 bytes. Header lines are trimmed of blanks and tabs only, so a stray
carriage return is part of the value, which it makes malformed. The request's own query must
read too.
-/

namespace Auction

namespace Web

/-! ## Media types -/

/-- Whether a character is special in a media type: `()<>@,;:\"/[]?=`. -/
def isSpecial (c : Char) : Bool := "()<>@,;:\\\"/[]?=".toList.contains c

/-- Whether a character may stand in a token: printable ASCII other than the specials. -/
def isTokenChar (c : Char) : Bool := 0x20 < c.toNat && c.toNat < 0x7F && !isSpecial c

/-- Splits a token off the front of a text. -/
def token (cs : List Char) : List Char × List Char :=
  (cs.takeWhile isTokenChar, cs.dropWhile isTokenChar)

/-- Reads a quoted string after its opening quote: a backslash before a special character
escapes it, and a line break or a missing closing quote is no value. -/
def quotedValue : List Char → List Char → Option (List Char × List Char)
  | _, [] => none
  | acc, '"' :: rest => some (acc.reverse, rest)
  | acc, '\\' :: c :: rest =>
    if isSpecial c then quotedValue (c :: acc) rest else quotedValue ('\\' :: acc) (c :: rest)
  | _, '\r' :: _ | _, '\n' :: _ => none
  | acc, c :: rest => quotedValue (c :: acc) rest

/-- Drops leading white space. -/
def skipSpace (cs : List Char) : List Char := cs.dropWhile Text.isSpace

/-- Reads one parameter `; name=value`: its lower-cased name, its value and the rest; none when
it does not read. -/
def parameter (cs : List Char) : Option (String × String × List Char) :=
  match skipSpace cs with
  | ';' :: rest =>
    let (name, rest) := token (skipSpace rest)
    if name.isEmpty then none
    else
      match skipSpace rest with
      | '=' :: rest =>
        let rest := skipSpace rest
        let value : Option (List Char × List Char) := match rest with
          | '"' :: more => quotedValue [] more
          | _ =>
            let (v, after) := token rest
            if v.isEmpty then none else some (v, after)
        value.map fun (v, after) =>
          (String.ofList (name.map Char.toLower), String.ofList v, after)
      | _ => none
  | _ => none

/-- Reads the parameters of a media type onto `acc`, names lower-cased; a trailing `;` ends
them, and a name given twice must have one value. -/
def parameters (acc : List (String × String)) : Nat → List Char →
    Except String (List (String × String))
  | 0, _ => .ok acc
  | fuel + 1, cs =>
    match skipSpace cs with
    | [] => .ok acc
    | cs =>
      match parameter cs with
      | none =>
        if ((cs.reverse.dropWhile Text.isSpace).reverse) = [';'] then .ok acc
        else .error "mime: invalid media parameter"
      | some (k, v, rest) =>
        match acc.lookup k with
        | some old =>
          if old == v then parameters acc fuel rest else .error "mime: duplicate parameter name"
        | none => parameters (acc ++ [(k, v)]) fuel rest

/-- The bytes of a text with its `%XX` escapes decoded; none when a `%` is not followed by two
hexadecimal digits. -/
def percentBytes : List Char → Option (List Nat)
  | [] => some []
  | '%' :: a :: b :: rest =>
    match hexValue? a, hexValue? b with
    | some x, some y => (percentBytes rest).map ((16 * x + y) :: ·)
    | _, _ => none
  | '%' :: _ => none
  | c :: rest => (percentBytes rest).map (Text.utf8 c ++ ·)

/-- A text with its `%XX` escapes decoded. -/
def percentText (v : String) : Option String :=
  (percentBytes v.toList).map Text.ofUtf8Lossy

/-- An encoded parameter value `charset'language'text`: the charset must be US-ASCII or UTF-8
(in any case), and the text is decoded from its escapes. -/
def encodedValue (v : String) : Option String :=
  let cs := v.toList
  let charset := cs.takeWhile (· ≠ '\'')
  match cs.drop charset.length with
  | '\'' :: rest =>
    let language := rest.takeWhile (· ≠ '\'')
    match rest.drop language.length with
    | '\'' :: text =>
      if ["us-ascii", "utf-8"].contains (Text.lower (String.ofList charset)) then
        percentText (String.ofList text)
      else none
    | _ => none
  | _ => none

/-- The pieces of a value continued over `name*0`, `name*1`, …, up to the first number missing;
a piece `name*N*` is encoded, the first one with its charset (a piece that does not decode
adds nothing). -/
def continuedPieces (params : List (String × String)) (name : String) : Nat → Nat → List String
  | 0, _ => []
  | fuel + 1, n =>
    let simple := name ++ "*" ++ toString n
    match params.lookup simple with
    | some v => v :: continuedPieces params name fuel (n + 1)
    | none =>
      match params.lookup (simple ++ "*") with
      | some v =>
        let piece := if n = 0 then encodedValue v else percentText v
        piece.getD "" :: continuedPieces params name fuel (n + 1)
      | none => []

/-- The value of a media type's parameter. Parameters named `name*…` stand before the plain
`name`: `name*` holds an encoded value, and else the pieces `name*0`, `name*1`, … are joined;
when neither gives a value, the plain `name` counts. -/
def parameterValue (params : List (String × String)) (name : String) : Option String :=
  let plain := params.lookup name
  let extended := params.any fun (k, _) =>
    k.contains '*' && String.ofList (k.toList.takeWhile (· ≠ '*')) == name
  if !extended then plain
  else
    match params.lookup (name ++ "*") with
    | some v =>
      match encodedValue v with
      | some d => some d
      | none => plain
    | none =>
      match continuedPieces params name (params.length + 1) 0 with
      | [] => plain
      | pieces => some (String.join pieces)

/-- Reads a media type: the lower-cased `type/subtype` and its parameters. -/
def mediaType (v : String) : Except String (String × List (String × String)) :=
  let cs := v.toList
  let base := cs.takeWhile (· ≠ ';')
  let kind := ((base.map Char.toLower).dropWhile Text.isSpace).reverse.dropWhile Text.isSpace
    |>.reverse
  let (main, rest) := token kind
  if main.isEmpty then .error "mime: no media type"
  else
    let shapeOk : Except String Unit :=
      match rest with
      | [] => .ok ()
      | '/' :: sub =>
        let (subtype, after) := token sub
        if subtype.isEmpty then .error "mime: expected token after slash"
        else if !after.isEmpty then .error "mime: unexpected content after media subtype"
        else .ok ()
      | _ => .error "mime: expected slash after first token"
    match shapeOk with
    | .error e => .error e
    | .ok () => do
      let params ← parameters [] (cs.length + 1) (cs.drop base.length)
      pure (String.ofList kind, params)

/-! ## URL-encoded forms -/

/-- Whether a URL-encoded form reads: its media type, its body and the request's query. -/
def urlEncodedValid (r : Request) : Bool :=
  match mediaType (r.header "Content-Type") with
  | .error _ => false
  | .ok (kind, _) =>
    (kind != "application/x-www-form-urlencoded" || queryValid r.body) && queryValid r.rawQuery

/-! ## Multipart forms -/

/-- Splits off the first line of a text, its line break included; `false` when the text ends
before a line break. -/
def nextLine (cs : List Char) : List Char × List Char × Bool :=
  let line := cs.takeWhile (· ≠ '\n')
  match cs.drop line.length with
  | '\n' :: rest => (line ++ ['\n'], rest, true)
  | _ => (line, [], false)

/-- Drops blanks: spaces and tabs. -/
def skipBlanks (cs : List Char) : List Char := cs.dropWhile fun c => c = ' ' || c = '\t'

/-- Whether a line is the closing boundary line `--boundary--`, blanks and a line break
after it allowed. -/
def isClosing (dash nl line : List Char) : Bool :=
  (dash ++ ['-', '-']).isPrefixOf line &&
    (let rest := skipBlanks (line.drop (dash.length + 2))
     rest.isEmpty || rest == nl)

/-- Whether a line is a boundary line `--boundary`, blanks and a line break after it. -/
def isDelimiter (dash nl line : List Char) : Bool :=
  dash.isPrefixOf line && skipBlanks (line.drop dash.length) == nl

/-- Whether a byte may stand in a header name: a token character of HTTP, or a blank, which
may stand before the colon. -/
def isNameByte (c : Char) : Bool := c = ' ' || (isTokenChar c && c ≠ '{' && c ≠ '}')

/-- Whether a byte may stand in a header value: a tab, a blank, a visible character or a byte
above ASCII. -/
def isValueByte (c : Char) : Bool := c = '\t' || (c.toNat ≥ 0x20 && c.toNat ≠ 0x7F)

/-- Drops blanks and tabs from both ends. -/
def trimLine (cs : List Char) : List Char :=
  let edge (c : Char) : Bool := c = ' ' || c = '\t'
  ((cs.dropWhile edge).reverse.dropWhile edge).reverse

/-- Reads the header lines of a part up to the empty line that ends them; the text after it,
or none when a line is malformed or the text ends first. The first line may not start with a
blank; a line that does continues the one before it, and its text belongs to that value. -/
def partHeaders : Nat → Bool → List Char → Option (List Char)
  | 0, _, _ => none
  | fuel + 1, first, cs =>
    let (line, rest, broken) := nextLine cs
    let body := if broken then line.dropLast else line
    let body := if broken && body.getLast? = some '\r' then body.dropLast else body
    if line.isEmpty then none
    else if body.isEmpty then (if broken then some rest else none)
    else if body.head? = some ' ' || body.head? = some '\t' then
      if first || !broken || !(trimLine body).all isValueByte then none
      else partHeaders fuel false rest
    else
      let body := trimLine body
      let name := body.takeWhile (· ≠ ':')
      if name.length = body.length || name.isEmpty || !name.all isNameByte then none
      else if !(body.drop (name.length + 1)).all isValueByte then none
      else if broken then partHeaders fuel false rest else none

/-- Whether a text starts a boundary that ends a part: `pfx` followed by the end, a blank, a
line break or `--`. -/
def endsPart (pfx cs : List Char) : Bool :=
  pfx.isPrefixOf cs &&
    match cs.drop pfx.length with
    | [] => true
    | '-' :: '-' :: _ => true
    | c :: _ => c = ' ' || c = '\t' || c = '\r' || c = '\n'

/-- The text from where a part's content ends: at its start a boundary `--boundary` may end it,
and else the first line break followed by one; none when the text ends first. -/
def partEnd (dash nl : List Char) (cs : List Char) : Option (List Char) :=
  if endsPart dash cs then some cs
  else
    let pfx := nl ++ dash
    let rec scan : List Char → Option (List Char)
      | [] => none
      | c :: rest => if endsPart pfx (c :: rest) then some (c :: rest) else scan rest
    scan cs

/-- The longest line, line break included, read between parts, in bytes. -/
def maxLineBytes : Nat := 4096

/-- Whether a line read between parts fits: a line that ends the text without a line break
must be shorter than the longest line. -/
def lineFits (line : List Char) (broken : Bool) : Bool :=
  let n := (Text.utf8Bytes line).length
  if broken then n ≤ maxLineBytes else n < maxLineBytes

/-- Reads the parts of a multipart body: `read` counts the parts read, `expectPart` is set after
the line break that follows a part. Whether the body reads. -/
def multipartParts (dash : List Char) : Nat → List Char → Nat → Bool → List Char → Bool
  | 0, _, _, _, _ => false
  | fuel + 1, nl, read, expectPart, cs =>
    let (line, rest, broken) := nextLine cs
    if !lineFits line broken then false
    else if !broken then isClosing dash nl line
    else
      let nl := if read = 0 && dash.isPrefixOf line && skipBlanks (line.drop dash.length) == ['\n']
        then ['\n'] else nl
      if isDelimiter dash nl line then
        match partHeaders (rest.length + 1) true rest with
        | none => false
        | some content =>
          match partEnd dash nl content with
          | none => false
          | some after => multipartParts dash fuel nl (read + 1) false after
      else if isClosing dash nl line then true
      else if expectPart then false
      else if read = 0 then multipartParts dash fuel nl read expectPart rest
      else if line == nl then multipartParts dash fuel nl read true rest
      else false

/-- Whether a multipart form reads: its media type with a boundary, its body and the request's
query. -/
def multipartValid (r : Request) : Bool :=
  match mediaType (r.header "Content-Type") with
  | .error _ => false
  | .ok (kind, params) =>
    match parameterValue params "boundary" with
    | none => false
    | some boundary =>
      kind == "multipart/form-data" && !boundary.isEmpty && queryValid r.rawQuery &&
        multipartParts ("--" ++ boundary).toList (2 * r.body.length + 2) ['\r', '\n'] 0 false
          r.body.toList

end Web

end Auction
