import Auction.Text

/-!
# Request lines and URLs

A request is built from a method and a URL by writing its request line,
`METHOD URL HTTP/1.0`, followed by an empty header section, and reading that text back as a
request. Building fails where the reading fails (`RequestLine.read`):

* the request line is the text up to the first line break; it must hold two blanks, and is
  split at them into the method, the target and the protocol (`malformed HTTP request`);
* the method must be a non-empty token (`invalid method`), the protocol `HTTP/d.d`
  (`malformed HTTP version`);
* the target must read as a URL (`Url.parse`);
* any line between the request line and the empty line must be a header `Name: value`.

**URLs.** A URL is read as a request target: an optional scheme (a letter, then letters,
digits, `+`, `-` or `.`, up to a `:`), a query after the first `?`, and after a scheme a
`//authority` up to the next `/`, whose host must have a numeric port if any, may
percent-escape only bytes past ASCII (and `%25`), and may not hold characters that would need
escaping; then the path, whose escapes must be well formed. A control character anywhere is
refused first. The path is kept as written and decoded; a router matches the decoded path when
escaping it again gives the text as written, and the text as written otherwise.
-/

namespace Auction

namespace Web

/-- Whether a character may stand in a token: ASCII letters and digits and
``!#$%&'*+-.^_`|~``. -/
def isRequestTokenChar (c : Char) : Bool :=
  c.toNat < 127 && (c.isAlphanum || "!#$%&\x27*+-.^_\x60|~".toList.contains c)

/-- Whether a protocol reads: `HTTP/`, a digit, a dot and a digit. -/
def protocolValid (p : String) : Bool :=
  match p.toList with
  | ['H', 'T', 'T', 'P', '/', a, '.', b] => a.isDigit && b.isDigit
  | _ => false

/-- The characters before the last occurrence of `c`, and those after it. -/
def splitAtLast (c : Char) (s : List Char) : Option (List Char × List Char) :=
  match (s.reverse.span (· ≠ c)) with
  | (_, []) => none
  | (after, _ :: before) => some (before.reverse, after.reverse)

/-- Whether a hexadecimal digit. -/
def isHexDigit (c : Char) : Bool :=
  c.isDigit || ('a' ≤ c && c ≤ 'f') || ('A' ≤ c && c ≤ 'F')

/-- The value of a hexadecimal digit. -/
def hexDigitValue (c : Char) : Nat :=
  if c.isDigit then c.toNat - 48
  else if 'a' ≤ c && c ≤ 'f' then c.toNat - 87
  else c.toNat - 55

/-- The parts of a URL that escapes are read in. -/
inductive UrlPart where
  | host
  | path
  | userinfo
  deriving DecidableEq

/-- Whether an ASCII character may stand unescaped in a host: letters, digits, `-_.~` and
``!$&'()*+,;=:[]<>"``. -/
def hostAllows (c : Char) : Bool :=
  c.isAlphanum || "-_.~!$&\x27()*+,;=:[]<>\"".toList.contains c

/-- The message of a malformed escape: the `%` and at most two bytes after it. -/
def escapeError (rest : List Char) : String :=
  "invalid URL escape " ++ Text.quoteBytes ((Text.utf8Bytes rest).take 3)

/-- Decodes the escapes of a part of a URL into bytes. -/
def unescapePart (part : UrlPart) : List Char → Except String (List Nat)
  | [] => .ok []
  | '%' :: a :: b :: rest =>
    if isHexDigit a && isHexDigit b then
      if part = .host && hexDigitValue a < 8 && !(a = '2' && b = '5') then
        .error (escapeError ['%', a, b])
      else
        ((hexDigitValue a * 16 + hexDigitValue b) :: ·) <$> unescapePart part rest
    else .error (escapeError ('%' :: a :: b :: rest))
  | '%' :: rest => .error (escapeError ('%' :: rest))
  | c :: rest =>
    if part = .host && c.toNat < 0x80 && !hostAllows c then
      .error ("invalid character " ++ Text.quote (String.singleton c) ++ " in host name")
    else (Text.utf8 c ++ ·) <$> unescapePart part rest

/-- Whether a port after a host is empty or a `:` and digits. -/
def portValid : List Char → Bool
  | [] => true
  | ':' :: ds => ds.all Char.isDigit
  | _ => false

/-- Checks a host, with its port. -/
def checkHost (host : List Char) : Except String Unit := do
  let port : List Char ←
    if host.head? = some '[' then
      match splitAtLast ']' host with
      | none => throw "missing \x27]\x27 in host"
      | some (_, after) => pure after
    else
      match splitAtLast ':' host with
      | some (_, after) => pure (':' :: after)
      | none => pure []
  unless portValid port do
    throw ("invalid port " ++ Text.quote (String.ofList port) ++ " after host")
  let _ ← unescapePart .host host
  pure ()

/-- Whether user information holds only the characters it may. -/
def userinfoValid (u : List Char) : Bool :=
  u.all fun c => c.isAlphanum || "-._:~!$&\x27()*+,;=%@".toList.contains c

/-- Checks an authority, `user@host:port`, and gives its host as written. -/
def checkAuthority (a : List Char) : Except String (List Char) :=
  match splitAtLast '@' a with
  | none => do
    checkHost a
    pure a
  | some (user, host) => do
    checkHost host
    unless userinfoValid user do throw "net/url: invalid userinfo"
    let (name, password) := user.span (· ≠ ':')
    let _ ← unescapePart .userinfo name
    let _ ← unescapePart .userinfo (password.drop 1)
    pure host

/-- The scheme of a URL and the rest; no scheme when the text does not start with one. -/
def splitScheme (s : List Char) : Except String (List Char × List Char) :=
  go [] s
where
  /-- Reads the scheme's characters onto `acc`. -/
  go (acc : List Char) : List Char → Except String (List Char × List Char)
    | [] => .ok ([], s)
    | c :: rest =>
      if c.isAlpha then go (acc ++ [c]) rest
      else if c.isDigit || c = '+' || c = '-' || c = '.' then
        if acc.isEmpty then .ok ([], s) else go (acc ++ [c]) rest
      else if c = ':' then
        if acc.isEmpty then .error "missing protocol scheme" else .ok (acc, rest)
      else .ok ([], s)

/-- A URL read as a request target. -/
structure Url where
  host : String := ""
  /-- The path as written. -/
  rawPath : String := ""
  /-- The query as written, without its `?`. -/
  rawQuery : String := ""
  deriving Repr, Inhabited

/-- Reads a URL that names a request's target. -/
def Url.read (text : String) : Except String Url := do
  let s := text.toList
  if s.any fun c => c.toNat < 0x20 || c.toNat = 0x7f then
    throw "net/url: invalid control character in URL"
  if s.isEmpty then throw "empty url"
  if s = ['*'] then return { rawPath := "*" }
  let (scheme, rest) ← splitScheme s
  let (rest, query) : List Char × List Char :=
    if rest.getLast? = some '?' && rest.count '?' = 1 then (rest.dropLast, [])
    else
      match rest.span (· ≠ '?') with
      | (p, []) => (p, [])
      | (p, _ :: q) => (p, q)
  if rest.head? ≠ some '/' then
    if scheme.isEmpty then throw "invalid URI for request"
    return { rawQuery := String.ofList query }
  let (host, path) ←
    if !scheme.isEmpty && rest.take 2 = ['/', '/'] then do
      let auth := (rest.drop 2).takeWhile (· ≠ '/')
      let host ← checkAuthority auth
      pure (host, (rest.drop 2).dropWhile (· ≠ '/'))
    else pure ([], rest)
  let _ ← unescapePart .path path
  pure { host := String.ofList host, rawPath := String.ofList path,
         rawQuery := String.ofList query }

/-- Reads a URL that names a request's target; a failure names the URL. -/
def Url.parse (text : String) : Except String Url :=
  match Url.read text with
  | .ok u => .ok u
  | .error e => .error ("parse " ++ Text.quote text ++ ": " ++ e)

/-- A header line's fault, if it has one: it needs a `:` after a non-empty token, and a value
of no control characters but the tab. -/
def headerLineProblem (line : String) : Option String :=
  match line.toList.span (· ≠ ':') with
  | (name, _ :: value) =>
    if !name.isEmpty && name.all isRequestTokenChar &&
        value.all (fun c => c = '\t' || (c.toNat ≥ 0x20 && c.toNat ≠ 0x7f)) then none
    else some ("malformed MIME header line: " ++ line)
  | (_, []) => some ("malformed MIME header line: " ++ line)

/-- The lines of a text, each without its line break (`\n`, or `\r\n`). -/
def textLines (s : String) : List String :=
  (s.splitOn "\n").map fun l =>
    if l.toList.getLast? = some '\r' then String.ofList l.toList.dropLast else l

/-- The first fault of a header section, whose lines run up to the first empty one. -/
def headerProblem (lines : List String) : Option String :=
  let block := lines.takeWhile (· ≠ "")
  match block with
  | first :: _ =>
    if first.toList.head? = some ' ' || first.toList.head? = some '\t' then
      some ("malformed MIME header initial line: " ++ first)
    else block.findSome? headerLineProblem
  | [] => none

/-- A request as read back from its text: its method and the URL of its target. -/
structure RequestLine where
  method : String
  url : Url
  deriving Repr

/-- Builds a request of `method` (GET when empty) for `target`, reading back its text. -/
def RequestLine.read (method target : String) : Except String RequestLine := do
  let method := if method.isEmpty then "GET" else method
  let lines := textLines (method ++ " " ++ target ++ " HTTP/1.0\r\n\r\n")
  let line := lines.headD ""
  let (m, rest) := line.toList.span (· ≠ ' ')
  let (uri, proto) ← match rest with
    | _ :: r =>
      match r.span (· ≠ ' ') with
      | (u, _ :: p) => pure (String.ofList u, String.ofList p)
      | (_, []) => throw ("malformed HTTP request " ++ Text.quote line)
    | [] => throw ("malformed HTTP request " ++ Text.quote line)
  let m := String.ofList m
  unless !m.isEmpty && m.all isRequestTokenChar do throw ("invalid method " ++ Text.quote m)
  unless protocolValid proto do throw ("malformed HTTP version " ++ Text.quote proto)
  let justAuthority := m == "CONNECT" && uri.toList.head? ≠ some '/'
  let url ← Url.parse (if justAuthority then "http://" ++ uri else uri)
  if let some p := headerProblem (lines.drop 1) then throw p
  pure ⟨m, url⟩

end Web

end Auction
