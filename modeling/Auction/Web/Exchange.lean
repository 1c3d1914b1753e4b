import Auction.Json.Basic
import Auction.Text

/-!
# Web requests and answers

A request has a method, a target (a path with an optional query after `?`), headers and a body.
The path and the query are percent-encoded: `%XX` stands for one byte, and in the query `+`
stands for a blank. The query is a list of `key=value` pairs separated by `&`; a pair with a `;`
in its key or a bad escape is dropped, and a key may repeat, its first value counting. A query
with more than 10000 pairs (counting `&` separators) reads as empty.

Header names are compared without regard to case, and a header may hold a comma-separated list
of tokens, also compared without regard to case.

An answer has a status and a body: a JSON document, or plain text.
-/

namespace Auction

namespace Web

/-- The body of an answer. -/
inductive Body where
  | json (j : Json)
  | text (s : String)
  deriving Inhabited

/-- An answer to a web request. -/
structure Response where
  status : Nat
  body : Body
  deriving Inhabited

/-- A web request, with its path and query as written and decoded. -/
structure Request where
  method : String
  path : String
  query : List (String × String)
  headers : List (String × String)
  body : String
  rawPath : String := path
  rawQuery : String := ""
  deriving Inhabited

/-- The value of a hexadecimal digit. -/
def hexValue? (c : Char) : Option Nat :=
  if c.isDigit then some (c.toNat - 48)
  else if 'a' ≤ c && c ≤ 'f' then some (c.toNat - 87)
  else if 'A' ≤ c && c ≤ 'F' then some (c.toNat - 55)
  else none

/-- The bytes of a percent-encoded text, or none when an escape is malformed; with
`plusIsBlank`, `+` is a blank. -/
def unescapeBytes (plusIsBlank : Bool) : List Char → Option (List UInt8)
  | [] => some []
  | '%' :: a :: b :: rest =>
    match hexValue? a, hexValue? b with
    | some x, some y => (unescapeBytes plusIsBlank rest).map (UInt8.ofNat (16 * x + y) :: ·)
    | _, _ => none
  | '%' :: _ => none
  | c :: rest =>
    let bytes := if plusIsBlank && c = '+' then [(32 : UInt8)] else String.utf8EncodeChar c
    (unescapeBytes plusIsBlank rest).map (bytes ++ ·)

/-- Decodes a percent-encoded text, each byte that starts no UTF-8 character read as U+FFFD;
none when an escape is malformed. -/
def unescape (plusIsBlank : Bool) (s : String) : Option String :=
  (unescapeBytes plusIsBlank s.toList).map fun bytes => Text.ofUtf8Lossy (bytes.map (·.toNat))

/-- The most pairs a query text may hold; one with more `&` separators reads as no pairs. -/
def maxQueryPairs : Nat := 10000

/-- Whether a query text holds no more pairs than are allowed. -/
def withinPairLimit (q : String) : Bool := q.toList.count '&' + 1 ≤ maxQueryPairs

/-- The pairs of a query text; none at all when it holds too many. -/
def parseQuery (q : String) : List (String × String) :=
  if !withinPairLimit q then [] else
  (q.splitOn "&").filterMap fun part =>
    if part.isEmpty || part.contains ';' then none
    else
      let (k, v) := match part.splitOn "=" with
        | [k] => (k, "")
        | k :: rest => (k, "=".intercalate rest)
        | [] => ("", "")
      match unescape true k, unescape true v with
      | some k, some v => some (k, v)
      | _, _ => none

/-- Whether a query text reads without error: it holds no more pairs than are allowed, no pair
holds a `;`, and every key and value decodes. -/
def queryValid (q : String) : Bool :=
  withinPairLimit q && (q.splitOn "&").all fun part =>
    if part.contains ';' then false
    else if part.isEmpty then true
    else
      let (k, v) := match part.splitOn "=" with
        | k :: rest => (k, "=".intercalate rest)
        | [] => ("", "")
      (unescape true k).isSome && (unescape true v).isSome

/-- The first value of a query key, or `""`. -/
def Request.param (r : Request) (key : String) : String :=
  ((r.query.find? (·.1 == key)).map (·.2)).getD ""

/-- Whether two header names are the same, without regard to case. -/
def sameName (a b : String) : Bool := a.toLower == b.toLower

/-- The first value of a header, or `""`. -/
def Request.header (r : Request) (name : String) : String :=
  ((r.headers.find? fun (k, _) => sameName k name).map (·.2)).getD ""

/-- Whether a header holds a token among its comma-separated values. -/
def Request.hasToken (r : Request) (name token : String) : Bool :=
  r.headers.any fun (k, v) =>
    sameName k name && (v.splitOn ",").any fun t => t.trimAscii.toString.toLower == token.toLower

/-- The decoded form of a path; a path with a malformed escape, which a URL that reads does
not have, stays as written. -/
def decodePath (raw : String) : String := (unescape false raw).getD raw

/-- Whether a byte stands as it is in the usual escaped form of a path: letters, digits,
`-_.~`, and the reserved `$&+,/:;=@`. -/
def keptInPath (b : Nat) : Bool :=
  let c := Char.ofNat b
  b < 0x80 && (c.isAlphanum || "-_.~$&+,/:;=@".toList.contains c)

/-- The usual escaped form of a path's bytes: every other byte as `%XX`. -/
def escapePath (bytes : List Nat) : String :=
  String.ofList (bytes.flatMap fun b =>
    if keptInPath b then [Char.ofNat b]
    else '%' :: (Text.hexDigits 2 b).map Char.toUpper)

/-- The path a router matches: the path as written when its escapes differ from the usual
escaping of what it decodes to (`a%2D1`, `a%2F1`, `%e2%82%ac`), and the decoded path otherwise. -/
def Request.routePath (r : Request) : String :=
  match unescapeBytes false r.rawPath.toList with
  | some bytes =>
    let bs := bytes.map (·.toNat)
    if escapePath bs == r.rawPath then Text.ofUtf8Lossy bs else r.rawPath
  | none => r.rawPath

/-- The segments of a path after its leading `/`. -/
def segments (path : String) : List String :=
  match path.splitOn "/" with
  | "" :: rest => rest
  | all => all

end Web

end Auction
