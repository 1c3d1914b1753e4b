import Auction.Config.Datum
import Auction.Config.Literal
import Auction.Config.Timestamp

/-!
# YAML scalars: tags and resolution

A scalar's value is found from its text and its tag (`resolve`).

**Tags.** A tag of the YAML namespace, `tag:yaml.org,2002:name`, is written short as `!!name`
(`shortTag`). The tags of the core schema are resolved by form: none, `!!str`, `!!bool`,
`!!int`, `!!float`, `!!null` and `!!timestamp`. Any other tag keeps the scalar as text.

**Forms.** The first character decides what a scalar may be:

* `~`, `null`, `Null`, `NULL` and the empty text are null; `true` and `false` in three cases
  are booleans; `.nan`, `.inf`, `+.inf` and `-.inf` in three cases are floats;
* a text starting with `.` is a float when it reads as one, `_` allowed between digits;
* a text starting with a digit or a sign is, in this order: a timestamp (only untagged or tagged
  `!!timestamp`); after dropping every `_`, a signed or unsigned 64-bit integer with an optional
  base prefix; a decimal float; a `0b` or `0o` number whose digits may carry a sign after the
  prefix (`0b-101` is -5), or a `-0b` or `-0o` one;
* anything else is text.

**Tags insist.** A scalar tagged with a core schema tag must resolve to that tag, except that an
integer also stands for a float. A mismatch is the error
``cannot decode !!found `text` as a !!wanted``.
-/

namespace Auction

namespace Yaml

/-- The prefix of the tags of the YAML namespace. -/
def tagNamespace : String := "tag:yaml.org,2002:"

/-- The short form of a tag: `!!name` for a tag of the YAML namespace, any other unchanged. -/
def shortTag (tag : String) : String :=
  if tagNamespace.toList.isPrefixOf tag.toList then
    "!!" ++ String.ofList (tag.toList.drop tagNamespace.length)
  else tag

/-- Whether a scalar under a tag is resolved by its form. -/
def resolvableTag (tag : String) : Bool :=
  ["", "!!str", "!!bool", "!!int", "!!float", "!!null", "!!timestamp"].contains tag

/-- The scalars that resolve as words, with their tags and values. -/
def resolveWords : List (String × String × Datum) :=
  [("true", "!!bool", .bool true), ("True", "!!bool", .bool true), ("TRUE", "!!bool", .bool true),
   ("false", "!!bool", .bool false), ("False", "!!bool", .bool false),
   ("FALSE", "!!bool", .bool false),
   ("", "!!null", .null), ("~", "!!null", .null), ("null", "!!null", .null),
   ("Null", "!!null", .null), ("NULL", "!!null", .null),
   (".nan", "!!float", .float .nan), (".NaN", "!!float", .float .nan),
   (".NAN", "!!float", .float .nan),
   (".inf", "!!float", .float (.infinite false)), (".Inf", "!!float", .float (.infinite false)),
   (".INF", "!!float", .float (.infinite false)),
   ("+.inf", "!!float", .float (.infinite false)), ("+.Inf", "!!float", .float (.infinite false)),
   ("+.INF", "!!float", .float (.infinite false)),
   ("-.inf", "!!float", .float (.infinite true)), ("-.Inf", "!!float", .float (.infinite true)),
   ("-.INF", "!!float", .float (.infinite true))]

/-- What the first character of a scalar allows it to be: `S` a sign, `D` a digit, `M` a word,
`.` a float or a word, `N` nothing written; `none` only text. -/
def hintOf (text : String) : Option Char :=
  match text.toList with
  | [] => some 'N'
  | c :: _ =>
    if c = '+' || c = '-' then some 'S'
    else if c.isDigit then some 'D'
    else if "yYnNtTfFoO~".toList.contains c then some 'M'
    else if c = '.' then some '.'
    else none

/-- A float literal, `_` allowed between digits. -/
def floatOf (s : List Char) : Option Real64 :=
  if s.contains '_' then
    if Literal.underscoresPlaced s then Real64.ofLiteral? (String.ofList (s.filter (· ≠ '_')))
    else none
  else Real64.ofLiteral? (String.ofList s)

/-- A signed 64-bit integer in a given base, with an optional sign and no prefix. -/
def signedIn (base : Nat) (s : List Char) : Option Int :=
  let (neg, body) : Bool × List Char :=
    match s with
    | '+' :: r => (false, r)
    | '-' :: r => (true, r)
    | r => (false, r)
  if body.isEmpty then none
  else
    match Literal.digits base false 0 body with
    | .ok n =>
      if !neg && n ≥ 9223372036854775808 then none
      else if neg && n > 9223372036854775808 then none
      else some (if neg then -n else n)
    | _ => none

/-- An unsigned 64-bit integer in a given base, with no sign and no prefix. -/
def unsignedIn (base : Nat) (s : List Char) : Option Nat :=
  if s.isEmpty then none
  else
    match Literal.digits base false 0 s with
    | .ok n => some n.toNat
    | _ => none

/-- A number written with a base prefix whose digits may carry a sign: `0b` or `0o` (the
digits may be unsigned past the signed range), or `-0b` or `-0o`. -/
def prefixedNumber (plain : List Char) : Option Datum :=
  let tryBase (base : Nat) : Option Datum :=
    match plain with
    | '0' :: _ :: ds =>
      match signedIn base ds with
      | some n => some (.int n)
      | none => (unsignedIn base ds).map Datum.uint
    | _ => none
  let tryNegative (base : Nat) : Option Datum :=
    (signedIn base ('-' :: plain.drop 3)).map Datum.int
  let binary :=
    if plain.take 2 = ['0', 'b'] then tryBase 2
    else if plain.take 3 = ['-', '0', 'b'] then tryNegative 2
    else none
  match binary with
  | some d => some d
  | none =>
    if plain.take 2 = ['0', 'o'] then tryBase 8
    else if plain.take 3 = ['-', '0', 'o'] then tryNegative 8
    else none

/-- The tag and value of a scalar by its form, under a tag that is resolved by form. -/
def resolveForm (tag text : String) : String × Datum :=
  match hintOf text with
  | none => ("!!str", .str text)
  | some hint =>
    if tag = "!!str" then ("!!str", .str text)
    else
      match resolveWords.lookup text with
      | some (t, d) => (t, d)
      | none =>
        if hint = '.' then
          match floatOf text.toList with
          | some x => ("!!float", .float x)
          | none => ("!!str", .str text)
        else if hint = 'D' || hint = 'S' then
          let stamp := if tag = "" || tag = "!!timestamp" then Timestamp.parse text else none
          match stamp with
          | some i => ("!!timestamp", .stamp "time.Time" i.describe)
          | none =>
            let plain := text.toList.filter (· ≠ '_')
            match Literal.signed true plain with
            | .ok n => ("!!int", .int n)
            | _ =>
              match Literal.unsigned true plain with
              | .ok n => ("!!int", .uint n.toNat)
              | _ =>
                match Real64.ofLiteral? (String.ofList plain) with
                | some x => ("!!float", .float x)
                | none =>
                  match prefixedNumber plain with
                  | some d => ("!!int", d)
                  | none => ("!!str", .str text)
        else ("!!str", .str text)

/-- The tag and value of a scalar under its tag: resolved by form under a core schema tag,
which the result must carry (an integer may stand for a float); text under any other tag. -/
def resolve (tag text : String) : Except String (String × Datum) :=
  let tag := shortTag tag
  if !resolvableTag tag then .ok (tag, .str text)
  else
    let (found, d) := resolveForm tag text
    if tag = "" || tag = found || tag = "!!str" then .ok (found, d)
    else
      match tag, d with
      | "!!float", .int n => .ok ("!!float", .float (Real64.ofInt n))
      | _, _ =>
        .error ("cannot decode " ++ shortTag found ++ " `" ++ text ++ "` as a " ++ shortTag tag)

/-- The tag a scalar resolves to by its form alone. -/
def resolvedTag (text : String) : String :=
  match resolve "" text with
  | .ok (t, _) => t
  | .error _ => "!!str"

end Yaml

end Auction
