import Auction.Json.Decode
import Auction.Decimal.Text
import Auction.Time.Parse
import Auction.Float.Text

/-!
# Amounts and times on the wire

An amount travels as a JSON string of its plain text (`Decimal.render`) and a time as a JSON
string of its RFC 3339 text in the zone it carries (`Instant.render`); a time without the strict
form has no JSON form.

Both are read from the exact text of the value, escapes left as written. An amount reader takes
any value: it drops the quotes of a string and reads the rest as a decimal, and a text it
refuses is reported with "error decoding string". A time must be a JSON string.
-/

namespace Auction

namespace Json

/-- An amount as JSON. -/
def ofDecimal (d : Decimal) : Json := .str d.render

/-- A time as JSON: its RFC 3339 text, which must have the strict form. -/
def ofInstant (t : Instant) : Json :=
  match t.strictProblem with
  | some p => .unencodable ("json: error calling MarshalJSON for type *time.Time: " ++ p)
  | none => .str t.render

/-- The text of a value with the quotes of a string of more than the two quotes dropped, its
escapes left as written. -/
def unquoted (raw : String) : String :=
  let cs := raw.toList
  if cs.length > 2 && cs.head? = some '"' && cs.getLast? = some '"' then
    String.ofList ((cs.drop 1).dropLast)
  else raw

/-- Amount fields: `null` keeps the amount; any other value is read from its exact text,
unquoted, and a text that is not a decimal is refused with "error decoding string". -/
def decimalReader (current : Decimal) : Reader Decimal := fun j _ =>
  match j with
  | .null => ⟨current, none⟩
  | _ =>
    let text := unquoted j.raw
    match Decimal.parse text with
    | .ok d => ⟨d, none⟩
    | .error e =>
      ⟨0, some (.other ("error decoding string \x27" ++ text ++ "\x27: " ++ e.message))⟩

/-- Time fields: `null` keeps the time; any other value must be a string whose text between
the quotes, escapes left as written, is an RFC 3339 time. -/
def instantReader (current : Instant) : Reader Instant := fun j _ =>
  match j with
  | .null => ⟨current, none⟩
  | .str _ raw =>
    match Instant.parse (String.ofList ((raw.toList.drop 1).dropLast)) with
    | .ok t => ⟨t, none⟩
    | .error e => ⟨current, some (.other e.message)⟩
  | _ => ⟨current, some (.other "Time.UnmarshalJSON: input is not a JSON string")⟩

mutual
/-- A value as it is after a round trip through a generic value: every number becomes the
nearest 64-bit float, written as such; a literal too large for a float is kept. -/
def floatNumbers : Json → Json
  | .number lit => .number (((Real64.ofLiteral? lit).map Real64.jsonText).getD lit)
  | .arr items => .arr (floatItems items)
  | .obj fields => .obj (floatFields fields)
  | j => j

/-- The elements of an array after a round trip through a generic value. -/
def floatItems : List Json → List Json
  | [] => []
  | x :: rest => floatNumbers x :: floatItems rest

/-- The members of an object after a round trip through a generic value. -/
def floatFields : List (String × Json) → List (String × Json)
  | [] => []
  | (k, v) :: rest => (k, floatNumbers v) :: floatFields rest
end

end Json

end Auction
