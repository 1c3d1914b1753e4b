/-!
# JSON values · the wire format of every message

A `Json` value keeps what the text said: a number is kept as its literal (so a decimal or an
integer field reads the digits it was given), and an object keeps its members in order,
duplicates included; a reader of a fixed shape takes the last member of a name.

`Json.render` writes the compact form in which fields stay in the order given. A value with no
JSON form, such as a time whose year has more than four digits, is kept as `unencodable` with
the reason encoding it fails; `Json.marshalled` turns a value holding one into the report of
that failure. A string is
escaped as the wire format of this service does it: the quote, the backslash and the control
characters, and also `<`, `>`, `&`, U+2028 and U+2029 as `\u` escapes, so that a message can be
embedded in a web page unchanged.
-/

namespace Auction

/-- A JSON value with number literals and member order kept. -/
inductive Json where
  | null
  | bool (b : Bool)
  /-- A number, as its literal text. -/
  | number (literal : String)
  | str (s : String)
  | arr (items : List Json)
  /-- An object: its members in order, duplicates included. -/
  | obj (fields : List (String × Json))
  /-- A value that has no JSON form; writing a value that holds one fails with `reason`. -/
  | unencodable (reason : String)
  deriving Inhabited, Repr

namespace Json

/-- Lower-case hexadecimal digit. -/
def hexDigit (n : Nat) : Char :=
  if n < 10 then Char.ofNat ('0'.toNat + n) else Char.ofNat ('a'.toNat + n - 10)

/-- The six-character escape `\u00XY`-style of a code point below `0x10000`. -/
def unicodeEscape (n : Nat) : List Char :=
  ['\\', 'u', hexDigit (n / 4096 % 16), hexDigit (n / 256 % 16), hexDigit (n / 16 % 16),
    hexDigit (n % 16)]

/-- How one character of a string is written between the quotes. -/
def escapeChar (c : Char) : List Char :=
  if c = '"' then ['\\', '"']
  else if c = '\\' then ['\\', '\\']
  else if c = '\n' then ['\\', 'n']
  else if c = '\r' then ['\\', 'r']
  else if c = '\t' then ['\\', 't']
  else if c.toNat = 8 then ['\\', 'b']
  else if c.toNat = 12 then ['\\', 'f']
  else if c.toNat < 0x20 || c = '<' || c = '>' || c = '&' || c.toNat = 0x2028 ||
      c.toNat = 0x2029 then unicodeEscape c.toNat
  else [c]

/-- A string in quotes, escaped. -/
def quote (s : String) : String :=
  String.ofList ('"' :: (s.toList.flatMap escapeChar ++ ['"']))

mutual
/-- Compact text of a value. -/
def render : Json → String
  | .null => "null"
  | .bool true => "true"
  | .bool false => "false"
  | .number n => n
  | .str s => quote s
  | .arr items => "[" ++ renderItems items ++ "]"
  | .obj fields => "\x7b" ++ renderFields fields ++ "\x7d"
  | .unencodable _ => "null"

/-- The elements of an array, comma separated. -/
def renderItems : List Json → String
  | [] => ""
  | [x] => render x
  | x :: rest => render x ++ "," ++ renderItems rest

/-- The members of an object, comma separated. -/
def renderFields : List (String × Json) → String
  | [] => ""
  | [(k, v)] => quote k ++ ":" ++ render v
  | (k, v) :: rest => quote k ++ ":" ++ render v ++ "," ++ renderFields rest
end

mutual
/-- How deeply arrays and objects nest in a value: 0 for a scalar. -/
def depth : Json → Nat
  | .arr items => itemsDepth items + 1
  | .obj fields => fieldsDepth fields + 1
  | _ => 0

/-- The greatest depth of the elements of an array. -/
def itemsDepth : List Json → Nat
  | [] => 0
  | x :: rest => max (depth x) (itemsDepth rest)

/-- The greatest depth of the members of an object. -/
def fieldsDepth : List (String × Json) → Nat
  | [] => 0
  | (_, v) :: rest => max (depth v) (fieldsDepth rest)
end

mutual
/-- The reason of the first part of a value, in document order, that has no JSON form. -/
def failure? : Json → Option String
  | .unencodable r => some r
  | .arr items => itemsFailure? items
  | .obj fields => fieldsFailure? fields
  | _ => none

/-- The first failure among the elements of an array. -/
def itemsFailure? : List Json → Option String
  | [] => none
  | x :: rest => (failure? x).orElse fun _ => itemsFailure? rest

/-- The first failure among the members of an object. -/
def fieldsFailure? : List (String × Json) → Option String
  | [] => none
  | (_, v) :: rest => (failure? v).orElse fun _ => fieldsFailure? rest
end

/-- A value as it is handed on after encoding: itself, or `{"marshal_error": reason}` when part
of it has no JSON form, since encoding stops at the first such part. -/
def marshalled (j : Json) : Json :=
  match j.failure? with
  | some r => .obj [("marshal_error", .str r)]
  | none => j

/-! ## Reading members -/

/-- The last member called `key`, if any. -/
def field? (j : Json) (key : String) : Option Json :=
  match j with
  | .obj fields => (fields.reverse.find? (fun p => p.1 == key)).map (·.2)
  | _ => none

/-- The text of a string member; `""` when it is absent or not a string. -/
def strField (j : Json) (key : String) : String :=
  match j.field? key with
  | some (.str s) => s
  | _ => ""

/-- The value of a boolean member; `false` when it is absent or not a boolean. -/
def boolField (j : Json) (key : String) : Bool :=
  match j.field? key with
  | some (.bool b) => b
  | _ => false

/-- Whether the member is present and not `null`. -/
def has (j : Json) (key : String) : Bool :=
  match j.field? key with
  | none | some .null => false
  | _ => true

/-- A number member built from an integer. -/
def ofInt (n : Int) : Json := .number (toString n)

/-- A number member built from a natural number. -/
def ofNat (n : Nat) : Json := .number (toString n)

/-- A string value, or `null` for `none`. -/
def ofStringOption : Option String → Json
  | some s => .str s
  | none => .null

/-- An object with the members whose value is given; `none` members are left out. -/
def objOpt (fields : List (String × Option Json)) : Json :=
  .obj (fields.filterMap fun (k, v) => v.map (k, ·))

end Json

end Auction
