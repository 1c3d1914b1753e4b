import Auction.Json.Basic
import Auction.Text

/-!
# Reading JSON · the grammar and the first fault

`Json.read` reads one JSON text: blanks (space, tab, line feed, carriage return) around one
value and nothing else. The reader goes through the text from left to right and stops at the
first character that cannot continue it, so a text with two faults reports the earlier one. A
text that stops in the middle of a value is `unexpectedEnd`.

A fault names the character, quoted, and where the reader stood (`Place`). A backslash in a
string must start one of the escapes `\" \\ \/ \b \f \n \r \t` or `\u` with four hexadecimal
digits; another one is reported with the bytes of the sequence read so far: the backslash and
the next byte, or for `\u` the six bytes it spans (all that is left when fewer remain and they
cannot start an escape). Escapes are decoded; a `\u` escape of a surrogate half combines with
an escape of the other half right after it, and a half without its partner stands for U+FFFD.

The value read keeps, for each of its parts, the exact text it was read from (`Parsed`): a
reader that hands a value to a decoder of its own (an amount, a time) hands on that text.
-/

namespace Auction

namespace Json

/-- Where the reader stood when it met a character it could not take. -/
inductive Place where
  | beginValue
  | beginKey
  | afterKey
  | afterMember
  | afterElement
  | afterTop
  | inString
  /-- Inside a number, also after its point or in its exponent. -/
  | inNumber
  /-- Inside the word `word`, where `expected` should have come. -/
  | inWord (word : String) (expected : Char)
  deriving DecidableEq, Repr

/-- Why a text is not JSON. -/
inductive SyntaxError where
  | unexpectedEnd
  | invalidChar (c : Char) (place : Place)
  /-- A backslash in a string that starts no escape: the bytes of the sequence. -/
  | invalidEscape (bytes : List Nat)
  deriving DecidableEq, Repr

/-- Text of a place, as the message continues after the character. -/
def Place.text : Place → String
  | .beginValue => "looking for beginning of value"
  | .beginKey => "looking for beginning of object key string"
  | .afterKey => "after object key"
  | .afterMember => "after object key:value pair"
  | .afterElement => "after array element"
  | .afterTop => "after top-level value"
  | .inString => "in string"
  | .inNumber => "in numeric literal"
  | .inWord w e => "in literal " ++ w ++ " (expecting " ++ Text.quoteChar e ++ ")"

/-- Whether the bytes of an escape sequence must be quoted to be shown: they hold a backtick,
a space, a character that is not printable or a byte that starts no character. -/
def escapeNeedsQuotes (bytes : List Nat) : Bool :=
  (Text.utf8Pieces bytes.length bytes).any fun
    | .ok c => c.toNat = 0x60 || c.toNat = 0xFFFD || Text.isSpace c || !Text.isPrintable c
    | .error _ => true

/-- The wording of a syntax error. -/
def SyntaxError.message : SyntaxError → String
  | .unexpectedEnd => "unexpected end of JSON input"
  | .invalidChar c p => "invalid character " ++ Text.quoteChar c ++ " " ++ p.text
  | .invalidEscape bs =>
    let shown :=
      if escapeNeedsQuotes bs then Text.quoteBytes bs
      else "`" ++ String.ofList ((Text.utf8Pieces bs.length bs).filterMap fun
        | .ok c => some c
        | .error _ => none) ++ "`"
    "invalid escape sequence " ++ shown ++ " in string"

/-- A JSON value as read from a text, with the text each string, array and object was read
from. -/
inductive Parsed where
  | null
  | bool (b : Bool)
  | number (literal : String)
  | str (s : String) (raw : String)
  | arr (items : List Parsed) (raw : String)
  | obj (members : List (String × Parsed)) (raw : String)
  deriving Inhabited, Repr

namespace Parsed

/-- The exact text a value was read from. -/
def raw : Parsed → String
  | .null => "null"
  | .bool b => if b then "true" else "false"
  | .number lit => lit
  | .str _ r | .arr _ r | .obj _ r => r

mutual
/-- The value without its texts. -/
def toJson : Parsed → Json
  | .null => .null
  | .bool b => .bool b
  | .number lit => .number lit
  | .str s _ => .str s
  | .arr items _ => .arr (itemsToJson items)
  | .obj members _ => .obj (membersToJson members)

/-- The elements of an array without their texts. -/
def itemsToJson : List Parsed → List Json
  | [] => []
  | x :: rest => toJson x :: itemsToJson rest

/-- The members of an object without their texts. -/
def membersToJson : List (String × Parsed) → List (String × Json)
  | [] => []
  | (k, v) :: rest => (k, toJson v) :: membersToJson rest
end

/-- The last member called `key` of an object, unless it is missing or `null`. -/
def member? (p : Parsed) (key : String) : Option Parsed :=
  match p with
  | .obj members _ =>
    match (members.reverse.find? (·.1 == key)).map (·.2) with
    | some Parsed.null => none
    | m => m
  | _ => none

/-- The elements of an array member; none for a missing member or one of another kind. -/
def items? (p : Parsed) (key : String) : Option (List Parsed) :=
  match p.member? key with
  | some (.arr items _) => some items
  | _ => none

end Parsed

/-- The blanks of the grammar. -/
def isBlank (c : Char) : Bool := c = ' ' || c = '\t' || c = '\n' || c = '\r'

/-- A position in a text: the characters left and how many were read before them. -/
structure Cursor where
  rest : List Char
  pos : Nat

/-- The cursor past the leading blanks of `cs`, read after `pos` characters. -/
def skipBlankFrom : List Char → Nat → Cursor
  | c :: rest, pos => if isBlank c then skipBlankFrom rest (pos + 1) else ⟨c :: rest, pos⟩
  | [], pos => ⟨[], pos⟩

/-- The cursor past the leading blanks. -/
def Cursor.skipBlank (cur : Cursor) : Cursor := skipBlankFrom cur.rest cur.pos

/-- The text from cursor `a` up to position `b`. -/
def Cursor.upTo (a : Cursor) (b : Nat) : String := String.ofList (a.rest.take (b - a.pos))

/-- Value of a hexadecimal digit. -/
def hexValue? (c : Char) : Option Nat :=
  if c.isDigit then some (c.toNat - '0'.toNat)
  else if 'a' ≤ c && c ≤ 'f' then some (c.toNat - 'a'.toNat + 10)
  else if 'A' ≤ c && c ≤ 'F' then some (c.toNat - 'A'.toNat + 10)
  else none

/-- The value of four hexadecimal digits. -/
def hex4? : List Char → Option Nat
  | [a, b, c, d] => do
    pure ((((← hexValue? a) * 16 + (← hexValue? b)) * 16 + (← hexValue? c)) * 16 + (← hexValue? d))
  | _ => none

/-- Whether bytes could be the start of a `\u` escape cut short by the end of the text. -/
def escapePrefix (bytes : List Nat) : Bool :=
  (bytes.zip (List.range bytes.length)).all fun (b, i) =>
    if i = 0 then b = 0x5C
    else if i = 1 then b = 0x75
    else (hexValue? (Char.ofNat b)).isSome && b < 0x80

/-- The replacement character, for a surrogate half without its partner. -/
def replacementChar : Char := Char.ofNat 0xFFFD

/-- The character of a `\u` escape at value `n`, taking the low half of a surrogate pair from
the text that follows when it is there; with the characters it used up. -/
def decodeEscape (n : Nat) (rest : List Char) : Char × Nat :=
  if 0xD800 ≤ n && n < 0xDC00 then
    match rest with
    | '\\' :: 'u' :: more =>
      match hex4? (more.take 4) with
      | some m =>
        if 0xDC00 ≤ m && m < 0xE000 then
          (Char.ofNat (0x10000 + (n - 0xD800) * 1024 + (m - 0xDC00)), 6)
        else (replacementChar, 0)
      | none => (replacementChar, 0)
    | _ => (replacementChar, 0)
  else if 0xDC00 ≤ n && n < 0xE000 then (replacementChar, 0)
  else (Char.ofNat n, 0)

/-- The character a one-letter escape stands for. -/
def simpleEscape? (c : Char) : Option Char :=
  if c = '"' then some '"'
  else if c = '\\' then some '\\'
  else if c = '/' then some '/'
  else if c = 'b' then some (Char.ofNat 8)
  else if c = 'f' then some (Char.ofNat 12)
  else if c = 'n' then some '\n'
  else if c = 'r' then some '\r'
  else if c = 't' then some '\t'
  else none

/-- Reads the body of a string after its opening quote; `acc` holds what was read, reversed. -/
def scanString : Nat → List Char → Cursor → Except SyntaxError (String × Cursor)
  | 0, _, _ => .error .unexpectedEnd
  | fuel + 1, acc, ⟨cs, pos⟩ =>
    match cs with
    | [] => .error .unexpectedEnd
    | c :: rest =>
      if c = '"' then .ok (String.ofList acc.reverse, ⟨rest, pos + 1⟩)
      else if c = '\\' then
        match rest with
        | [] => .error .unexpectedEnd
        | e :: rest' =>
          if e = 'u' then
            let bytes := (Text.utf8Bytes (cs.take 6)).take 6
            if bytes.length < 6 then
              if escapePrefix bytes then .error .unexpectedEnd else .error (.invalidEscape bytes)
            else
              match hex4? (rest'.take 4) with
              | none => .error (.invalidEscape bytes)
              | some n =>
                let after := rest'.drop 4
                let (ch, used) := decodeEscape n after
                scanString fuel (ch :: acc) ⟨after.drop used, pos + 6 + used⟩
          else
            match simpleEscape? e with
            | some ch => scanString fuel (ch :: acc) ⟨rest', pos + 2⟩
            | none => .error (.invalidEscape (0x5C :: (Text.utf8 e).take 1))
      else if c.toNat < 0x20 then .error (.invalidChar c .inString)
      else scanString fuel (c :: acc) ⟨rest, pos + 1⟩

/-- Splits off the leading digits. -/
def spanDigits (cs : List Char) : List Char × List Char :=
  (cs.takeWhile Char.isDigit, cs.dropWhile Char.isDigit)

/-- Reads the digits that must follow a point or an exponent mark. -/
def requiredDigits (place : Place) : List Char → Except SyntaxError (List Char × List Char)
  | [] => .error .unexpectedEnd
  | c :: rest =>
    if c.isDigit then .ok (spanDigits (c :: rest)) else .error (.invalidChar c place)

/-- Reads a number literal: sign, integer part without a leading zero, fraction, exponent. -/
def scanNumber (cs : List Char) : Except SyntaxError (String × List Char) := do
  let (sign, r) : List Char × List Char :=
    match cs with
    | '-' :: r => (['-'], r)
    | r => ([], r)
  let (whole, r) ← match r with
    | [] => .error .unexpectedEnd
    | '0' :: r => pure (['0'], r)
    | c :: r' => if c.isDigit then pure (spanDigits (c :: r')) else .error (.invalidChar c .inNumber)
  let (frac, r) ← match r with
    | '.' :: r => do
      let (ds, r) ← requiredDigits .inNumber r
      pure ('.' :: ds, r)
    | r => pure ([], r)
  let (expo, r) ← match r with
    | e :: r =>
      if e = 'e' || e = 'E' then
        match r with
        | s :: r' =>
          if s = '+' || s = '-' then do
            let (ds, r'') ← requiredDigits .inNumber r'
            pure (e :: s :: ds, r'')
          else do
            let (ds, r'') ← requiredDigits .inNumber (s :: r')
            pure (e :: ds, r'')
        | [] => .error .unexpectedEnd
      else pure ([], e :: r)
    | [] => pure ([], [])
  pure (String.ofList (sign ++ whole ++ frac ++ expo), r)

/-- Reads the rest of a literal word whose first letter was taken. -/
def scanWord (word : String) : List Char → List Char → Except SyntaxError (List Char)
  | [], rest => .ok rest
  | _ :: _, [] => .error .unexpectedEnd
  | w :: ws, c :: rest => if c = w then scanWord word ws rest else .error (.invalidChar c (.inWord word w))

mutual
/-- Reads one value after optional blanks. -/
def scanValue : Nat → Cursor → Except SyntaxError (Parsed × Cursor)
  | 0, _ => .error .unexpectedEnd
  | fuel + 1, cur =>
    let start := cur.skipBlank
    match start.rest with
    | [] => .error .unexpectedEnd
    | c :: rest =>
      let inner : Cursor := ⟨rest, start.pos + 1⟩
      if c = '{' then do
        let (members, r) ← scanMembers fuel [] true inner
        pure (.obj members (start.upTo r.pos), r)
      else if c = '[' then do
        let (items, r) ← scanItems fuel [] true inner
        pure (.arr items (start.upTo r.pos), r)
      else if c = '"' then do
        let (s, r) ← scanString (rest.length + 1) [] inner
        pure (.str s (start.upTo r.pos), r)
      else if c = 't' then do
        let r ← scanWord "true" ['r', 'u', 'e'] rest
        pure (.bool true, ⟨r, inner.pos + 3⟩)
      else if c = 'f' then do
        let r ← scanWord "false" ['a', 'l', 's', 'e'] rest
        pure (.bool false, ⟨r, inner.pos + 4⟩)
      else if c = 'n' then do
        let r ← scanWord "null" ['u', 'l', 'l'] rest
        pure (.null, ⟨r, inner.pos + 3⟩)
      else if c = '-' || c.isDigit then do
        let (lit, r) ← scanNumber (c :: rest)
        pure (.number lit, ⟨r, start.pos + lit.length⟩)
      else .error (.invalidChar c .beginValue)

/-- Reads array elements after `[`; `first` while no element was read. -/
def scanItems : Nat → List Parsed → Bool → Cursor → Except SyntaxError (List Parsed × Cursor)
  | 0, _, _, _ => .error .unexpectedEnd
  | fuel + 1, acc, first, cur =>
    let cur := cur.skipBlank
    match first, cur.rest with
    | true, ']' :: rest => .ok ([], ⟨rest, cur.pos + 1⟩)
    | _, _ => do
      let (v, r) ← scanValue fuel cur
      let r := r.skipBlank
      match r.rest with
      | [] => .error .unexpectedEnd
      | c :: rest =>
        if c = ',' then scanItems fuel (v :: acc) false ⟨rest, r.pos + 1⟩
        else if c = ']' then .ok ((v :: acc).reverse, ⟨rest, r.pos + 1⟩)
        else .error (.invalidChar c .afterElement)

/-- Reads object members after `{`; `first` while no member was read. -/
def scanMembers : Nat → List (String × Parsed) → Bool → Cursor →
    Except SyntaxError (List (String × Parsed) × Cursor)
  | 0, _, _, _ => .error .unexpectedEnd
  | fuel + 1, acc, first, cur =>
    let cur := cur.skipBlank
    match cur.rest with
    | [] => .error .unexpectedEnd
    | c :: rest =>
      if first && c = '}' then .ok ([], ⟨rest, cur.pos + 1⟩)
      else if c = '"' then do
        let (key, r) ← scanString (rest.length + 1) [] ⟨rest, cur.pos + 1⟩
        let r := r.skipBlank
        match r.rest with
        | [] => .error .unexpectedEnd
        | d :: more =>
          if d = ':' then do
            let (v, r) ← scanValue fuel ⟨more, r.pos + 1⟩
            let r := r.skipBlank
            match r.rest with
            | [] => .error .unexpectedEnd
            | e :: more =>
              if e = ',' then scanMembers fuel ((key, v) :: acc) false ⟨more, r.pos + 1⟩
              else if e = '}' then .ok (((key, v) :: acc).reverse, ⟨more, r.pos + 1⟩)
              else .error (.invalidChar e .afterMember)
          else .error (.invalidChar d .afterKey)
      else .error (.invalidChar c .beginKey)
end

/-- Reads a whole JSON text: one value, blanks around it, nothing else. -/
def read (text : String) : Except SyntaxError Parsed := do
  let cs := text.toList
  let (v, rest) ← scanValue (2 * cs.length + 2) ⟨cs, 0⟩
  match rest.skipBlank.rest with
  | [] => pure v
  | c :: _ => .error (.invalidChar c .afterTop)

/-- Reads a whole JSON text into a value. -/
def parse (text : String) : Except SyntaxError Json := (read text).map Parsed.toJson

/-- Reads the first JSON value of a text, after optional blanks; what follows it is left
unread, as a reader of a stream of values does. -/
def readFirst (text : String) : Except SyntaxError Parsed := do
  let cs := text.toList
  let (v, _) ← scanValue (2 * cs.length + 2) ⟨cs, 0⟩
  pure v

/-- Reads the first JSON value of a text into a value. -/
def parseFirst (text : String) : Except SyntaxError Json := (readFirst text).map Parsed.toJson

end Json

end Auction
