import Auction.Unicode
/-!
# Quoted text and integer literals in messages

`quote` writes a text between double quotes the way messages quote user text: the quote and
the backslash escaped, the usual one-letter escapes for control characters, `\x` for other
control bytes and `\u` (or `\U` above the basic plane) for characters that are not printable;
everything else stays as it is.

`IntText.parse` reads a signed decimal integer of a given bit width, telling a syntax error from
a value out of range, for the messages that quote the refused text.
-/

namespace Auction

namespace Text

/-- Lower-case hexadecimal digit. -/
def hex (n : Nat) : Char := if n < 10 then Char.ofNat (48 + n) else Char.ofNat (87 + n)

/-- The `width` lower-case hexadecimal digits of `n`. -/
def hexDigits (width n : Nat) : List Char :=
  (List.range width).reverse.map fun i => hex (n / Nat.pow 16 i % 16)

/-- Whether a character is printable: a letter, mark, number, punctuation or symbol, or the
plain space. Below `0x80` these are the characters from the space to the tilde; above, the
Unicode 17.0 table decides. -/
def isPrintable (c : Char) : Bool :=
  let n := c.toNat
  if n < 0x80 then 0x20 ≤ n && n < 0x7f else Unicode.printable n

/-- Whether a character is white space: the ASCII blanks, next line, no-break spaces, the
spaces of the general punctuation block, the line and paragraph separators and the ideographic
space. -/
def isSpace (c : Char) : Bool :=
  let n := c.toNat
  n = 0x20 || (0x09 ≤ n && n ≤ 0x0d) || n = 0x85 || n = 0xa0 || n = 0x1680 ||
    (0x2000 ≤ n && n ≤ 0x200a) || n = 0x2028 || n = 0x2029 || n = 0x202f || n = 0x205f ||
    n = 0x3000

/-- How one character is written inside quotes. -/
def escape (c : Char) : List Char :=
  if c = '"' then ['\\', '"']
  else if c = '\\' then ['\\', '\\']
  else if c.toNat = 7 then ['\\', 'a']
  else if c.toNat = 8 then ['\\', 'b']
  else if c.toNat = 12 then ['\\', 'f']
  else if c = '\n' then ['\\', 'n']
  else if c = '\r' then ['\\', 'r']
  else if c = '\t' then ['\\', 't']
  else if c.toNat = 11 then ['\\', 'v']
  else if isPrintable c then [c]
  else if c.toNat < 0x20 || c.toNat = 0x7f then '\\' :: 'x' :: hexDigits 2 c.toNat
  else if c.toNat < 0x10000 then '\\' :: 'u' :: hexDigits 4 c.toNat
  else '\\' :: 'U' :: hexDigits 8 c.toNat

/-- A character in lower case: the ASCII capitals shifted, and any other character by its
simple Unicode 17.0 lower-case mapping. -/
def lowerChar (c : Char) : Char :=
  if c.toNat < 0x80 then c.toLower else Char.ofNat (Unicode.lowerOf c.toNat)

/-- A text in lower case, character by character. -/
def lower (s : String) : String := String.ofList (s.toList.map lowerChar)

/-- A text between double quotes, escaped. -/
def quote (s : String) : String := String.ofList ('"' :: s.toList.flatMap escape ++ ['"'])

/-- A character between single quotes, escaped like a character of quoted text, except that
the single quote is escaped and the double quote is not. -/
def quoteChar (c : Char) : String :=
  let body := if c = '\x27' then ['\\', '\x27'] else if c = '"' then ['"'] else escape c
  String.ofList ('\x27' :: body ++ ['\x27'])

/-- The bytes of the UTF-8 encoding of a character. -/
def utf8 (c : Char) : List Nat :=
  let n := c.toNat
  if n < 0x80 then [n]
  else if n < 0x800 then [0xC0 + n / 64, 0x80 + n % 64]
  else if n < 0x10000 then [0xE0 + n / 4096, 0x80 + n / 64 % 64, 0x80 + n % 64]
  else [0xF0 + n / 262144, 0x80 + n / 4096 % 64, 0x80 + n / 64 % 64, 0x80 + n % 64]

/-- The bytes of the UTF-8 encoding of characters. -/
def utf8Bytes (cs : List Char) : List Nat := cs.flatMap utf8

/-- The first character of UTF-8 bytes and the bytes after it; none when the bytes do not
start with the complete, shortest encoding of a character. -/
def decodeUtf8 : List Nat → Option (Char × List Nat)
  | [] => none
  | b :: rest =>
    let cont (x : Nat) : Bool := 0x80 ≤ x && x < 0xC0
    if b < 0x80 then some (Char.ofNat b, rest)
    else if 0xC2 ≤ b && b < 0xE0 then
      match rest with
      | x :: r => if cont x then some (Char.ofNat ((b - 0xC0) * 64 + (x - 0x80)), r) else none
      | [] => none
    else if 0xE0 ≤ b && b < 0xF0 then
      match rest with
      | x :: y :: r =>
        let n := (b - 0xE0) * 4096 + (x - 0x80) * 64 + (y - 0x80)
        if cont x && cont y && n ≥ 0x800 && !(0xD800 ≤ n && n < 0xE000) then
          some (Char.ofNat n, r)
        else none
      | _ => none
    else if 0xF0 ≤ b && b < 0xF5 then
      match rest with
      | x :: y :: z :: r =>
        let n := (b - 0xF0) * 262144 + (x - 0x80) * 4096 + (y - 0x80) * 64 + (z - 0x80)
        if cont x && cont y && cont z && n ≥ 0x10000 && n < 0x110000 then
          some (Char.ofNat n, r)
        else none
      | _ => none
    else none

/-- The pieces of UTF-8 bytes: each a character, or a byte that starts no character. -/
def utf8Pieces : Nat → List Nat → List (Except Nat Char)
  | 0, _ => []
  | _ + 1, [] => []
  | fuel + 1, b :: rest =>
    match decodeUtf8 (b :: rest) with
    | some (c, r) => .ok c :: utf8Pieces fuel r
    | none => .error b :: utf8Pieces fuel rest

/-- The text of UTF-8 bytes, each byte that starts no character read as U+FFFD. -/
def ofUtf8Lossy (bs : List Nat) : String :=
  String.ofList ((utf8Pieces bs.length bs).map fun
    | .ok c => c
    | .error _ => Char.ofNat 0xFFFD)

/-- The value of a character of the base64 alphabet: `A`–`Z`, `a`–`z`, `0`–`9`, `+`, `/`. -/
def base64Value (c : Char) : Option Nat :=
  if 'A' ≤ c && c ≤ 'Z' then some (c.toNat - 65)
  else if 'a' ≤ c && c ≤ 'z' then some (c.toNat - 97 + 26)
  else if c.isDigit then some (c.toNat - 48 + 52)
  else if c = '+' then some 62
  else if c = '/' then some 63
  else none

/-- Six more bits onto the bits not yet emitted, a byte emitted whenever eight have come. -/
def base64Fold (st : List Nat × Nat × Nat) (v : Nat) : List Nat × Nat × Nat :=
  let (out, acc, bits) := st
  let acc := acc * 64 + v
  if bits + 6 ≥ 8 then (acc / Nat.pow 2 (bits - 2) :: out, acc % Nat.pow 2 (bits - 2), bits - 2)
  else (out, acc, bits + 6)

/-- The bytes of padded base64 text, line breaks ignored: the characters fill whole groups of
four, the last of which may end in `=` or `==`, and the bits left over in the last group are
dropped. -/
def base64? (text : List Char) : Option (List Nat) := do
  let cs := text.filter fun c => c ≠ '\n' && c ≠ '\r'
  guard (cs.length % 4 = 0)
  let pad := (cs.reverse.takeWhile (· = '=')).length
  guard (pad ≤ 2)
  let vals ← (cs.take (cs.length - pad)).mapM base64Value
  let (out, _, _) := vals.foldl base64Fold ([], 0, 0)
  pure out.reverse

/-- Bytes between double quotes, escaped as quoted text is, each byte that starts no character
written as `\x` and its two hexadecimal digits. -/
def quoteBytes (bs : List Nat) : String :=
  let body := (utf8Pieces bs.length bs).flatMap fun
    | .ok c => escape c
    | .error b => '\\' :: 'x' :: hexDigits 2 b
  String.ofList ('"' :: body ++ ['"'])

end Text

/-- Outcome of reading an integer literal of a fixed width. -/
inductive IntText where
  | ok (n : Int)
  | syntaxError
  | rangeError
  deriving DecidableEq, Repr

namespace IntText

/-- Reads digits onto `acc`; a non-digit is a syntax error, and passing `limit` a range error at
once, whatever follows. -/
def digits (limit : Nat) (acc : Nat) : List Char → IntText
  | [] => .ok acc
  | c :: rest =>
    if c.isDigit then
      let n := acc * 10 + (c.toNat - 48)
      if n > limit then .rangeError else digits limit n rest
    else .syntaxError

/-- Reads an optionally signed decimal integer of `bits` bits. -/
def parse (bits : Nat) (s : String) : IntText :=
  let (neg, body) : Bool × List Char :=
    match s.toList with
    | '+' :: r => (false, r)
    | '-' :: r => (true, r)
    | r => (false, r)
  if body.isEmpty then .syntaxError
  else
    match digits 18446744073709551615 0 body with
    | .ok n =>
      if !neg && n ≥ Int.pow 2 (bits - 1) then .rangeError
      else if neg && n.natAbs > Nat.pow 2 (bits - 1) then .rangeError
      else .ok (if neg then -n else n)
    | other => other

/-- The message of a refused integer literal, naming the reader (`ParseInt`, `Atoi`). -/
def message (reader : String) (s : String) : IntText → String
  | .rangeError => "strconv." ++ reader ++ ": parsing " ++ Text.quote s ++ ": value out of range"
  | _ => "strconv." ++ reader ++ ": parsing " ++ Text.quote s ++ ": invalid syntax"

end IntText

end Auction
