import Auction.Text
import Auction.Decimal.Text
import Auction.Float.Text

/-!
# Number literals in configuration text

Configuration values are read the way a typed configuration reader reads them, so the number
forms here are those of integer and floating-point literals.

**Integers.** `Literal.unsigned` reads 64-bit unsigned digits, `Literal.signed` a 64-bit signed
number with an optional sign. With `prefixed`, the base comes from a prefix (`0x` hexadecimal,
`0o` octal, `0b` binary, a bare leading `0` octal) and `_` may separate digits, as in
`0x_FF` or `1_000`; without it the digits are plain decimal. A digit outside its base, or a
misplaced `_`, is a syntax error; a value past the width is a range error, reported as soon as
the digits read so far pass it.

**Floats** are 64-bit binary values (`Real64`), read by `Real64.ofLiteral?`.
-/

namespace Auction

namespace Literal

/-- The value of a digit in bases up to 36, letters in either case. -/
def digitValue (c : Char) : Option Nat :=
  if c.isDigit then some (c.toNat - 48)
  else if 'a' ≤ c.toLower && c.toLower ≤ 'z' then some (c.toLower.toNat - 87)
  else none

/-- The base a prefixed literal names, and its digits. -/
def basePrefix : List Char → Nat × List Char
  | '0' :: c :: r :: rest =>
    let l := c.toLower
    if l = 'b' then (2, r :: rest)
    else if l = 'o' then (8, r :: rest)
    else if l = 'x' then (16, r :: rest)
    else (8, c :: r :: rest)
  | '0' :: rest => (8, rest)
  | cs => (10, cs)

/-- Reads digits of `base` onto `acc`, skipping `_` when `prefixed`. -/
def digits (base : Nat) (prefixed : Bool) (acc : Nat) : List Char → IntText
  | [] => .ok acc
  | c :: rest =>
    if c = '_' && prefixed then digits base prefixed acc rest
    else
      match digitValue c with
      | some d =>
        if d ≥ base then .syntaxError
        else
          let n := acc * base + d
          if n > 18446744073709551615 then .rangeError else digits base prefixed n rest
      | none => .syntaxError

/-- Whether a character is a digit of the number proper, hexadecimal ones included for `hex`. -/
def isNumberDigit (hex : Bool) (c : Char) : Bool :=
  c.isDigit || (hex && 'a' ≤ c.toLower && c.toLower ≤ 'f')

/-- Scans the number proper; `saw` is the class of the last character: `^` the start, `0` a
digit or base prefix, `_` an underscore, `!` anything else. -/
def underscoresScan (hex : Bool) : Char → List Char → Bool
  | saw, [] => saw != '_'
  | saw, c :: rest =>
    if isNumberDigit hex c then underscoresScan hex '0' rest
    else if c = '_' then saw == '0' && underscoresScan hex '_' rest
    else if saw = '_' then false
    else underscoresScan hex '!' rest

/-- Whether every `_` of a literal stands between two digits, or between a base prefix and a
digit. -/
def underscoresPlaced (s : List Char) : Bool :=
  let body := match s with
    | '+' :: r => r
    | '-' :: r => r
    | r => r
  match body with
  | '0' :: c :: r =>
    let l := c.toLower
    if l = 'b' || l = 'o' || l = 'x' then underscoresScan (l = 'x') '0' r
    else underscoresScan false '^' body
  | _ => underscoresScan false '^' body

/-- Reads a 64-bit unsigned literal. -/
def unsigned (prefixed : Bool) (s : List Char) : IntText :=
  if s.isEmpty then .syntaxError
  else
    let (base, ds) := if prefixed then basePrefix s else (10, s)
    match digits base prefixed 0 ds with
    | .ok n =>
      if prefixed && s.contains '_' && !underscoresPlaced s then .syntaxError else .ok n
    | e => e

/-- Reads a 64-bit signed literal with an optional sign. -/
def signed (prefixed : Bool) (s : List Char) : IntText :=
  if s.isEmpty then .syntaxError
  else
    let (neg, body) : Bool × List Char :=
      match s with
      | '+' :: r => (false, r)
      | '-' :: r => (true, r)
      | r => (false, r)
    match unsigned prefixed body with
    | .ok n =>
      if !neg && n ≥ 9223372036854775808 then .rangeError
      else if neg && n > 9223372036854775808 then .rangeError
      else .ok (if neg then -(n : Int) else n)
    | e => e

end Literal

end Auction
