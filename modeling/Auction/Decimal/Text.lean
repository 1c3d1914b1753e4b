import Auction.Decimal.Basic

/-!
# Decimal text · reading and writing amounts

**Writing** (`Decimal.render`) is plain positional notation: never an exponent, no zero
trailing after the point, no point when the value is whole, and a minus sign only for a
negative value (so a negative zero is written `0`).

**Reading** (`Decimal.parse`) accepts an optional sign, digits with at most one point, and an
optional exponent after the first `e` or `E`. The exponent is a 32-bit signed integer, and so
is the final power of ten once the digits after the point are counted. The point is simply
removed before the digits are read, so `.5` and `5.` read as `0.5` and `5`. A refused text names
the part that failed (`ParseError`).
-/

namespace Auction

namespace Decimal

/-! ## Writing -/

/-- The decimal digits of a natural number, most significant first. -/
def digitsOf (n : Nat) : List Char := Nat.toDigits 10 n

/-- Plain positional text of the value, without trailing fractional zeros. -/
def render (d : Decimal) : String :=
  let d := normalize d.num d.scale
  let digits := digitsOf d.num.natAbs
  let body : List Char :=
    if d.scale = 0 then digits
    else if d.scale < digits.length then
      digits.take (digits.length - d.scale) ++ '.' :: digits.drop (digits.length - d.scale)
    else '0' :: '.' :: List.replicate (d.scale - digits.length) '0' ++ digits
  String.ofList (if d.num < 0 then '-' :: body else body)

instance : ToString Decimal := ⟨render⟩

/-! ## Reading -/

/-- Why a text is not a decimal. Each case keeps the text that the message quotes. -/
inductive ParseError where
  /-- The exponent, or the final power of ten, does not fit in 32 bits. -/
  | tooLong (text : String)
  /-- The text after `e` is not an integer. -/
  | exponentNotNumeric (text : String)
  /-- More than one point before the exponent. -/
  | tooManyPoints (text : String)
  /-- The digits (point removed) are not an optionally signed digit string. -/
  | notDigits (text : String)
  deriving DecidableEq, Repr

/-- The wording of a reading error. -/
def ParseError.message : ParseError → String
  | .tooLong t => s!"can't convert {t} to decimal: fractional part too long"
  | .exponentNotNumeric t => s!"can't convert {t} to decimal: exponent is not numeric"
  | .tooManyPoints t => s!"can't convert {t} to decimal: too many .s"
  | .notDigits t => s!"can't convert {t} to decimal"

/-- Outcome of reading an unsigned 32-bit exponent. -/
inductive WordScan where
  | ok (n : Nat)
  | syntaxError
  | rangeError
  deriving DecidableEq, Repr

/-- Reads digits into `acc`. A non-digit is a syntax error; passing `2 ^ 32 - 1` is a range
error at once, whatever follows. -/
def scanWord (acc : Nat) : List Char → WordScan
  | [] => .ok acc
  | c :: rest =>
    if c.isDigit then
      let n := acc * 10 + (c.toNat - '0'.toNat)
      if n > 4294967295 then .rangeError else scanWord n rest
    else .syntaxError

/-- Reads a signed 32-bit exponent: an optional sign and at least one digit. -/
def scanExponent (cs : List Char) : Except Bool Int :=
  let (neg, digits) : Bool × List Char :=
    match cs with
    | '+' :: r => (false, r)
    | '-' :: r => (true, r)
    | r => (false, r)
  if digits.isEmpty then .error false
  else
    match scanWord 0 digits with
    | .syntaxError => .error false
    | .rangeError => .error true
    | .ok n =>
      if !neg && n ≥ 2147483648 then .error true
      else if neg && n > 2147483648 then .error true
      else .ok (if neg then -(n : Int) else n)

/-- Whether a list of characters is an optionally signed, non-empty digit string. -/
def isSignedDigits (cs : List Char) : Bool :=
  let body := match cs with
    | '+' :: r => r
    | '-' :: r => r
    | r => r
  !body.isEmpty && body.all Char.isDigit

/-- The value of a list of decimal digits. -/
def digitValue (cs : List Char) : Nat :=
  cs.foldl (fun acc c => acc * 10 + (c.toNat - '0'.toNat)) 0

/-- The value of an optionally signed digit string. -/
def signedValue : List Char → Int
  | '-' :: r => -(digitValue r : Int)
  | '+' :: r => digitValue r
  | r => digitValue r

/-- The decimal `coefficient · 10 ^ exp`, in normal form. -/
def ofScientific (coefficient : Int) (exp : Int) : Decimal :=
  if 0 ≤ exp then normalize (coefficient * Int.pow 10 exp.toNat) 0
  else normalize coefficient exp.natAbs

/-- Reads a decimal, or says which part of the text failed. -/
def parse (text : String) : Except ParseError Decimal := do
  let cs := text.toList
  let (mantissa, exp) ← match cs.findIdx? (fun c => c == 'e' || c == 'E') with
    | none => pure (cs, (0 : Int))
    | some i =>
      match scanExponent (cs.drop (i + 1)) with
      | .error true => throw (.tooLong text)
      | .error false => throw (.exponentNotNumeric text)
      | .ok e => pure (cs.take i, e)
  let shown := String.ofList mantissa
  let points := mantissa.count '.'
  if points > 1 then throw (.tooManyPoints shown)
  let (digits, exp) := match mantissa.idxOf? '.' with
    | none => (mantissa, exp)
    | some p => (mantissa.take p ++ mantissa.drop (p + 1), exp - ((mantissa.length - (p + 1) : Nat) : Int))
  unless isSignedDigits digits do throw (.notDigits shown)
  if exp < -2147483648 || exp > 2147483647 then throw (.tooLong text)
  pure (ofScientific (signedValue digits) exp)

end Decimal

end Auction
