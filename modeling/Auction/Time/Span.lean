import Auction.Time.Parse
import Auction.Float.Basic

/-!
# Reading durations

`Duration.parse` reads a signed sequence of decimal numbers, each with an optional fraction and
a unit suffix: `300ms`, `-1.5h`, `2h45m`. The units are `ns`, `us` (or `µs`, `μs`), `ms`, `s`,
`m` and `h`. A bare `0` is zero, with or without a sign.

The total must fit a signed 64-bit count of nanoseconds. Each number is read as a whole part
and a fraction: the whole part times its unit must not pass `2 ^ 63`, and neither may the
running sum; the fraction adds its share of the unit, computed in 64-bit floating point as the
digits read times the unit over their power of ten, and rounded down. A negative total may reach
`-2 ^ 63`, a positive one only `2 ^ 63 - 1`.

A refused text is reported in one of three ways: a number with no unit is "missing unit", an
unknown suffix is "unknown unit", and anything else is "invalid duration"; each message quotes
the whole text.
-/

namespace Auction

namespace Duration

/-- The length of a unit suffix in nanoseconds. -/
def unitLength : String → Option Nat
  | "ns" => some 1
  | "us" => some 1000
  | "µs" => some 1000
  | "μs" => some 1000
  | "ms" => some 1000000
  | "s" => some 1000000000
  | "m" => some 60000000000
  | "h" => some 3600000000000
  | _ => none

/-- The largest magnitude of a duration, `2 ^ 63`. -/
def bound : Nat := 9223372036854775808

/-- Leading decimal digits as a number, and the rest; none when the number passes `2 ^ 63`. -/
def leadingWhole (acc : Nat) : List Char → Option (Nat × List Char)
  | [] => some (acc, [])
  | c :: rest =>
    if c.isDigit then
      if acc > bound / 10 then none
      else
        let n := acc * 10 + (c.toNat - 48)
        if n > bound then none else leadingWhole n rest
    else some (acc, c :: rest)

/-- Leading digits after a point as a numerator over a power of ten, and the rest. Digits that
would make the numerator pass `2 ^ 63 - 1` are skipped, with their power of ten. -/
def leadingFraction (num scale : Nat) (full : Bool) : List Char → Nat × Nat × List Char
  | [] => (num, scale, [])
  | c :: rest =>
    if c.isDigit then
      if full then leadingFraction num scale true rest
      else if num > (bound - 1) / 10 then leadingFraction num scale true rest
      else
        let n := num * 10 + (c.toNat - 48)
        if n > bound then leadingFraction num scale true rest
        else leadingFraction n (scale * 10) false rest
    else (num, scale, c :: rest)

/-- The share of `unit` nanoseconds that the fraction `num / scale` adds: the fraction's digits
as a float times the unit over the scale as floats, its fraction dropped. -/
def fractionShare (num scale unit : Nat) : Nat :=
  let ratio := Real64.div (Real64.ofNat unit) (Real64.ofNat scale)
  ((Real64.mul (Real64.ofNat num) ratio).trunc?.getD 0).toNat

/-- Whether a character ends a unit: a digit or a point. -/
def endsUnit (c : Char) : Bool := c.isDigit || c = '.'

/-- The messages of a refused duration text. -/
def invalidText (orig : String) : String := "time: invalid duration " ++ quoteTimeText orig

/-- Reads the numbers of a duration onto `total`, at most `fuel` of them. -/
def readTerms (orig : String) : Nat → Nat → List Char → Except String Nat
  | _, total, [] => .ok total
  | 0, _, _ :: _ => .error (invalidText orig)
  | fuel + 1, total, c :: rest => do
    let s := c :: rest
    unless endsUnit c do throw (invalidText orig)
    let some (whole, afterWhole) := leadingWhole 0 s | throw (invalidText orig)
    let pre := afterWhole.length != s.length
    let (num, scale, afterNumber, post) : Nat × Nat × List Char × Bool :=
      match afterWhole with
      | '.' :: more =>
        let (n, sc, r) := leadingFraction 0 1 false more
        (n, sc, r, r.length != more.length)
      | r => (0, 1, r, false)
    unless pre || post do throw (invalidText orig)
    let unitChars := afterNumber.takeWhile (!endsUnit ·)
    let remaining := afterNumber.dropWhile (!endsUnit ·)
    if unitChars.isEmpty then
      throw ("time: missing unit in duration " ++ quoteTimeText orig)
    let unitText := String.ofList unitChars
    let some unit := unitLength unitText
      | throw ("time: unknown unit " ++ quoteTimeText unitText ++ " in duration " ++
          quoteTimeText orig)
    if whole > bound / unit then throw (invalidText orig)
    let v := whole * unit + (if num > 0 then fractionShare num scale unit else 0)
    if v > bound then throw (invalidText orig)
    let sum := total + v
    if sum > bound then throw (invalidText orig)
    readTerms orig fuel sum remaining

/-- Reads a duration text. -/
def parse (orig : String) : Except String Duration :=
  let (neg, body) : Bool × List Char :=
    match orig.toList with
    | '-' :: r => (true, r)
    | '+' :: r => (false, r)
    | r => (false, r)
  if body = ['0'] then .ok ⟨0⟩
  else if body.isEmpty then .error (invalidText orig)
  else do
    let total ← readTerms orig body.length 0 body
    if neg then pure ⟨-(total : Int)⟩
    else if total > bound - 1 then throw (invalidText orig)
    else pure ⟨total⟩

end Duration

end Auction
