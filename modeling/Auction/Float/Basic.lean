/-!
# Binary floating point · 64-bit values and rounding

`Real64` is a value of the 64-bit binary floating-point format: a sign with a significand below
`2 ^ 53` scaled by a power of two from `2 ^ -1074` to `2 ^ 971`, or an infinity, or
not-a-number. A finite value is kept in canonical form: a normal value has the top bit of its
significand set, a subnormal one (and zero) has the least exponent. So two finite values are the
same number exactly when they are equal, apart from the sign of zero.

`Real64.round` gives the value nearest a nonnegative rational, ties going to the even
significand, and an infinity beyond the greatest finite value. Every value this library makes
goes through it: reading a decimal literal, converting an integer, and each arithmetic
operation, which is therefore exact before its one rounding, as the format requires.
-/

namespace Auction

/-- A 64-bit binary floating-point value. -/
inductive Real64 where
  /-- `± significand × 2 ^ exponent`, in canonical form. -/
  | finite (neg : Bool) (significand : Nat) (exponent : Int)
  /-- An infinity, negative when `neg`. -/
  | infinite (neg : Bool)
  /-- Not a number. -/
  | nan
  deriving DecidableEq, Repr, Inhabited

namespace Real64

/-- The least exponent: that of subnormal values and zero. -/
def minExponent : Int := -1074

/-- The greatest exponent of a finite value. -/
def maxExponent : Int := 971

/-- Positive zero. -/
def zero : Real64 := .finite false 0 minExponent

/-- `num / (den × 2 ^ e)` as quotient, remainder and divisor. -/
def divPow (num den : Nat) (e : Int) : Nat × Nat × Nat :=
  if e ≥ 0 then
    let d := den * Nat.pow 2 e.toNat
    (num / d, num % d, d)
  else
    let n := num * Nat.pow 2 e.natAbs
    (n / den, n % den, den)

/-- The exponent `e` that puts `num / den / 2 ^ e` in `[2 ^ 52, 2 ^ 53)`, for `num > 0`.
Since `num / den` lies strictly between `2 ^ (a - b - 1)` and `2 ^ (a - b + 1)` for the binary
logarithms `a`, `b` of `num` and `den`, the first guess is off by at most one. -/
def scaleOf (num den : Nat) : Int :=
  let guess : Int := (Nat.log2 num : Int) - (Nat.log2 den : Int) - 52
  let q := (divPow num den guess).1
  if q ≥ 9007199254740992 then guess + 1 else if q < 4503599627370496 then guess - 1 else guess

/-- The value nearest `num / den` with the sign `neg`, ties to the even significand; an
infinity when the magnitude rounds past the greatest finite value. -/
def round (neg : Bool) (num den : Nat) : Real64 :=
  if num = 0 || den = 0 then .finite neg 0 minExponent
  else
    let e := max (scaleOf num den) minExponent
    let (q, r, d) := divPow num den e
    let up := 2 * r > d || (2 * r = d && q % 2 = 1)
    let q := if up then q + 1 else q
    let (q, e) := if q = 9007199254740992 then (4503599627370496, e + 1) else (q, e)
    if e > maxExponent then .infinite neg else .finite neg q e

/-- The value of a natural number, rounded. -/
def ofNat (n : Nat) : Real64 := round false n 1

/-- The value of an integer, rounded. -/
def ofInt (n : Int) : Real64 := round (n < 0) n.natAbs 1

/-- The magnitude of a finite value as a fraction `(numerator, denominator)`. -/
def ratio (significand : Nat) (exponent : Int) : Nat × Nat :=
  if exponent ≥ 0 then (significand * Nat.pow 2 exponent.toNat, 1)
  else (significand, Nat.pow 2 exponent.natAbs)

/-- Whether a value is neither infinite nor not-a-number. -/
def isFinite : Real64 → Bool
  | .finite .. => true
  | _ => false

/-- Whether a value is a zero of either sign. -/
def isZero : Real64 → Bool
  | .finite _ 0 _ => true
  | _ => false

/-- The value with its sign flipped. -/
def neg : Real64 → Real64
  | .finite s m e => .finite (!s) m e
  | .infinite s => .infinite (!s)
  | .nan => .nan

/-- The product, rounded once. -/
def mul : Real64 → Real64 → Real64
  | .nan, _ | _, .nan => .nan
  | .infinite s, .infinite t => .infinite (s != t)
  | .infinite s, .finite t m _ | .finite t m _, .infinite s =>
    if m = 0 then .nan else .infinite (s != t)
  | .finite s m e, .finite t n f =>
    let (a, b) := ratio m e
    let (c, d) := ratio n f
    round (s != t) (a * c) (b * d)

/-- The quotient, rounded once. -/
def div : Real64 → Real64 → Real64
  | .nan, _ | _, .nan => .nan
  | .infinite _, .infinite _ => .nan
  | .infinite s, .finite t _ _ => .infinite (s != t)
  | .finite s _ _, .infinite t => .finite (s != t) 0 minExponent
  | .finite s m e, .finite t n f =>
    if n = 0 then (if m = 0 then .nan else .infinite (s != t))
    else
      let (a, b) := ratio m e
      let (c, d) := ratio n f
      round (s != t) (a * d) (b * c)

/-- The integer part of a finite value, its fraction dropped toward zero; `none` for an
infinity or not-a-number. -/
def trunc? : Real64 → Option Int
  | .finite s m e =>
    let (a, b) := ratio m e
    let t : Int := (a / b : Nat)
    some (if s then -t else t)
  | _ => none

/-- The value converted to a 64-bit signed integer: the fraction dropped, and `-2 ^ 63` for
every value out of range and for not-a-number, which is what the processor's conversion
yields. -/
def truncate (x : Real64) : Int :=
  match x.trunc? with
  | some t => if -(9223372036854775808 : Int) ≤ t && t < 9223372036854775808 then t
    else -9223372036854775808
  | none => -9223372036854775808

/-- The number of decimal digits of a natural number (one for zero). -/
def digitCount (n : Nat) : Nat := (Nat.toDigits 10 n).length

/-- The value `± mantissa × 10 ^ exp`, rounded once: zero far below the least subnormal value
and an infinity far above the greatest finite one, without building their powers. -/
def ofDecimal (neg : Bool) (mantissa : Nat) (exp : Int) : Real64 :=
  if mantissa = 0 then .finite neg 0 minExponent
  else
    let magnitude : Int := (digitCount mantissa : Int) + exp
    if magnitude > 310 then .infinite neg
    else if magnitude < -330 then .finite neg 0 minExponent
    else if exp ≥ 0 then round neg (mantissa * Nat.pow 10 exp.toNat) 1
    else round neg mantissa (Nat.pow 10 exp.natAbs)

end Real64

end Auction
