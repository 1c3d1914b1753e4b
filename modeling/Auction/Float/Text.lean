import Auction.Float.Basic

/-!
# Binary floating point · decimal text

**Reading.** `Real64.ofLiteral?` reads `[±](.digits | digits[.digits])[(e|E)[±]digits]` and
rounds the exact decimal it denotes once; a literal whose value is too large for the format is
refused, as a reader reports it out of range.

**Writing.** A finite value is written with the fewest significant digits that read back as the
same value (`Real64.shortest`): the digits name a number inside the value's rounding interval,
the half-way points to its neighbours, which count as inside when the significand is even. Of
the candidates with that many digits the nearest is taken. The forms differ in where the point
goes:

* `fixed`: positional, `1e21` as `1000000000000000000000`;
* `general`: positional for decimal exponents from `-4` to `5`, else `d.ddde±XX`;
* `jsonText`: positional for magnitudes from `1e-6` below `1e21`, else with an exponent of as
  few digits as it needs.

Zero keeps its sign (`-0`). An infinity is `+Inf` or `-Inf`, not-a-number `NaN`.
-/

namespace Auction

namespace Real64

/-- The decimal digits of a natural number, most significant first. -/
def digitsOf (n : Nat) : List Char := Nat.toDigits 10 n

/-- The first place `p`, counting down from `fuel`, at which a multiple of `10 ^ p` lies in the
rounding interval `low … high` of `v`; with it, the multiple nearest `v`. -/
def nearestRound (v low high : Nat) (inclusive : Bool) : Nat → Nat × Nat
  | 0 => (0, v)
  | p + 1 =>
    let step := Nat.pow 10 (p + 1)
    let below := v / step * step
    let above := below + step
    let inside (x : Nat) : Bool :=
      if inclusive then low ≤ x && x ≤ high else low < x && x < high
    match inside below, inside above with
    | true, true =>
      if v - below < above - v then (p + 1, below)
      else if above - v < v - below then (p + 1, above)
      else if (below / step) % 2 = 0 then (p + 1, below) else (p + 1, above)
    | true, false => (p + 1, below)
    | false, true => (p + 1, above)
    | false, false => nearestRound v low high inclusive p

/-- The shortest digits of the finite positive value `significand × 2 ^ exponent`, and the
place of the point: the digits `d₁…dₙ` stand for `0.d₁…dₙ × 10 ^ point`.

All three of the value and the ends of its interval are integers over one power of ten: in
units of `2 ^ (exponent - 2)` they are `4m` and `4m ± 2`, the lower gap halved where the
significand is the least of its binade. -/
def shortest (significand : Nat) (exponent : Int) : List Char × Int :=
  let e := exponent - 2
  let (unit, scale) : Nat × Nat :=
    if e ≥ 0 then (Nat.pow 2 e.toNat, 0) else (Nat.pow 5 e.natAbs, e.natAbs)
  let lowGap := if significand = 4503599627370496 && exponent > minExponent then 1 else 2
  let v := 4 * significand * unit
  let high := (4 * significand + 2) * unit
  let low := (4 * significand - lowGap) * unit
  let (p, chosen) := nearestRound v low high (significand % 2 = 0) (digitsOf high).length
  let ds := digitsOf (chosen / Nat.pow 10 p)
  let trimmed := (ds.reverse.dropWhile (· = '0')).reverse
  (trimmed, (ds.length : Int) + p - scale)

/-- `n` zeros. -/
def zeros (n : Nat) : List Char := List.replicate n '0'

/-- Positional notation of digits `0.ds × 10 ^ point`. -/
def positional (ds : List Char) (point : Int) : String :=
  if point ≤ 0 then String.ofList ('0' :: '.' :: (zeros point.natAbs ++ ds))
  else
    let p := point.toNat
    if ds.length ≤ p then String.ofList (ds ++ zeros (p - ds.length))
    else String.ofList (ds.take p ++ '.' :: ds.drop p)

/-- Scientific notation of digits `0.ds × 10 ^ point`: one digit before the point and an
exponent of at least `width` digits with its sign. -/
def scientific (width : Nat) (ds : List Char) (point : Int) : String :=
  let mantissa := match ds with
    | [] => "0"
    | [c] => String.ofList [c]
    | c :: rest => String.ofList (c :: '.' :: rest)
  let exp := point - 1
  let es := digitsOf exp.natAbs
  let es := zeros (width - es.length) ++ es
  mantissa ++ "e" ++ (if exp < 0 then "-" else "+") ++ String.ofList es

/-- Writes a value with `finite` given its sign and the shortest digits and point of a nonzero
value; zero is `0` with its sign. -/
def write (finite : List Char → Int → String) : Real64 → String
  | .finite s m e =>
    let sign := if s then "-" else ""
    if m = 0 then sign ++ "0"
    else
      let (ds, point) := shortest m e
      sign ++ finite ds point
  | .infinite s => if s then "-Inf" else "+Inf"
  | .nan => "NaN"

/-- Positional notation with the shortest digits. -/
def fixed : Real64 → String := write positional

/-- The shortest general form: positional for decimal exponents from `-4` to `5`. -/
def general : Real64 → String :=
  write fun ds point =>
    if point - 1 < -4 || point - 1 ≥ 6 then scientific 2 ds point else positional ds point

/-- The form numbers take in JSON text: positional for magnitudes from `1e-6` below `1e21`. -/
def jsonText : Real64 → String :=
  write fun ds point =>
    if point - 1 < -6 || point - 1 ≥ 21 then scientific 1 ds point else positional ds point

/-- The digits of a text, and the text after them. -/
def spanDigits (cs : List Char) : List Char × List Char :=
  (cs.takeWhile Char.isDigit, cs.dropWhile Char.isDigit)

/-- The value of a digit list. -/
def digitsValue (ds : List Char) : Nat := ds.foldl (fun a c => a * 10 + (c.toNat - 48)) 0

/-- Reads an optionally signed exponent that must use up the text. -/
def exponentOf : List Char → Option Int
  | '+' :: r => if !r.isEmpty && r.all Char.isDigit then some (digitsValue r) else none
  | '-' :: r => if !r.isEmpty && r.all Char.isDigit then some (-(digitsValue r : Int)) else none
  | r => if !r.isEmpty && r.all Char.isDigit then some (digitsValue r) else none

/-- Reads a decimal literal `[±](.digits | digits[.digits])[(e|E)[±]digits]` into its sign,
digits and decimal exponent. -/
def literalParts (s : String) : Option (Bool × Nat × Int) :=
  let (neg, body) : Bool × List Char :=
    match s.toList with
    | '+' :: r => (false, r)
    | '-' :: r => (true, r)
    | r => (false, r)
  let (whole, afterWhole) := spanDigits body
  let (frac, afterFrac, pointed) : List Char × List Char × Bool :=
    match afterWhole with
    | '.' :: r => let (f, t) := spanDigits r; (f, t, true)
    | r => ([], r, false)
  let shapeOk := if whole.isEmpty then pointed && !frac.isEmpty else true
  let exp? : Option Int :=
    match afterFrac with
    | [] => some 0
    | c :: r => if c = 'e' || c = 'E' then exponentOf r else none
  match shapeOk, exp? with
  | true, some e => some (neg, digitsValue (whole ++ frac), e - frac.length)
  | _, _ => none

/-- Reads a decimal literal, rounded once; none for any other text and for a value too large
for the format. -/
def ofLiteral? (s : String) : Option Real64 :=
  match literalParts s with
  | some (neg, m, e) =>
    let x := ofDecimal neg m e
    if x.isFinite then some x else none
  | none => none

end Real64

end Auction
