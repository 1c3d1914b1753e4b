/-!
# Exact decimals · the number type of every amount

A `Decimal` is the exact number `num / 10 ^ scale`. Amounts never round: sums are exact and
comparison is by value, so `1.50` and `1.5` are one amount.

**Normal form.** `normalize` drops the zeros that trail after the point, so a value in normal
form has `scale = 0` or a numerator that ten does not divide. Every operation that builds a new
value (`add`, `neg`, `ofInt`) returns a normal form; comparison aligns the two denominators and
so does not depend on it.
-/

namespace Auction

/-- An exact decimal: the value is `num / 10 ^ scale`. -/
structure Decimal where
  /-- Numerator over `10 ^ scale`. -/
  num : Int
  /-- Number of digits after the point. -/
  scale : Nat
  deriving DecidableEq, Inhabited, Repr

namespace Decimal

/-- Zero, in normal form. -/
def zero : Decimal := ⟨0, 0⟩

/-- An integer amount. -/
def ofInt (n : Int) : Decimal := ⟨n, 0⟩

instance (n : Nat) : OfNat Decimal n := ⟨ofInt n⟩

/-- The same value with the zeros that trail after the point removed. -/
def normalize (num : Int) : Nat → Decimal
  | 0 => ⟨num, 0⟩
  | s + 1 => if num % 10 = 0 then normalize (num / 10) s else ⟨num, s + 1⟩

/-- The numerator of `d` over the finer denominator `10 ^ s`, for `d.scale ≤ s`. -/
def numAt (d : Decimal) (s : Nat) : Int := d.num * Int.pow 10 (s - d.scale)

/-- The common scale at which two decimals are compared and added. -/
def commonScale (a b : Decimal) : Nat := max a.scale b.scale

/-- Exact sum. -/
def add (a b : Decimal) : Decimal :=
  let s := commonScale a b
  normalize (a.numAt s + b.numAt s) s

/-- Negation. -/
def neg (a : Decimal) : Decimal := normalize (-a.num) a.scale

/-- Exact difference. -/
def sub (a b : Decimal) : Decimal := add a (neg b)

instance : Add Decimal := ⟨add⟩
instance : Neg Decimal := ⟨neg⟩
instance : Sub Decimal := ⟨sub⟩

/-- Order by value: the two numerators over the common denominator. -/
def compare (a b : Decimal) : Ordering :=
  let s := commonScale a b
  Ord.compare (a.numAt s) (b.numAt s)

instance : Ord Decimal := ⟨compare⟩

/-- `a < b` by value. -/
def Lt (a b : Decimal) : Prop := a.numAt (commonScale a b) < b.numAt (commonScale a b)

/-- `a ≤ b` by value. -/
def Le (a b : Decimal) : Prop := a.numAt (commonScale a b) ≤ b.numAt (commonScale a b)

instance : LT Decimal := ⟨Lt⟩
instance : LE Decimal := ⟨Le⟩

instance (a b : Decimal) : Decidable (a < b) :=
  inferInstanceAs (Decidable (a.numAt _ < b.numAt _))

instance (a b : Decimal) : Decidable (a ≤ b) :=
  inferInstanceAs (Decidable (a.numAt _ ≤ b.numAt _))

/-- Equality by value, which for normal forms is equality of the structures. -/
def sameValue (a b : Decimal) : Bool := a.numAt (commonScale a b) == b.numAt (commonScale a b)

/-- The larger of two values; on a tie the first. -/
def max (a b : Decimal) : Decimal := if a < b then b else a

/-- The smaller of two values; on a tie the first. -/
def min (a b : Decimal) : Decimal := if b < a then b else a

/-- Whether the value is zero. -/
def isZero (a : Decimal) : Bool := a.num == 0

/-- Whether the value is above zero. -/
def isPos (a : Decimal) : Bool := decide (0 < a.num)

end Decimal

end Auction
