import Auction.Decimal.Basic

/-!
# Bid increments · the minimum raise over the current price

The table `incrementBands` cuts the prices from zero upwards into half-open bands
`[floor, next floor)`, the last one unbounded, and gives each band its increment. A price below
every floor (a negative one) gets `defaultIncrement`.

`minimumNextBid x = x + increment x` is the least amount that outbids a leader at `x`, and
`isValidBidAmount p h` is the acceptance rule: a positive `p`, and `p ≥ minimumNextBid h` unless
`h` is zero (the first bid of an auction needs no increment).
-/

namespace Auction

/-- A band of the increment table: from `floor` upwards the raise is `step`. -/
structure IncrementBand where
  /-- Least price of the band. -/
  floor : Decimal
  /-- Raise asked within the band. -/
  step : Decimal

/-- The increment table, by increasing floor. -/
def incrementBands : List IncrementBand :=
  [⟨0, 5⟩, ⟨100, 10⟩, ⟨500, 25⟩, ⟨1000, 50⟩, ⟨5000, 100⟩, ⟨10000, 250⟩, ⟨25000, 500⟩,
   ⟨50000, 1000⟩, ⟨100000, 2500⟩, ⟨250000, 5000⟩, ⟨500000, 10000⟩]

/-- The raise for prices below every band. -/
def defaultIncrement : Decimal := 10

/-- The raise of the highest band whose floor is at most `current`. -/
def increment (current : Decimal) : Decimal :=
  match incrementBands.reverse.find? (fun b => decide (b.floor ≤ current)) with
  | some b => b.step
  | none => defaultIncrement

/-- The least amount that outbids a leader at `current`. -/
def minimumNextBid (current : Decimal) : Decimal := current + increment current

/-- Whether `proposed` may be placed over a leading price `currentHigh` (zero: no leader). -/
def isValidBidAmount (proposed currentHigh : Decimal) : Bool :=
  if !proposed.isPos then false
  else if currentHigh.isZero then true
  else decide (minimumNextBid currentHigh ≤ proposed)

end Auction
