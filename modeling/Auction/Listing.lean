import Auction.Decimal.Basic
import Auction.Time.Basic

/-!
# Listings · the auctions the house knows

A `Listing` is what the house is told of an auction: its seller, its opening hours, its status
and its reserve price. An auction takes bids at `now` when it is active, has opened
(`start ≤ now`) and has not yet closed (`now < end`).
-/

namespace Auction

/-- The status of an auction; a number outside the four known ones is kept as it is. -/
inductive ListingStatus where
  | pending
  | active
  | ended
  | cancelled
  | other (code : Int)
  deriving DecidableEq, Repr, Inhabited

namespace ListingStatus

/-- The number of a status. -/
def code : ListingStatus → Int
  | pending => 0
  | active => 1
  | ended => 2
  | cancelled => 3
  | other c => c

/-- The status of a number. -/
def ofCode (c : Int) : ListingStatus :=
  if c = 0 then pending
  else if c = 1 then active
  else if c = 2 then ended
  else if c = 3 then cancelled
  else other c

/-- The name of a status; numbers outside the four are `unknown`. -/
def name : ListingStatus → String
  | pending => "pending"
  | active => "active"
  | ended => "ended"
  | cancelled => "cancelled"
  | other _ => "unknown"

end ListingStatus

/-- An auction as the house knows it. -/
structure Listing where
  id : String
  sellerId : String
  startTime : Instant
  endTime : Instant
  status : ListingStatus
  reservePrice : Decimal
  deriving Inhabited, Repr

/-- Whether the auction takes bids at `now`. -/
def Listing.isLive (l : Listing) (now : Instant) : Bool :=
  l.status == .active && decide (l.startTime ≤ now) && decide (now < l.endTime)

end Auction
