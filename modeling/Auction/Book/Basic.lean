import Auction.Increment
import Auction.Time.Basic

/-!
# The auction book · every bid and auto-bid of one auction

A `Book` holds, for one auction, the bids in the order they were written, the auto-bids in the
order they were registered, and a cached figure of the lead: the id, amount and bidder of the
leading bid (`highestBidId = ""` when nobody leads, and then the amount is zero). The book is
the unit of optimistic concurrency: its `version` counts the writes.

Look-ups take the **first** entry with a given id (`findBid?`, `findAutoBid?`), and
`highestBid?` is the first bid whose id is the cached one. Updates address an entry by its
position in the list, so a book with repeated ids is changed where the look-up pointed.

`bestStanding?` re-derives a leader from the standing bids (accepted or outbid): the highest
amount wins, an earlier bid time breaks a tie, and otherwise the first in the list stays.
-/

namespace Auction

/-- The life of a bid. A stored book may carry a status outside the list; it is kept by name. -/
inductive BidStatus where
  | pending
  | accepted
  | rejected
  | outbid
  | retracted
  | other (name : String)
  deriving DecidableEq, Repr, Inhabited

namespace BidStatus

/-- The name of a status. -/
def name : BidStatus → String
  | pending => "pending"
  | accepted => "accepted"
  | rejected => "rejected"
  | outbid => "outbid"
  | retracted => "retracted"
  | other n => n

/-- The status of a name. -/
def ofName (n : String) : BidStatus :=
  match [pending, accepted, rejected, outbid, retracted].find? (·.name == n) with
  | some s => s
  | none => other n

/-- Whether a bid with this status still stands: accepted or outbid. -/
def isStanding : BidStatus → Bool
  | accepted | outbid => true
  | _ => false

end BidStatus

/-- One bid of an auction. -/
structure Bid where
  id : String
  auctionId : String
  bidderId : String
  bidderUsername : String
  amount : Decimal
  bidTime : Instant
  status : BidStatus
  isAutoBid : Bool
  /-- The auto-bid that placed it, or `""`. -/
  autoBidId : String
  /-- The version of the book the bid was written at. -/
  version : Int
  deriving Inhabited, Repr

/-- A standing instruction to bid up to `maxAmount` for a user. -/
structure AutoBid where
  id : String
  auctionId : String
  userId : String
  username : String
  maxAmount : Decimal
  /-- The amount of the last bid it placed, zero before any. -/
  currentBidAmount : Decimal
  isActive : Bool
  createdAt : Instant
  lastBidAt : Option Instant
  /-- Set once, when the auto-bid is cancelled for good. -/
  cancelledAt : Option Instant
  deriving Inhabited, Repr

/-- Whether an auto-bid was cancelled. -/
def AutoBid.isCancelled (a : AutoBid) : Bool := a.cancelledAt.isSome

/-- The bids and auto-bids of one auction with the cached figure of its lead. -/
structure Book where
  auctionId : String
  version : Int
  bids : List Bid
  autoBids : List AutoBid
  highestBidId : String
  highestAmount : Decimal
  highestBidderId : String
  closed : Bool
  closedAt : Option Instant
  updatedAt : Instant
  deriving Inhabited, Repr

/-- What clients see of a book. -/
structure AuctionState where
  auctionId : String
  highestBidId : String
  highestAmount : Decimal
  highestBidderId : String
  minimumNextBid : Decimal
  bidCount : Nat
  activeAutoBids : Nat
  closed : Bool
  version : Int
  deriving Inhabited, Repr

/-- The position of the first element satisfying `p`. -/
def firstIndex? (l : List α) (p : α → Bool) : Option Nat := l.findIdx? p

/-- Replaces the element at a position by its image under `f`. -/
def updateAt (l : List α) (i : Nat) (f : α → α) : List α :=
  match l[i]? with
  | some x => l.set i (f x)
  | none => l

namespace Book

/-- The book of an auction that was never written. -/
def empty (auctionId : String) : Book :=
  { auctionId, version := 0, bids := [], autoBids := [], highestBidId := "", highestAmount := 0,
    highestBidderId := "", closed := false, closedAt := none, updatedAt := Instant.zero }

/-- Position of the first bid with an id. -/
def bidIndex? (b : Book) (id : String) : Option Nat := firstIndex? b.bids (·.id == id)

/-- The first bid with an id. -/
def findBid? (b : Book) (id : String) : Option Bid := b.bids.find? (·.id == id)

/-- Position of the first auto-bid with an id. -/
def autoBidIndex? (b : Book) (id : String) : Option Nat := firstIndex? b.autoBids (·.id == id)

/-- The first auto-bid with an id. -/
def findAutoBid? (b : Book) (id : String) : Option AutoBid := b.autoBids.find? (·.id == id)

/-- Position of the leading bid, the first bid with the cached id. -/
def highestIndex? (b : Book) : Option Nat :=
  if b.highestBidId.isEmpty then none else b.bidIndex? b.highestBidId

/-- The leading bid. -/
def highestBid? (b : Book) : Option Bid :=
  if b.highestBidId.isEmpty then none else b.findBid? b.highestBidId

/-- Position of the first active auto-bid of a user. -/
def activeAutoBidIndexFor? (b : Book) (user : String) : Option Nat :=
  firstIndex? b.autoBids (fun a => a.userId == user && a.isActive)

/-- The first active auto-bid of a user. -/
def activeAutoBidFor? (b : Book) (user : String) : Option AutoBid :=
  b.autoBids.find? (fun a => a.userId == user && a.isActive)

/-- The active auto-bids, in book order. -/
def activeAutoBids (b : Book) : List AutoBid := b.autoBids.filter (·.isActive)

/-- Points the cached lead at a bid, or clears it. -/
def setHighest (b : Book) : Option Bid → Book
  | none => { b with highestBidId := "", highestAmount := 0, highestBidderId := "" }
  | some bid =>
    { b with highestBidId := bid.id, highestAmount := bid.amount, highestBidderId := bid.bidderId }

/-- Changes the bid at a position. -/
def modifyBid (b : Book) (i : Nat) (f : Bid → Bid) : Book := { b with bids := updateAt b.bids i f }

/-- Changes the auto-bid at a position. -/
def modifyAutoBid (b : Book) (i : Nat) (f : AutoBid → AutoBid) : Book :=
  { b with autoBids := updateAt b.autoBids i f }

/-- Whether `bid` beats the best so far: a higher amount, or the same amount placed earlier. -/
def beats (bid best : Bid) : Bool :=
  decide (best.amount < bid.amount) || (best.amount.sameValue bid.amount && decide (bid.bidTime < best.bidTime))

/-- The best standing bid and its position: highest amount, then earliest time, then first. -/
def bestStandingFrom : Nat → List Bid → Option (Nat × Bid) → Option (Nat × Bid)
  | _, [], best => best
  | i, bid :: rest, best =>
    let best' :=
      if bid.status.isStanding then
        match best with
        | none => some (i, bid)
        | some (j, b) => if beats bid b then some (i, bid) else some (j, b)
      else best
    bestStandingFrom (i + 1) rest best'

/-- The best standing bid of the book, with its position. -/
def bestStanding? (b : Book) : Option (Nat × Bid) := bestStandingFrom 0 b.bids none

/-- The minimum next bid the book advertises: zero while nobody leads. -/
def minimumNextBid (b : Book) : Decimal :=
  if b.highestBidId.isEmpty then 0 else Auction.minimumNextBid b.highestAmount

/-- What clients see of the book, with `minimumNextBid` left at zero. -/
def state (b : Book) : AuctionState :=
  { auctionId := b.auctionId, highestBidId := b.highestBidId, highestAmount := b.highestAmount,
    highestBidderId := b.highestBidderId, minimumNextBid := 0, bidCount := b.bids.length,
    activeAutoBids := b.activeAutoBids.length, closed := b.closed, version := b.version }

/-- The ids of the bids of `after` that `before` does not have, in order. -/
def newBidIds (before after : Book) : List String :=
  (after.bids.map (·.id)).filter (fun id => !(before.bids.any (·.id == id)))

/-- The ids of the auto-bids of `after` that `before` does not have, in order. -/
def newAutoBidIds (before after : Book) : List String :=
  (after.autoBids.map (·.id)).filter (fun id => !(before.autoBids.any (·.id == id)))

end Book

end Auction
