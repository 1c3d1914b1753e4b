import Auction.Decimal.Basic
import Auction.Time.Basic

/-!
# Domain events · what a committed change tells the world

Every change to a book is announced by events, each in an envelope with an id, the auction and
the time it occurred. The kind of an event is the kind of its payload:

* `placed` and `accepted` for a bid entering the book, `rejected` for one that never did;
* `highestUpdated` when the lead moves, with the previous lead when there was one;
* `retracted` when a bidder withdraws a bid, with the new lead when the withdrawn bid led and
  someone leads afterwards.
-/

namespace Auction

/-- A bid was placed. -/
structure BidPlaced where
  bidId : String := ""
  auctionId : String := ""
  bidderId : String := ""
  bidderUsername : String := ""
  amount : Decimal := 0
  bidTime : Instant := Instant.zero
  deriving Inhabited, Repr

/-- A bid was accepted into the book. -/
structure BidAccepted where
  bidId : String := ""
  auctionId : String := ""
  bidderId : String := ""
  amount : Decimal := 0
  deriving Inhabited, Repr

/-- A bid was refused. -/
structure BidRejected where
  bidId : String := ""
  auctionId : String := ""
  bidderId : String := ""
  amount : Decimal := 0
  reason : String := ""
  deriving Inhabited, Repr

/-- The lead moved to a bid. -/
structure HighestBidUpdated where
  auctionId : String := ""
  bidId : String := ""
  bidderId : String := ""
  bidderUsername : String := ""
  newHighestAmount : Decimal := 0
  previousHighestAmount : Option Decimal := none
  previousBidderId : String := ""
  isAutoBid : Bool := false
  deriving Inhabited, Repr

/-- A bid was withdrawn. -/
structure BidRetracted where
  bidId : String := ""
  auctionId : String := ""
  bidderId : String := ""
  amount : Decimal := 0
  reason : String := ""
  wasHighestBid : Bool := false
  newHighestBidId : String := ""
  newHighestAmount : Option Decimal := none
  newHighestBidderId : String := ""
  deriving Inhabited, Repr

/-- The payload of an event; its constructor is the kind of the event. -/
inductive Payload where
  | placed (p : BidPlaced)
  | accepted (p : BidAccepted)
  | rejected (p : BidRejected)
  | highestUpdated (p : HighestBidUpdated)
  | retracted (p : BidRetracted)
  deriving Inhabited, Repr

/-- The kinds of event, by name. -/
inductive EventKind where
  | bidPlaced
  | bidAccepted
  | bidRejected
  | highestBidUpdated
  | bidRetracted
  deriving DecidableEq, Repr

/-- The name of a kind of event. -/
def EventKind.name : EventKind → String
  | .bidPlaced => "BidPlaced"
  | .bidAccepted => "BidAccepted"
  | .bidRejected => "BidRejected"
  | .highestBidUpdated => "HighestBidUpdated"
  | .bidRetracted => "BidRetracted"

/-- The kind of a name, if it names one. -/
def EventKind.ofName? (n : String) : Option EventKind :=
  [EventKind.bidPlaced, .bidAccepted, .bidRejected, .highestBidUpdated, .bidRetracted].find?
    (·.name == n)

/-- The kind of a payload. -/
def Payload.kind : Payload → EventKind
  | .placed _ => .bidPlaced
  | .accepted _ => .bidAccepted
  | .rejected _ => .bidRejected
  | .highestUpdated _ => .highestBidUpdated
  | .retracted _ => .bidRetracted

/-- The empty payload of a kind. -/
def EventKind.emptyPayload : EventKind → Payload
  | .bidPlaced => .placed {}
  | .bidAccepted => .accepted {}
  | .bidRejected => .rejected {}
  | .highestBidUpdated => .highestUpdated {}
  | .bidRetracted => .retracted {}

/-- An event in its envelope. -/
structure Event where
  id : String
  auctionId : String
  occurredAt : Instant
  payload : Payload
  deriving Inhabited, Repr

/-- The kind of an event. -/
def Event.kind (e : Event) : EventKind := e.payload.kind

/-- The notice that bidding on an auction closed. -/
structure AuctionFinished where
  auctionId : String := ""
  finishedAt : Instant := Instant.zero
  deriving Inhabited, Repr

end Auction
