import Auction.Book.Json
import Auction.Error

/-!
# Results of the bidding operations

What a caller sees after an operation settled: a `BidResult` for a placement (accepted, outbid
by the cascade, or rejected), a `RetractResult` for a withdrawal, and an `AutoBidResult` for the
auto-bid operations. Each has its JSON form; a `BidResult` can also be read back from JSON,
since stored outcomes are replayed.

`Outcome` pairs an optional result with an optional fault: a rejected placement has both.
-/

namespace Auction

open Json

/-- What a placement settled to. -/
structure BidResult where
  bidId : String
  auctionId : String
  status : BidStatus
  amount : Decimal
  minimumNextBid : Decimal
  isLeading : Bool
  highestAmount : Decimal
  highestBidderId : String
  reserveMet : Bool
  /-- The code of the refusal, or `""`. -/
  errorCode : String
  message : String
  deriving Inhabited, Repr

/-- What a withdrawal settled to. -/
structure RetractResult where
  bidId : String
  success : Bool
  wasHighestBid : Bool
  newHighestBidId : String
  newHighestAmount : Option Decimal
  newHighestBidderId : String
  deriving Inhabited, Repr

/-- What an auto-bid operation settled to. -/
structure AutoBidResult where
  autoBid : Option AutoBid
  highestBidId : String
  highestAmount : Decimal
  highestBidderId : String
  isLeading : Bool
  eventCount : Nat
  deriving Inhabited, Repr

/-- An optional result with an optional fault. -/
structure Outcome (α : Type) where
  result : Option α
  fault : Option Fault
  deriving Inhabited

/-- The JSON of a placement result. -/
def BidResult.toJson (r : BidResult) : Json :=
  .obj ([("bid_id", .str r.bidId), ("auction_id", .str r.auctionId), ("status", .str r.status.name),
    ("amount", ofDecimal r.amount), ("minimum_next_bid", ofDecimal r.minimumNextBid),
    ("is_leading", .bool r.isLeading), ("highest_amount", ofDecimal r.highestAmount)] ++
    (if r.highestBidderId.isEmpty then [] else [("highest_bidder_id", .str r.highestBidderId)]) ++
    [("reserve_met", .bool r.reserveMet)] ++
    (if r.errorCode.isEmpty then [] else [("error_code", .str r.errorCode)]) ++
    (if r.message.isEmpty then [] else [("message", .str r.message)]))

/-- The JSON of a withdrawal result. -/
def RetractResult.toJson (r : RetractResult) : Json :=
  .obj ([("bid_id", .str r.bidId), ("success", .bool r.success),
    ("was_highest_bid", .bool r.wasHighestBid)] ++
    (if r.newHighestBidId.isEmpty then [] else [("new_highest_bid_id", .str r.newHighestBidId)]) ++
    (match r.newHighestAmount with | some a => [("new_highest_amount", ofDecimal a)] | none => []) ++
    (if r.newHighestBidderId.isEmpty then []
     else [("new_highest_bidder_id", .str r.newHighestBidderId)]))

/-- The JSON of an auto-bid result. -/
def AutoBidResult.toJson (r : AutoBidResult) : Json :=
  .obj [("auto_bid", match r.autoBid with | some a => a.toJson | none => .null),
    ("highest_bid_id", .str r.highestBidId), ("highest_amount", ofDecimal r.highestAmount),
    ("highest_bidder_id", .str r.highestBidderId), ("is_leading", .bool r.isLeading),
    ("event_count", .ofNat r.eventCount)]

/-- A placement result with every field empty. -/
def BidResult.blank : BidResult :=
  { bidId := "", auctionId := "", status := .other "", amount := 0, minimumNextBid := 0,
    isLeading := false, highestAmount := 0, highestBidderId := "", reserveMet := false,
    errorCode := "", message := "" }

/-- Reads a placement result. -/
def BidResult.reader : BidResult → Reader BidResult :=
  recordReader "domain.BidResult"
    [.of "bid_id" (·.bidId) (fun r v => { r with bidId := v }) (textReader "string"),
     .of "auction_id" (·.auctionId) (fun r v => { r with auctionId := v }) (textReader "string"),
     .of "status" (·.status.name) (fun r v => { r with status := BidStatus.ofName v })
       (textReader "domain.BidStatus"),
     .of "amount" (·.amount) (fun r v => { r with amount := v }) decimalReader,
     .of "minimum_next_bid" (·.minimumNextBid) (fun r v => { r with minimumNextBid := v })
       decimalReader,
     .of "is_leading" (·.isLeading) (fun r v => { r with isLeading := v }) boolReader,
     .of "highest_amount" (·.highestAmount) (fun r v => { r with highestAmount := v })
       decimalReader,
     .of "highest_bidder_id" (·.highestBidderId) (fun r v => { r with highestBidderId := v })
       (textReader "string"),
     .of "reserve_met" (·.reserveMet) (fun r v => { r with reserveMet := v }) boolReader,
     .of "error_code" (·.errorCode) (fun r v => { r with errorCode := v })
       (textReader "domain.ErrorCode"),
     .of "message" (·.message) (fun r v => { r with message := v }) (textReader "string")]

end Auction
