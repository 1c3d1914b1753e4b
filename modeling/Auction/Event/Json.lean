import Auction.Event.Basic
import Auction.Json.Fields
import Auction.Text

/-!
# Events on the wire

An event travels as an envelope `{event_id, type, auction_id, occurred_at, payload}` whose
`type` names the kind of the payload. Reading an event reads the envelope first, with the
payload kept as raw JSON; the type then chooses the payload record, which is read from the raw
payload (a missing or `null` payload reads as the empty record of that kind).

The faults come in that order: a fault of the envelope, then an unknown type
(`unknown event type "<t>"`), then a fault of the payload with `decode <Type> payload:` in
front.
-/

namespace Auction

open Json

/-- The JSON of a payload. -/
def Payload.toJson : Payload → Json
  | .placed p => .obj [("bid_id", .str p.bidId), ("auction_id", .str p.auctionId),
      ("bidder_id", .str p.bidderId), ("bidder_username", .str p.bidderUsername),
      ("amount", ofDecimal p.amount), ("bid_time", ofInstant p.bidTime)]
  | .accepted p => .obj [("bid_id", .str p.bidId), ("auction_id", .str p.auctionId),
      ("bidder_id", .str p.bidderId), ("amount", ofDecimal p.amount)]
  | .rejected p => .obj [("bid_id", .str p.bidId), ("auction_id", .str p.auctionId),
      ("bidder_id", .str p.bidderId), ("amount", ofDecimal p.amount), ("reason", .str p.reason)]
  | .highestUpdated p => .obj ([("auction_id", .str p.auctionId), ("bid_id", .str p.bidId),
      ("bidder_id", .str p.bidderId), ("bidder_username", .str p.bidderUsername),
      ("new_highest_amount", ofDecimal p.newHighestAmount)] ++
      (match p.previousHighestAmount with
       | some a => [("previous_highest_amount", ofDecimal a)]
       | none => []) ++
      (if p.previousBidderId.isEmpty then [] else [("previous_bidder_id", .str p.previousBidderId)]) ++
      [("is_auto_bid", .bool p.isAutoBid)])
  | .retracted p => .obj ([("bid_id", .str p.bidId), ("auction_id", .str p.auctionId),
      ("bidder_id", .str p.bidderId), ("amount", ofDecimal p.amount), ("reason", .str p.reason),
      ("was_highest_bid", .bool p.wasHighestBid)] ++
      (if p.newHighestBidId.isEmpty then [] else [("new_highest_bid_id", .str p.newHighestBidId)]) ++
      (match p.newHighestAmount with
       | some a => [("new_highest_amount", ofDecimal a)]
       | none => []) ++
      (if p.newHighestBidderId.isEmpty then []
       else [("new_highest_bidder_id", .str p.newHighestBidderId)]))

/-- The JSON of an event. -/
def Event.toJson (e : Event) : Json :=
  .obj [("event_id", .str e.id), ("type", .str e.kind.name), ("auction_id", .str e.auctionId),
    ("occurred_at", ofInstant e.occurredAt), ("payload", e.payload.toJson)]

/-- The record name of a payload kind in the wire schema. -/
def EventKind.recordName (k : EventKind) : String := k.name ++ "DomainEvent"

/-- The wire type of a payload kind, as a decoded event reports it. -/
def EventKind.payloadType (k : EventKind) : String := "*domain." ++ k.recordName

namespace Payload

/-- Text field of a payload record. -/
def textField {α : Type} (name : String) (get : α → String) (set : α → String → α) : Json.Field α :=
  .of name get set (textReader "string")

/-- Amount field of a payload record. -/
def amountField {α : Type} (name : String) (get : α → Decimal) (set : α → Decimal → α) : Json.Field α :=
  .of name get set decimalReader

/-- Reads a `BidPlaced` payload. -/
def placedReader : BidPlaced → Reader BidPlaced :=
  recordReader "domain.BidPlacedDomainEvent"
    [textField "bid_id" (·.bidId) fun p v => { p with bidId := v },
     textField "auction_id" (·.auctionId) fun p v => { p with auctionId := v },
     textField "bidder_id" (·.bidderId) fun p v => { p with bidderId := v },
     textField "bidder_username" (·.bidderUsername) fun p v => { p with bidderUsername := v },
     amountField "amount" (·.amount) fun p v => { p with amount := v },
     .of "bid_time" (·.bidTime) (fun p v => { p with bidTime := v }) instantReader]

/-- Reads a `BidAccepted` payload. -/
def acceptedReader : BidAccepted → Reader BidAccepted :=
  recordReader "domain.BidAcceptedDomainEvent"
    [textField "bid_id" (·.bidId) fun p v => { p with bidId := v },
     textField "auction_id" (·.auctionId) fun p v => { p with auctionId := v },
     textField "bidder_id" (·.bidderId) fun p v => { p with bidderId := v },
     amountField "amount" (·.amount) fun p v => { p with amount := v }]

/-- Reads a `BidRejected` payload. -/
def rejectedReader : BidRejected → Reader BidRejected :=
  recordReader "domain.BidRejectedDomainEvent"
    [textField "bid_id" (·.bidId) fun p v => { p with bidId := v },
     textField "auction_id" (·.auctionId) fun p v => { p with auctionId := v },
     textField "bidder_id" (·.bidderId) fun p v => { p with bidderId := v },
     amountField "amount" (·.amount) fun p v => { p with amount := v },
     textField "reason" (·.reason) fun p v => { p with reason := v }]

/-- Reads a `HighestBidUpdated` payload. -/
def highestUpdatedReader : HighestBidUpdated → Reader HighestBidUpdated :=
  recordReader "domain.HighestBidUpdatedDomainEvent"
    [textField "auction_id" (·.auctionId) fun p v => { p with auctionId := v },
     textField "bid_id" (·.bidId) fun p v => { p with bidId := v },
     textField "bidder_id" (·.bidderId) fun p v => { p with bidderId := v },
     textField "bidder_username" (·.bidderUsername) fun p v => { p with bidderUsername := v },
     amountField "new_highest_amount" (·.newHighestAmount) fun p v => { p with newHighestAmount := v },
     .of "previous_highest_amount" (·.previousHighestAmount)
       (fun p v => { p with previousHighestAmount := v }) (optionReader 0 decimalReader),
     textField "previous_bidder_id" (·.previousBidderId) fun p v => { p with previousBidderId := v },
     .of "is_auto_bid" (·.isAutoBid) (fun p v => { p with isAutoBid := v }) boolReader]

/-- Reads a `BidRetracted` payload. -/
def retractedReader : BidRetracted → Reader BidRetracted :=
  recordReader "domain.BidRetractedDomainEvent"
    [textField "bid_id" (·.bidId) fun p v => { p with bidId := v },
     textField "auction_id" (·.auctionId) fun p v => { p with auctionId := v },
     textField "bidder_id" (·.bidderId) fun p v => { p with bidderId := v },
     amountField "amount" (·.amount) fun p v => { p with amount := v },
     textField "reason" (·.reason) fun p v => { p with reason := v },
     .of "was_highest_bid" (·.wasHighestBid) (fun p v => { p with wasHighestBid := v }) boolReader,
     textField "new_highest_bid_id" (·.newHighestBidId) fun p v => { p with newHighestBidId := v },
     .of "new_highest_amount" (·.newHighestAmount) (fun p v => { p with newHighestAmount := v })
       (optionReader 0 decimalReader),
     textField "new_highest_bidder_id" (·.newHighestBidderId) fun p v => { p with newHighestBidderId := v }]

/-- Reads the payload of kind `k` from a raw value. -/
def decode (k : EventKind) (j : Parsed) : Except Fault Payload :=
  let root := k.recordName
  match k with
  | .bidPlaced => (decodeParsed root placedReader {} j).map .placed
  | .bidAccepted => (decodeParsed root acceptedReader {} j).map .accepted
  | .bidRejected => (decodeParsed root rejectedReader {} j).map .rejected
  | .highestBidUpdated => (decodeParsed root highestUpdatedReader {} j).map .highestUpdated
  | .bidRetracted => (decodeParsed root retractedReader {} j).map .retracted

end Payload

/-- An envelope as read, before its payload is. -/
structure Envelope where
  id : String := ""
  type : String := ""
  auctionId : String := ""
  occurredAt : Instant := Instant.zero
  /-- The raw payload, if the member is present. -/
  payload : Option Parsed := none

/-- Reads an envelope; the payload is kept raw. -/
def Envelope.reader : Envelope → Reader Envelope :=
  recordReader "domain.envelope"
    [.of "event_id" (·.id) (fun e v => { e with id := v }) (textReader "string"),
     .of "type" (·.type) (fun e v => { e with type := v }) (textReader "domain.EventType"),
     .of "auction_id" (·.auctionId) (fun e v => { e with auctionId := v }) (textReader "string"),
     .of "occurred_at" (·.occurredAt) (fun e v => { e with occurredAt := v }) instantReader,
     .of "payload" (·.payload) (fun e v => { e with payload := v })
       (fun _ j _ => ⟨some j, none⟩)]

/-- Reads an event from a parsed value. -/
def Event.ofParsed (j : Parsed) : Except Fault Event := do
  let env ← decodeParsed "envelope" Envelope.reader {} j
  let some kind := EventKind.ofName? env.type
    | throw (.other ("unknown event type " ++ Text.quote env.type))
  let payload ← match env.payload with
    | some raw =>
      (Payload.decode kind raw).mapError (Fault.wrap ("decode " ++ kind.name ++ " payload"))
    | none => pure kind.emptyPayload
  pure ⟨env.id, env.auctionId, env.occurredAt, payload⟩

/-- Reads an event from a text. -/
def Event.ofText (text : String) : Except Fault Event :=
  match Json.read text with
  | .ok j => Event.ofParsed j
  | .error e => .error (.json e.message)

/-- The JSON of the end of an auction. -/
def AuctionFinished.toJson (f : AuctionFinished) : Json :=
  .obj [("auction_id", .str f.auctionId), ("finished_at", ofInstant f.finishedAt)]

end Auction
