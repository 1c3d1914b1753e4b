import Auction.Book.Basic
import Auction.Json.Fields

/-!
# Books on the wire

The JSON form of bids, auto-bids, books and auction states: one member per field, in the order
of the wire schema, amounts and times as strings, and the optional members (`auto_bid_id`,
`last_bid_at`, `cancelled_at`, `closed_at`, the ids of the lead) left out when empty.

A book that was never written shows its lists as `null` (`Book.toFreshJson`); any book read
back from the ledger shows them as arrays.

The readers take the same members back (`Book.decode`); a list may name `null` in place of
an entry, which the reader reports, since such a book cannot be worked on.
-/

namespace Auction

open Json

/-- The JSON of a bid. -/
def Bid.toJson (b : Bid) : Json :=
  .obj ([("id", .str b.id), ("auction_id", .str b.auctionId), ("bidder_id", .str b.bidderId),
    ("bidder_username", .str b.bidderUsername), ("amount", ofDecimal b.amount),
    ("bid_time", ofInstant b.bidTime), ("status", .str b.status.name),
    ("is_auto_bid", .bool b.isAutoBid)] ++
    (if b.autoBidId.isEmpty then [] else [("auto_bid_id", .str b.autoBidId)]) ++
    [("version", .ofInt b.version)])

/-- The JSON of an auto-bid. -/
def AutoBid.toJson (a : AutoBid) : Json :=
  .obj ([("id", .str a.id), ("auction_id", .str a.auctionId), ("user_id", .str a.userId),
    ("username", .str a.username), ("max_amount", ofDecimal a.maxAmount),
    ("current_bid_amount", ofDecimal a.currentBidAmount), ("is_active", .bool a.isActive),
    ("created_at", ofInstant a.createdAt)] ++
    (match a.lastBidAt with | some t => [("last_bid_at", ofInstant t)] | none => []) ++
    (match a.cancelledAt with | some t => [("cancelled_at", ofInstant t)] | none => []))

/-- The JSON of a book whose lists are given as JSON. -/
def Book.jsonWith (b : Book) (bids autoBids : Json) : Json :=
  .obj ([("auction_id", .str b.auctionId), ("version", .ofInt b.version), ("bids", bids),
    ("auto_bids", autoBids)] ++
    (if b.highestBidId.isEmpty then [] else [("highest_bid_id", .str b.highestBidId)]) ++
    [("highest_amount", ofDecimal b.highestAmount)] ++
    (if b.highestBidderId.isEmpty then [] else [("highest_bidder_id", .str b.highestBidderId)]) ++
    [("closed", .bool b.closed)] ++
    (match b.closedAt with | some t => [("closed_at", ofInstant t)] | none => []) ++
    [("updated_at", ofInstant b.updatedAt)])

/-- The JSON of a stored book. -/
def Book.toJson (b : Book) : Json :=
  b.jsonWith (.arr (b.bids.map Bid.toJson)) (.arr (b.autoBids.map AutoBid.toJson))

/-- The JSON of a book that was never written: its lists are `null`. -/
def Book.toFreshJson (b : Book) : Json := b.jsonWith .null .null

/-- The JSON of an auction state. -/
def AuctionState.toJson (s : AuctionState) : Json :=
  .obj ([("auction_id", .str s.auctionId)] ++
    (if s.highestBidId.isEmpty then [] else [("highest_bid_id", .str s.highestBidId)]) ++
    [("highest_amount", ofDecimal s.highestAmount)] ++
    (if s.highestBidderId.isEmpty then [] else [("highest_bidder_id", .str s.highestBidderId)]) ++
    [("minimum_next_bid", ofDecimal s.minimumNextBid), ("bid_count", .ofNat s.bidCount),
     ("active_auto_bids", .ofNat s.activeAutoBids), ("closed", .bool s.closed),
     ("version", .ofInt s.version)])

/-! ## Reading -/

/-- A bid with every field empty. -/
def Bid.blank : Bid :=
  { id := "", auctionId := "", bidderId := "", bidderUsername := "", amount := 0,
    bidTime := Instant.zero, status := .other "", isAutoBid := false, autoBidId := "",
    version := 0 }

/-- An auto-bid with every field empty. -/
def AutoBid.blank : AutoBid :=
  { id := "", auctionId := "", userId := "", username := "", maxAmount := 0,
    currentBidAmount := 0, isActive := false, createdAt := Instant.zero, lastBidAt := none,
    cancelledAt := none }

/-- Reads a bid. -/
def Bid.reader : Bid → Reader Bid :=
  recordReader "domain.Bid"
    [.of "id" (·.id) (fun b v => { b with id := v }) (textReader "string"),
     .of "auction_id" (·.auctionId) (fun b v => { b with auctionId := v }) (textReader "string"),
     .of "bidder_id" (·.bidderId) (fun b v => { b with bidderId := v }) (textReader "string"),
     .of "bidder_username" (·.bidderUsername) (fun b v => { b with bidderUsername := v })
       (textReader "string"),
     .of "amount" (·.amount) (fun b v => { b with amount := v }) decimalReader,
     .of "bid_time" (·.bidTime) (fun b v => { b with bidTime := v }) instantReader,
     .of "status" (·.status.name) (fun b v => { b with status := BidStatus.ofName v })
       (textReader "domain.BidStatus"),
     .of "is_auto_bid" (·.isAutoBid) (fun b v => { b with isAutoBid := v }) boolReader,
     .of "auto_bid_id" (·.autoBidId) (fun b v => { b with autoBidId := v }) (textReader "string"),
     .of "version" (·.version) (fun b v => { b with version := v }) int64Reader]

/-- Reads an auto-bid. -/
def AutoBid.reader : AutoBid → Reader AutoBid :=
  recordReader "domain.AutoBid"
    [.of "id" (·.id) (fun a v => { a with id := v }) (textReader "string"),
     .of "auction_id" (·.auctionId) (fun a v => { a with auctionId := v }) (textReader "string"),
     .of "user_id" (·.userId) (fun a v => { a with userId := v }) (textReader "string"),
     .of "username" (·.username) (fun a v => { a with username := v }) (textReader "string"),
     .of "max_amount" (·.maxAmount) (fun a v => { a with maxAmount := v }) decimalReader,
     .of "current_bid_amount" (·.currentBidAmount) (fun a v => { a with currentBidAmount := v })
       decimalReader,
     .of "is_active" (·.isActive) (fun a v => { a with isActive := v }) boolReader,
     .of "created_at" (·.createdAt) (fun a v => { a with createdAt := v }) instantReader,
     .of "last_bid_at" (·.lastBidAt) (fun a v => { a with lastBidAt := v })
       (optionReader Instant.zero instantReader),
     .of "cancelled_at" (·.cancelledAt) (fun a v => { a with cancelledAt := v })
       (optionReader Instant.zero instantReader)]

/-- A book being read, with its two lists as written: a list may hold `null` where a bid or an
auto-bid should be, and a list read twice is read over the entries it already holds. -/
structure BookDraft where
  book : Book
  bids : Option (List (Option Bid)) := none
  autoBids : Option (List (Option AutoBid)) := none

/-- Reads a book. -/
def BookDraft.reader : BookDraft → Reader BookDraft :=
  let onBook {α : Type} (name : String) (get : Book → α) (set : Book → α → Book)
      (r : α → Reader α) : Json.Field BookDraft :=
    .of name (fun d => get d.book) (fun d v => { d with book := set d.book v }) r
  recordReader "domain.AuctionBook"
    [onBook "auction_id" (·.auctionId) (fun b v => { b with auctionId := v }) (textReader "string"),
     onBook "version" (·.version) (fun b v => { b with version := v }) int64Reader,
     .of "bids" (·.bids) (fun d v => { d with bids := v })
       (entriesReader "[]*domain.Bid" Bid.blank Bid.reader),
     .of "auto_bids" (·.autoBids) (fun d v => { d with autoBids := v })
       (entriesReader "[]*domain.AutoBid" AutoBid.blank AutoBid.reader),
     onBook "highest_bid_id" (·.highestBidId) (fun b v => { b with highestBidId := v })
       (textReader "string"),
     onBook "highest_amount" (·.highestAmount) (fun b v => { b with highestAmount := v })
       decimalReader,
     onBook "highest_bidder_id" (·.highestBidderId) (fun b v => { b with highestBidderId := v })
       (textReader "string"),
     onBook "closed" (·.closed) (fun b v => { b with closed := v }) boolReader,
     onBook "closed_at" (·.closedAt) (fun b v => { b with closedAt := v })
       (optionReader Instant.zero instantReader),
     onBook "updated_at" (·.updatedAt) (fun b v => { b with updatedAt := v }) instantReader]

/-- The book a draft describes, with the entries its lists name, and whether those lists name
only entries that are there. -/
def BookDraft.finish (d : BookDraft) : Book × Bool :=
  let bids := d.bids.getD []
  let autoBids := d.autoBids.getD []
  ({ d.book with bids := bids.filterMap id, autoBids := autoBids.filterMap id },
   bids.all Option.isSome && autoBids.all Option.isSome)

/-- A book with every field empty, the start of reading one. -/
def Book.blank : Book := Book.empty ""

/-- Reads a book from a parsed value, telling whether its lists name only entries that are
there. -/
def Book.decode (j : Parsed) : Except Fault (Book × Bool) :=
  (decodeParsed "AuctionBook" BookDraft.reader { book := Book.blank } j).map BookDraft.finish

end Auction
