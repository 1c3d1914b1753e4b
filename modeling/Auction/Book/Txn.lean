import Auction.Book.Basic
import Auction.Event.Basic
import Auction.Error
import Auction.Decimal.Text

/-!
# Transactions on a book · accepting bids and emitting their events

A `Txn` is an open change of a working copy of a book at one moment `now`. It collects the
events it emits, in order, and draws their ids from a counter it shares with the caller: the
`n`-th id drawn in a run is `id-n`, and an id drawn stays drawn even when the change is
abandoned later.

`Txn.accept` is the single door into the book, for manual and synthetic bids alike. A bid
enters when its amount is positive and at least the minimum next bid over the cached lead
(`isValidBidAmount`); it is then accepted, written at the next version, and becomes the lead,
while the previous leader is marked outbid. Three events follow: placed, accepted and the new
lead with the previous one.
-/

namespace Auction

/-- An open change of a working book. -/
structure Txn where
  book : Book
  now : Instant
  /-- Events emitted so far, in order. -/
  events : List Event
  /-- How many ids were drawn so far in the run. -/
  drawn : Nat
  deriving Inhabited

/-- Computations inside a transaction; a fault keeps the ids drawn before it. -/
abbrev TxnM := ExceptT Fault (StateM Txn)

namespace Txn

/-- The id numbered `n`. -/
def idOf (n : Nat) : String := "id-" ++ toString n

/-- Draws the next id. -/
def drawId : TxnM String :=
  modifyGet fun t => (idOf (t.drawn + 1), { t with drawn := t.drawn + 1 })

/-- Emits an event with a fresh id, about the book's auction, at `now`. -/
def emit (payload : Payload) : TxnM Unit := do
  let id ← drawId
  modify fun t => { t with events := t.events ++ [⟨id, t.book.auctionId, t.now, payload⟩] }

/-- Changes the working book. -/
def modifyBook (f : Book → Book) : TxnM Unit := modify fun t => { t with book := f t.book }

/-- The event of a new lead `bid`, naming the previous lead when there was one. -/
def highestUpdated (bid : Bid) (previous : Option Bid) : Payload :=
  .highestUpdated
    { auctionId := bid.auctionId, bidId := bid.id, bidderId := bid.bidderId,
      bidderUsername := bid.bidderUsername, newHighestAmount := bid.amount,
      previousHighestAmount := previous.map (·.amount),
      previousBidderId := (previous.map (·.bidderId)).getD "", isAutoBid := bid.isAutoBid }

/-- Why a bid of amount `amount` cannot enter over a cached lead of `highest`, if it cannot. -/
def refusal (amount highest : Decimal) : Option BidError :=
  if !amount.isPos then some ⟨.bidTooLow, "amount must be positive, got " ++ amount.render⟩
  else if !isValidBidAmount amount highest then
    some ⟨.bidTooLow, "minimum next bid is " ++ (minimumNextBid highest).render ++ ", got " ++
      amount.render⟩
  else none

/-- The book after `bid` entered: the previous leader outbid, the bid accepted at the next
version, appended, and leading. -/
def entered (b : Book) (bid : Bid) (now : Instant) : Book × Bid :=
  let demoted := match b.highestIndex? with
    | some i => b.modifyBid i fun p => { p with status := .outbid }
    | none => b
  let bid := { bid with status := .accepted, version := b.version + 1 }
  ({ ({ demoted with bids := demoted.bids ++ [bid] }.setHighest (some bid)) with updatedAt := now },
    bid)

/-- Accepts a bid into the book, or refuses it with a business error. -/
def accept (bid : Bid) : TxnM Unit := do
  let t ← get
  if let some e := refusal bid.amount t.book.highestAmount then throw (.bid e)
  let previous := t.book.highestBid?
  let (book, bid) := entered t.book bid t.now
  set { t with book }
  emit (.placed
    { bidId := bid.id, auctionId := bid.auctionId, bidderId := bid.bidderId,
      bidderUsername := bid.bidderUsername, amount := bid.amount, bidTime := bid.bidTime })
  emit (.accepted
    { bidId := bid.id, auctionId := bid.auctionId, bidderId := bid.bidderId,
      amount := bid.amount })
  emit (highestUpdated bid previous)

/-- Runs a transaction from a book, a moment and the number of ids drawn so far. -/
def run {α : Type} (m : TxnM α) (book : Book) (now : Instant) (drawn : Nat) : Except Fault α × Txn :=
  (m.run).run ⟨book, now, [], drawn⟩

end Txn

/-- The event of a bid that never entered the book. -/
def rejectionEvent (id : String) (bid : Bid) (reason : String) (time : Instant) : Event :=
  ⟨id, bid.auctionId, time, .rejected
    { bidId := bid.id, auctionId := bid.auctionId, bidderId := bid.bidderId,
      amount := bid.amount, reason }⟩

end Auction
