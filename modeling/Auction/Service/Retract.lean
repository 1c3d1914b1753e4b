import Auction.House.Basic
import Auction.Book.Cascade
import Auction.Service.Result

/-!
# Withdrawing a bid

A bidder may withdraw an accepted bid of theirs within the retract window. The auction of the
bid is found through the ledger index and must still take bids; inside the compare-and-swap the
book must be open, hold the bid, the bid must be the caller's, still accepted, and young
enough: a bid exactly one window old may still go.

The withdrawn bid is marked retracted, and the caller's active auto-bid is paused, since it
would bid straight back in. When the bid led, the best standing bid (`Book.bestStanding?`)
takes the lead back and is accepted again, announced as a new lead over the withdrawn one; then
the cascade runs. The `BidRetracted` event is emitted first and names the lead the cascade
settled on, when the withdrawn bid led and somebody leads afterwards.

Every refusal is returned as it is: a withdrawal publishes nothing when it fails.
-/

namespace Auction

/-- A request to withdraw a bid. -/
structure RetractRequest where
  bidId : String
  bidderId : String
  reason : String
  deriving Inhabited

namespace Withdrawal

/-- Why the bid `bid` cannot be withdrawn by `bidderId` at `now`, if it cannot. -/
def refusal (bid : Bid) (bidderId : String) (now : Instant) (window : Duration) :
    Option BidError :=
  if bid.bidderId != bidderId then
    some ⟨.retractUnauthorized, "bid " ++ bid.id ++ " belongs to another bidder"⟩
  else if bid.status != .accepted then
    some ⟨.alreadyRejected, "bid " ++ bid.id ++ " is " ++ bid.status.name⟩
  else if window < now.sub bid.bidTime then
    some ⟨.retractWindowExpired,
      "bid " ++ bid.id ++ " was placed more than " ++ window.render ++ " ago"⟩
  else none

/-- Fills in the lead a withdrawal settled on, in its event. -/
def settle (p : BidRetracted) (b : Book) : BidRetracted :=
  if p.wasHighestBid && !b.highestBidId.isEmpty then
    { p with newHighestBidId := b.highestBidId, newHighestAmount := some b.highestAmount,
             newHighestBidderId := b.highestBidderId }
  else p

/-- The book after the bid at position `i` was withdrawn at `now`: marked retracted, with the
active auto-bid of its bidder paused. -/
def withdrawn (b : Book) (i : Nat) (bidderId : String) (now : Instant) : Book :=
  let b := { (b.modifyBid i fun x => { x with status := .retracted }) with updatedAt := now }
  match b.activeAutoBidIndexFor? bidderId with
  | some j => b.modifyAutoBid j fun a => { a with isActive := false }
  | none => b

/-- Hands the lead of the withdrawn bid `bid` on: to the best standing bid, accepted again and
announced as a new lead over `bid`, or to nobody. -/
def handBack (bid : Bid) : TxnM Unit := do
  match (← get).book.bestStanding? with
  | none => Txn.modifyBook fun b => b.setHighest none
  | some (j, next) =>
    let next := { next with status := .accepted }
    Txn.modifyBook fun b => (b.modifyBid j fun _ => next).setHighest (some next)
    Txn.emit (Txn.highestUpdated next (some bid))

/-- The withdrawal of the bid at position `i` inside a transaction, for `reason`. Gives the
payload of its event. -/
def apply (i : Nat) (bid : Bid) (reason : String) : TxnM BidRetracted := do
  let t ← get
  let wasHighest := t.book.highestBidId == bid.id
  Txn.modifyBook (withdrawn · i bid.bidderId t.now)
  let payload : BidRetracted :=
    { bidId := bid.id, auctionId := bid.auctionId, bidderId := bid.bidderId,
      amount := bid.amount, reason, wasHighestBid := wasHighest }
  Txn.emit (.retracted payload)
  (if wasHighest then handBack bid else pure ())
  let _ ← Cascade.resolve
  let settled := settle payload (← get).book
  modify fun t => { t with events := t.events.map fun e =>
    match e.payload with
    | .retracted p => if p.bidId == bid.id then { e with payload := .retracted settled } else e
    | _ => e }
  pure settled

/-- The book change of a withdrawal. -/
def change (req : RetractRequest) (auctionId : String) (now : Instant) (window : Duration)
    (book : Book) : HouseM (Except Fault (House.Change (List Event × Option BidRetracted))) := do
  if book.closed then
    return .error (.bid ⟨.auctionNotLive, "auction " ++ auctionId ++ " has finished"⟩)
  match book.bidIndex? req.bidId, book.findBid? req.bidId with
  | some i, some bid =>
    if let some e := refusal bid req.bidderId now window then return .error (.bid e)
    let (r, txn) ← House.runTxn book (apply i bid req.reason)
    match r with
    | .error f => return .error f
    | .ok payload => return .ok (.write txn.book (txn.events, some payload))
  | _, _ => return .error (.bid (BidError.standard .bidNotFound))

end Withdrawal

/-- Withdraws a bid. -/
def retractBid (req : RetractRequest) : HouseM (Outcome RetractResult) := do
  match ← House.findBidAuction req.bidId with
  | .error f => return ⟨none, some f⟩
  | .ok auctionId =>
    let now ← House.clock
    let check ← House.liveAuction auctionId now
    if let some f := check.fault then return ⟨none, some f⟩
    let window := (← get).settings.retractWindow
    match ← House.execute auctionId id ([], none) fun _ =>
        Withdrawal.change req auctionId now window with
    | .error f => return ⟨none, some f⟩
    | .ok (book, events, payload) =>
      House.publish events
      let leads := !book.highestBidId.isEmpty
      return ⟨some
        { bidId := req.bidId, success := true,
          wasHighestBid := (payload.map (·.wasHighestBid)).getD false,
          newHighestBidId := if leads then book.highestBidId else "",
          newHighestAmount := if leads then some book.highestAmount else none,
          newHighestBidderId := if leads then book.highestBidderId else "" }, none⟩

end Auction
