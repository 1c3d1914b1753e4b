import Auction.House.Basic
import Auction.Book.Cascade
import Auction.Service.Result

/-!
# Auto-bids · registering, pausing and cancelling proxies

An auto-bid bids for its user up to a maximum. Registering one checks, in order: the maximum is
positive, the auction takes bids, the user is not the seller; then, inside the
compare-and-swap, the book is open, the user has no other active auto-bid, and the maximum can
matter (`maxRefusal`). The new auto-bid answers the current lead at once through the cascade.

Pausing and resuming (`toggle`) and cancelling act on an auto-bid of the caller's; a cancelled
auto-bid stays cancelled, and asking for the state an auto-bid is already in writes nothing.
Resuming checks what registering checks and runs the cascade.
-/

namespace Auction

/-- A request to register an auto-bid. -/
structure AutoBidRequest where
  auctionId : String
  userId : String
  username : String
  maxAmount : Decimal
  deriving Inhabited

/-- The auto-bid a request registers, under the id `id` at `now`: active, with no bid yet. -/
def AutoBidRequest.autoBid (req : AutoBidRequest) (id : String) (now : Instant) : AutoBid :=
  { id, auctionId := req.auctionId, userId := req.userId, username := req.username,
    maxAmount := req.maxAmount, currentBidAmount := 0, isActive := true, createdAt := now,
    lastBidAt := none, cancelledAt := none }

namespace Proxy

/-- Why a maximum of `maxAmount` for `userId` cannot matter on book `b`, if it cannot: over
the user's own lead it must exceed the lead, over another bidder's lead it must reach the
minimum next bid. -/
def maxRefusal (b : Book) (userId : String) (maxAmount : Decimal) : Option BidError :=
  if b.highestBidId.isEmpty then none
  else if b.highestBidderId == userId then
    if maxAmount ≤ b.highestAmount then
      some ⟨.bidTooLow, "max amount must exceed your leading bid of " ++ b.highestAmount.render⟩
    else none
  else
    let minNext := minimumNextBid b.highestAmount
    if maxAmount < minNext then
      some ⟨.bidTooLow, "max amount must be at least " ++ minNext.render⟩
    else none

/-- The result of an auto-bid operation, read off the book. -/
def result (b : Book) (autoBidId : String) (eventCount : Nat) : AutoBidResult :=
  let ab := b.findAutoBid? autoBidId
  { autoBid := ab, highestBidId := b.highestBidId, highestAmount := b.highestAmount,
    highestBidderId := b.highestBidderId,
    isLeading := match ab with | some a => b.highestBidderId == a.userId | none => false,
    eventCount }

/-- The refusal for an active auto-bid the user already has. -/
def alreadyActive (a : AutoBid) : Fault :=
  .bid ⟨.autoBidAlreadyActive, "auto-bid " ++ a.id ++ " is already active"⟩

/-- The book change of a registration. -/
def register (req : AutoBidRequest) (autoBidId : String) (now : Instant) (book : Book) :
    HouseM (Except Fault (House.Change (List Event))) := do
  if book.closed then
    return .error (.bid ⟨.auctionNotLive, "auction " ++ req.auctionId ++ " has finished"⟩)
  if let some a := book.activeAutoBidFor? req.userId then return .error (alreadyActive a)
  if let some e := maxRefusal book req.userId req.maxAmount then return .error (.bid e)
  let book := { book with autoBids := book.autoBids ++ [req.autoBid autoBidId now], updatedAt := now }
  let (r, txn) ← House.runTxn book Cascade.resolve
  match r with
  | .error f => return .error f
  | .ok _ => return .ok (.write txn.book txn.events)

/-- The auto-bid `autoBidId` of `userId` on an open book, with its position. -/
def owned (book : Book) (autoBidId userId : String) : Except Fault (Nat × AutoBid) :=
  if book.closed then
    .error (.bid ⟨.auctionNotLive, "auction " ++ book.auctionId ++ " has finished"⟩)
  else
    match book.autoBidIndex? autoBidId, book.findAutoBid? autoBidId with
    | some i, some ab =>
      if ab.userId != userId then
        .error (.bid ⟨.retractUnauthorized, "auto-bid " ++ autoBidId ++ " belongs to another user"⟩)
      else .ok (i, ab)
    | _, _ => .error (.bid (BidError.standard .autoBidNotFound))

/-- The book change of pausing (`active` false) or resuming an auto-bid. -/
def toggle (autoBidId userId : String) (active : Bool) (now : Instant) (last : List Event)
    (book : Book) : HouseM (Except Fault (House.Change (List Event))) := do
  match owned book autoBidId userId with
  | .error f => return .error f
  | .ok (i, ab) =>
    if ab.isCancelled then
      return .error (.bid ⟨.autoBidCancelled, "auto-bid " ++ autoBidId ++ " was cancelled"⟩)
    if ab.isActive == active then return .ok (.keep last)
    if active then
      if let some a := book.activeAutoBidFor? userId then return .error (alreadyActive a)
      if let some e := maxRefusal book userId ab.maxAmount then return .error (.bid e)
    let book := { (book.modifyAutoBid i fun a => { a with isActive := active }) with updatedAt := now }
    if !active then return .ok (.write book [])
    let (r, txn) ← House.runTxn book Cascade.resolve
    match r with
    | .error f => return .error f
    | .ok _ => return .ok (.write txn.book txn.events)

/-- The book change of cancelling an auto-bid. -/
def cancel (autoBidId userId : String) (now : Instant) (book : Book) :
    HouseM (Except Fault (House.Change Unit)) := do
  match owned book autoBidId userId with
  | .error f => return .error f
  | .ok (i, ab) =>
    if ab.isCancelled then return .ok (.keep ())
    return .ok (.write
      { (book.modifyAutoBid i fun a => { a with isActive := false, cancelledAt := some now }) with
        updatedAt := now } ())

end Proxy

/-- Registers an auto-bid and lets it answer the current lead. -/
def createAutoBid (req : AutoBidRequest) : HouseM (Outcome AutoBidResult) := do
  if !req.maxAmount.isPos then
    return ⟨none, some (.bid ⟨.invalidAmount,
      "max amount must be positive, got " ++ req.maxAmount.render⟩)⟩
  let now ← House.clock
  let check ← House.liveAuction req.auctionId now
  if let some f := check.fault then return ⟨none, some f⟩
  let sellerId := (check.listing.map (·.sellerId)).getD ""
  if req.userId == sellerId then
    return ⟨none, some (.bid ⟨.selfBidding, "user " ++ req.userId ++ " is the seller"⟩)⟩
  let autoBidId ← House.drawId
  match ← House.execute req.auctionId id [] fun _ => Proxy.register req autoBidId now with
  | .error f => return ⟨none, some f⟩
  | .ok (book, events) =>
    House.publish events
    return ⟨some (Proxy.result book autoBidId events.length), none⟩

/-- Pauses or resumes an auto-bid. -/
def toggleAutoBid (autoBidId userId : String) (active : Bool) : HouseM (Outcome AutoBidResult) := do
  match ← House.findAutoBidAuction autoBidId with
  | .error f => return ⟨none, some f⟩
  | .ok auctionId =>
    let now ← House.clock
    if active then
      let check ← House.liveAuction auctionId now
      if let some f := check.fault then return ⟨none, some f⟩
    match ← House.execute auctionId id [] (Proxy.toggle autoBidId userId active now) with
    | .error f => return ⟨none, some f⟩
    | .ok (book, events) =>
      House.publish events
      return ⟨some (Proxy.result book autoBidId events.length), none⟩

/-- Cancels an auto-bid for good; the bids it placed stand. -/
def cancelAutoBid (autoBidId userId : String) : HouseM (Outcome AutoBidResult) := do
  match ← House.findAutoBidAuction autoBidId with
  | .error f => return ⟨none, some f⟩
  | .ok auctionId =>
    let now ← House.clock
    match ← House.execute auctionId id () fun _ => Proxy.cancel autoBidId userId now with
    | .error f => return ⟨none, some f⟩
    | .ok (book, ()) => return ⟨some (Proxy.result book autoBidId 0), none⟩

end Auction
