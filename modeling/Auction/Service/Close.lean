import Auction.House.Basic

/-!
# Closing an auction and reading its state

Closing freezes the book through the compare-and-swap: the book is marked closed at the finish
time, and a book already closed is left alone, so closing twice is the same as closing once.
The status cache then records the auction as ended; a failing cache does not fail the close.

The state of an auction is read from the ledger as it stands, with the minimum next bid, which
is zero while nobody leads.
-/

namespace Auction

/-- The book closed at `closing`. -/
def Book.close (b : Book) (closing : Instant) : Book :=
  { b with closed := true, closedAt := some closing, updatedAt := closing }

/-- The book change of closing at `closing`: a book already closed is left alone. -/
def Book.closing (closing : Instant) (_ : Unit) (book : Book) :
    HouseM (Except Fault (House.Change Unit)) :=
  pure (if book.closed then .ok (.keep ()) else .ok (.write (book.close closing) ()))

/-- Closes the book of an auction at `finishedAt`, or now when that is the zero time. -/
def finishAuction (auctionId : String) (finishedAt : Instant) : HouseM (Option Fault) := do
  let now ← House.clock
  let closing := if finishedAt.isZero then now else finishedAt
  match ← House.execute auctionId id () (Book.closing closing) with
  | .error f => return some f
  | .ok _ =>
    House.markFinished auctionId
    return none

/-- The state of an auction as the ledger holds it. -/
def auctionState (auctionId : String) : HouseM (Except Fault AuctionState) := do
  match ← House.loadBook auctionId with
  | .error f => return .error f
  | .ok book => return .ok { book.state with minimumNextBid := book.minimumNextBid }

end Auction
