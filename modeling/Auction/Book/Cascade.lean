import Auction.Book.Txn

/-!
# The auto-bid cascade · proxies answer the lead until it settles

After a change, active auto-bids answer the current leader round by round. In a round the
auto-bids that could still raise the lead are those active ones whose maximum reaches the
minimum next bid; an auto-bid of the leader itself never answers, but its maximum counts in the
**ceiling**, the highest price anybody could still push the lead to.

The **responder** is the first of the other candidates in the order: higher maximum first, then
earlier registration, then smaller id. It bids just enough to clear every other candidate,
`max(minimum next bid, minimumNextBid ceiling)`, capped at its own maximum, through the same
door as a manual bid (`Txn.accept`). The rounds are bounded by the number of auto-bids active at
the start; a cascade that would need one more round fails with `Fault.cascadeBound`.

This settles on the English-auction price: the highest maximum wins, at the second maximum
plus one increment when it can afford that.
-/

namespace Auction

namespace Cascade

/-- Whether `a` comes before `b` among the candidates: higher maximum, then earlier
registration, then smaller id. -/
def precedes (a b : AutoBid) : Bool :=
  if !a.maxAmount.sameValue b.maxAmount then decide (b.maxAmount < a.maxAmount)
  else if a.createdAt.ns != b.createdAt.ns then decide (a.createdAt < b.createdAt)
  else decide (a.id < b.id)

/-- The first candidate in the order, with its position in the book; on a tie the one met
first stays. -/
def firstInOrder : List (Nat × AutoBid) → Option (Nat × AutoBid)
  | [] => none
  | c :: rest =>
    some (rest.foldl (fun best x => if precedes x.2 best.2 then x else best) c)

/-- The candidates that may answer a leader: active auto-bids of other users whose maximum
reaches `minNext`, with their positions in the book. -/
def candidates (b : Book) (leader : Bid) (minNext : Decimal) : List (Nat × AutoBid) :=
  (b.autoBids.zipIdx.map fun (a, i) => (i, a)).filter fun (_, a) =>
    a.isActive && decide (minNext ≤ a.maxAmount) && a.userId != leader.bidderId

/-- The leader's own reach: the lead amount and the maxima of the leader's auto-bids that
could still raise it. -/
def ownCeiling (b : Book) (leader : Bid) (minNext : Decimal) : Decimal :=
  (b.autoBids.filter fun a =>
      a.isActive && decide (minNext ≤ a.maxAmount) && a.userId == leader.bidderId).foldl
    (fun c a => c.max a.maxAmount) leader.amount

/-- The responder to a leader, with its position and the ceiling the other candidates and the
leader's own auto-bids set. -/
def selectResponder (b : Book) (leader : Bid) (minNext : Decimal) :
    Option (Nat × AutoBid × Decimal) :=
  let cs := candidates b leader minNext
  match firstInOrder cs with
  | none => none
  | some (i, r) =>
    let ceiling := (cs.filter (·.1 != i)).foldl (fun c x => c.max x.2.maxAmount)
      (ownCeiling b leader minNext)
    some (i, r, ceiling)

/-- The amount a responder bids: enough to clear the ceiling, at least the minimum next bid,
at most its maximum. -/
def answerAmount (minNext ceiling maxAmount : Decimal) : Decimal :=
  (minNext.max (minimumNextBid ceiling)).min maxAmount

/-- The bid the auto-bid `r` places for its user: `amount` under the id `id` at `now`. -/
def bidFor (r : AutoBid) (auctionId id : String) (amount : Decimal) (now : Instant) : Bid :=
  { id, auctionId, bidderId := r.userId, bidderUsername := r.username, amount, bidTime := now,
    status := .pending, isAutoBid := true, autoBidId := r.id, version := 0 }

/-- The auto-bid after it placed a bid of `amount` at `now`. -/
def recordBid (a : AutoBid) (amount : Decimal) (now : Instant) : AutoBid :=
  { a with currentBidAmount := amount, lastBidAt := some now }

/-- The rounds of the cascade after `rounds` rounds, with `fuel` rounds left to try. -/
def rounds (bound : Nat) : Nat → Nat → TxnM Nat
  | 0, done => pure done
  | fuel + 1, done => do
    let t ← get
    match t.book.highestBid? with
    | none => pure done
    | some leader =>
      let minNext := minimumNextBid leader.amount
      match selectResponder t.book leader minNext with
      | none => pure done
      | some (i, responder, ceiling) =>
        if done ≥ bound then throw (.cascadeBound t.book.auctionId done responder.id)
        let amount := answerAmount minNext ceiling responder.maxAmount
        let id ← Txn.drawId
        tryCatch (Txn.accept (bidFor responder t.book.auctionId id amount t.now)) fun e =>
          throw (.wrap ("auto-bid " ++ responder.id ++ " at " ++ amount.render) e)
        Txn.modifyBook fun b => b.modifyAutoBid i (recordBid · amount t.now)
        rounds bound fuel (done + 1)

/-- Runs the cascade on the working book and returns the number of synthetic bids placed. -/
def resolve : TxnM Nat := do
  let bound := (← get).book.activeAutoBids.length
  rounds bound (bound + 1) 0

end Cascade

end Auction
