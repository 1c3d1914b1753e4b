import Auction.House.Basic
import Auction.Event.Json
import Auction.Increment

/-!
# The live feed · snapshots and messages to watchers

The feed keeps a snapshot of each auction it was asked about, so a new watcher gets the
current price without a trip to the ledger. A snapshot is loaded once; after that only the
events the feed is handed keep it up to date: a placed bid counts one more bid, a new lead moves
the lead and the minimum next bid, and a withdrawal of the lead moves the lead to what the
withdrawal names (or clears it). The end of an auction drops its snapshot.

Each event becomes messages: a new lead is announced to the auction's watchers as `bid_update`,
and the previous leader, when somebody else now leads, is told `outbid` wherever they watch; a
withdrawal is announced as `bid_retracted`. The end of an auction is announced as
`auction_ended`, and then its watchers are closed and disconnected.
-/

namespace Auction

namespace Feed

/-- The snapshot of an auction: the cached one, or the ledger's state, which is then cached. -/
def snapshot (auctionId : String) : HouseM (Except Fault AuctionState) := do
  match (← get).snapshots.find? auctionId with
  | some s => return .ok s
  | none =>
    match ← House.loadBook auctionId with
    | .error f => return .error f
    | .ok book =>
      let s := { book.state with minimumNextBid := book.minimumNextBid }
      modify fun h => { h with snapshots := h.snapshots.insert auctionId s }
      return .ok s

/-- A snapshot after an event about its auction. -/
def follow (s : AuctionState) : Payload → AuctionState
  | .placed _ => { s with bidCount := s.bidCount + 1 }
  | .highestUpdated p =>
    { s with highestBidId := p.bidId, highestAmount := p.newHighestAmount,
             highestBidderId := p.bidderId, minimumNextBid := minimumNextBid p.newHighestAmount }
  | .retracted p =>
    if !p.wasHighestBid then s
    else
      let s := { s with highestBidId := p.newHighestBidId, highestBidderId := p.newHighestBidderId }
      match p.newHighestAmount with
      | none => { s with highestAmount := 0, minimumNextBid := 0 }
      | some a => { s with highestAmount := a, minimumNextBid := minimumNextBid a }
  | _ => s

/-- The messages an event sends: to a user wherever they watch, then to the auction's
watchers. -/
def messages (e : Event) : Option (String × Json) × Option Json :=
  match e.payload with
  | .highestUpdated p =>
    let notice :=
      if !p.previousBidderId.isEmpty && p.previousBidderId != p.bidderId then
        some (p.previousBidderId, Json.obj [("auction_id", .str p.auctionId),
          ("highest_amount", Json.ofDecimal p.newHighestAmount), ("type", .str "outbid")])
      else none
    (notice, some (.obj [("bid_id", .str p.bidId), ("bidder_username", .str p.bidderUsername),
      ("event_id", .str e.id), ("highest_amount", Json.ofDecimal p.newHighestAmount),
      ("highest_bidder_id", .str p.bidderId), ("is_auto_bid", .bool p.isAutoBid),
      ("timestamp", Json.ofInstant e.occurredAt), ("type", .str "bid_update")]))
  | .retracted p =>
    (none, some (.obj [("bid_id", .str p.bidId), ("event_id", .str e.id),
      ("new_highest_amount", match p.newHighestAmount with
        | some a => Json.ofDecimal a
        | none => .null),
      ("new_highest_bid_id", .str p.newHighestBidId),
      ("new_highest_bidder_id", .str p.newHighestBidderId),
      ("timestamp", Json.ofInstant e.occurredAt), ("type", .str "bid_retracted"),
      ("was_highest_bid", .bool p.wasHighestBid)]))
  | _ => (none, none)

/-- The feed's snapshots after an event: the snapshot of its auction, if there is one, follows
it. -/
def applyTo (snapshots : Table AuctionState) (e : Event) : Table AuctionState :=
  match snapshots.find? e.auctionId with
  | some s => snapshots.insert e.auctionId (follow s e.payload)
  | none => snapshots

/-- The watchers after an event's messages went out: its notice to a user's watchers, then its
announcement to its auction's watchers. -/
def announceTo (ws : Watchers) (e : Event) : Watchers :=
  let (notice, announcement) := messages e
  let ws := match notice with
    | some (userId, m) => ws.notify userId m
    | none => ws
  match announcement with
  | some m => ws.broadcast e.auctionId m
  | none => ws

/-- Hands an event to the feed: the snapshot follows it, and its messages go out. -/
def deliver (e : Event) : HouseM Unit :=
  modify fun h => { h with snapshots := applyTo h.snapshots e, watchers := announceTo h.watchers e }

/-- The first message of a new watcher: the snapshot of its auction. -/
def snapshotMessage (s : AuctionState) : Json := .obj [("state", s.toJson), ("type", .str "snapshot")]

/-- Hands the end of an auction to the feed. -/
def finish (f : AuctionFinished) : HouseM Unit :=
  modify fun h =>
    let ws := h.watchers.broadcast f.auctionId
      (.obj [("timestamp", Json.ofInstant f.finishedAt), ("type", .str "auction_ended")])
    { h with snapshots := h.snapshots.erase f.auctionId, watchers := ws.closeAuction f.auctionId }

end Feed

end Auction
