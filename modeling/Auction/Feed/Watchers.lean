import Auction.Json.Basic
import Auction.Table

/-!
# Watchers · who follows which auction

A watcher is a live connection of one user to one auction's feed. The registry keeps at most
one watcher per user and auction: registering a second one closes the first and puts the new
one in its place. It also lists, per user, the watchers of that user across auctions, in the
order they were registered, so a user can be told things wherever they watch. A watcher whose
read loop ends unregisters in two steps: it checks that it is still the one registered for its
user and auction, and then disconnects whatever is registered there (`disconnectIfCurrent`).

A watcher records the messages it was sent and whether it was closed. A watcher may be set to
refuse every message (it then records nothing) or to report a failure when closed (it is closed
all the same); neither failure stops the registry.
-/

namespace Auction

/-- A connection of a user to an auction's feed, with what it received. -/
structure Watcher where
  id : Nat
  userId : String
  auctionId : String
  refusesMessages : Bool
  failsOnClose : Bool
  /-- Messages received, oldest first. -/
  messages : List Json
  closed : Bool
  deriving Inhabited

/-- The registry of watchers. -/
structure Watchers where
  /-- Every watcher ever connected, by id. -/
  all : List Watcher
  /-- Per auction, the watcher of each user. -/
  byAuction : Table (Table Nat)
  /-- Per user, their watchers in the order of registration. -/
  byUser : Table (List Nat)
  deriving Inhabited

namespace Watchers

/-- No watchers. -/
def empty : Watchers := ⟨[], Table.empty, Table.empty⟩

/-- The watcher with an id. -/
def get? (ws : Watchers) (id : Nat) : Option Watcher := ws.all[id]?

/-- Changes the watcher with an id. -/
def modify (ws : Watchers) (id : Nat) (f : Watcher → Watcher) : Watchers :=
  { ws with all := ws.all.modify id f }

/-- Closes a watcher. -/
def close (ws : Watchers) (id : Nat) : Watchers := ws.modify id fun w => { w with closed := true }

/-- Hands a message to a watcher; a watcher that refuses messages records nothing. -/
def send (ws : Watchers) (message : Json) (id : Nat) : Watchers :=
  ws.modify id fun w => if w.refusesMessages then w else { w with messages := w.messages ++ [message] }

/-- The auction a watcher follows. -/
def auctionOf (ws : Watchers) (id : Nat) : String := ((ws.get? id).map (·.auctionId)).getD ""

/-- Drops from a user's list the watchers of one auction. -/
def dropUserWatchers (ws : Watchers) (userId auctionId : String) : Watchers :=
  match ws.byUser.find? userId with
  | none => ws
  | some ids =>
    let kept := ids.filter fun i => ws.auctionOf i != auctionId
    { ws with byUser := if kept.isEmpty then ws.byUser.erase userId else ws.byUser.insert userId kept }

/-- Adds a new watcher of `userId` on `auctionId`, not yet registered; gives its id. -/
def add (ws : Watchers) (userId auctionId : String) (refusesMessages failsOnClose : Bool) :
    Nat × Watchers :=
  let id := ws.all.length
  (id, { ws with all := ws.all ++ [⟨id, userId, auctionId, refusesMessages, failsOnClose, [], false⟩] })

/-- Registers watcher `id` as the one of `userId` on `auctionId`. Another watcher registered
there is closed, and the user's watchers of that auction leave the user's list; the same watcher
registered again stays. Either way `id` is then added to the end of the user's list. -/
def register (ws : Watchers) (userId auctionId : String) (id : Nat) : Watchers :=
  let users := (ws.byAuction.find? auctionId).getD Table.empty
  let ws := match users.find? userId with
    | some previous =>
      if previous == id then ws else (ws.close previous).dropUserWatchers userId auctionId
    | none => ws
  { ws with
    byAuction := ws.byAuction.insert auctionId (users.insert userId id),
    byUser := ws.byUser.insert userId (((ws.byUser.find? userId).getD []) ++ [id]) }

/-- Connects a new watcher of `userId` to `auctionId`; gives its id. A watcher the user had on
that auction is closed and replaced. -/
def connect (ws : Watchers) (userId auctionId : String) (refusesMessages failsOnClose : Bool) :
    Nat × Watchers :=
  let (id, ws) := ws.add userId auctionId refusesMessages failsOnClose
  (id, ws.register userId auctionId id)

/-- Disconnects the watcher of `userId` on `auctionId`, without closing it. -/
def disconnect (ws : Watchers) (userId auctionId : String) : Watchers :=
  let ws := match ws.byAuction.find? auctionId with
    | some users =>
      let users := users.erase userId
      { ws with byAuction :=
          if users.size == 0 then ws.byAuction.erase auctionId else ws.byAuction.insert auctionId users }
    | none => ws
  ws.dropUserWatchers userId auctionId

/-- Closes and disconnects every watcher of an auction. -/
def closeAuction (ws : Watchers) (auctionId : String) : Watchers :=
  match ws.byAuction.find? auctionId with
  | none => ws
  | some users =>
    let ws := users.entries.foldl (fun ws (userId, id) => (ws.close id).dropUserWatchers userId auctionId) ws
    { ws with byAuction := ws.byAuction.erase auctionId }

/-- The user a watcher belongs to. -/
def userOf (ws : Watchers) (id : Nat) : String := ((ws.get? id).map (·.userId)).getD ""

/-- The watcher registered for a user on an auction, if any. -/
def current? (ws : Watchers) (userId auctionId : String) : Option Nat :=
  (ws.byAuction.find? auctionId).bind (·.find? userId)

/-- Whether a watcher is still the one registered for its user and auction: the check, made
under the read lock, with which a watcher whose read loop ended starts to unregister. -/
def isCurrent (ws : Watchers) (id : Nat) : Bool :=
  match ws.get? id with
  | some w => ws.current? w.userId w.auctionId == some id
  | none => false

/-- Unregisters a watcher whose read loop ended: whatever is registered for its user and auction
is disconnected, if the check found the watcher itself there. -/
def disconnectIfCurrent (ws : Watchers) (id : Nat) : Watchers :=
  if ws.isCurrent id then ws.disconnect (ws.userOf id) (ws.auctionOf id) else ws

/-- The watchers of an auction. -/
def ofAuction (ws : Watchers) (auctionId : String) : List Nat :=
  ((ws.byAuction.find? auctionId).map fun users => users.entries.map (·.2)).getD []

/-- The watchers of a user, in the order of registration. -/
def ofUser (ws : Watchers) (userId : String) : List Nat := (ws.byUser.find? userId).getD []

/-- Sends a message to every watcher of an auction. -/
def broadcast (ws : Watchers) (auctionId : String) (message : Json) : Watchers :=
  (ws.ofAuction auctionId).foldl (send · message) ws

/-- Sends a message to every watcher of a user. -/
def notify (ws : Watchers) (userId : String) (message : Json) : Watchers :=
  (ws.ofUser userId).foldl (send · message) ws

/-- What changed for each watcher between two states of the registry, in id order: the
messages received since, and whether it is closed now. Watchers with no change are left out. -/
def changes (before after : Watchers) : List (Watcher × List Json) :=
  after.all.filterMap fun w =>
    let (seen, wasClosed) := match before.get? w.id with
      | some b => (b.messages.length, b.closed)
      | none => (0, false)
    let fresh := w.messages.drop seen
    if fresh.isEmpty && w.closed == wasClosed then none else some (w, fresh)

end Watchers

end Auction
