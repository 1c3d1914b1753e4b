import Auction.Scenario.Setup
import Auction.Service.Place
import Auction.Service.Retract
import Auction.Service.AutoBid
import Auction.Service.Close
import Auction.Feed.Listener
import Auction.Report

/-!
# Scenario steps

Each step of a scenario names an operation in `op` and gives its arguments as members. A step's
answer members are computed here; the runner adds the events the step published and the
commits it made (`Scenario.Run`).

The steps fall in four groups:

* the bidding operations (`place`, `retract`, `create_autobid`, `toggle_autobid`,
  `cancel_autobid`, `finish`, `state`), answered by the result and the fault, if any;
* looks into the house and changes to it that bypass the service: the ledger (`book`,
  `find_bid`, `find_autobid`, `seed`), the clock (`advance`, `set_now`), the directory
  (`set_auction`, `remove_auction`, `live`), the status cache (`set_status`, `get_status`), the
  idempotency store (`store_*`), the key-value server (`redis_*`), and injected failures
  (`inject`);
* the live feed (`feed_*`);
* the parts that need a network the house does not have, which answer as they fail.
-/

namespace Auction

namespace Scenario

open Report

/-- The members of an answer. -/
abbrev Fields := List (String × Json)

/-- The members reporting an optional result and an optional fault. -/
def outcomeFields {α : Type} (o : Outcome α) (encode : α → Json) : Fields :=
  [("result", (o.result.map (encode · |>.marshalled)).getD .null)] ++ ((o.fault.map faultFields).getD [])

/-- Ends the run with a failure; no step runs after it. -/
def crash (text : String) : HouseM Fields := do
  modify fun h => { h with crashed := some text }
  pure []

/-- Runs `k` on a request value that could be read, or reports the input error. -/
def withInput {α : Type} (r : Except String α) (k : α → HouseM Fields) : HouseM Fields :=
  match r with
  | .ok a => k a
  | .error t => pure (inputErrorFields t)

/-- The members reporting a fault, if there is one. -/
def faultOption : Option Fault → Fields
  | some f => faultFields f
  | none => []

/-! ## Bidding operations -/

/-- `place`: places a bid. -/
def place (s : StepInput) : HouseM Fields :=
  withInput (Request.decimal s.amount) fun amount => do
    let o ← placeBid
      { auctionId := s.auctionId, bidderId := s.bidderId,
        bidderUsername := s.bidderUsername.getD (s.bidderId ++ "-name"), amount,
        idempotencyKey := s.idempotencyKey }
    pure (outcomeFields o BidResult.toJson)

/-- `retract`: withdraws a bid. -/
def retract (s : StepInput) : HouseM Fields := do
  let o ← retractBid { bidId := s.bidId, bidderId := s.bidderId, reason := s.reason }
  pure (outcomeFields o RetractResult.toJson)

/-- `create_autobid`: registers an auto-bid. -/
def createAutoBidStep (s : StepInput) : HouseM Fields :=
  withInput (Request.decimal s.maxAmount) fun maxAmount => do
    let o ← createAutoBid
      { auctionId := s.auctionId, userId := s.userId,
        username := s.username.getD (s.userId ++ "-name"), maxAmount }
    pure (outcomeFields o AutoBidResult.toJson)

/-- `toggle_autobid`: pauses or resumes an auto-bid. -/
def toggleAutoBidStep (s : StepInput) : HouseM Fields := do
  let o ← toggleAutoBid s.autoBidId s.userId s.active
  pure (outcomeFields o AutoBidResult.toJson)

/-- `cancel_autobid`: cancels an auto-bid. -/
def cancelAutoBidStep (s : StepInput) : HouseM Fields := do
  let o ← cancelAutoBid s.autoBidId s.userId
  pure (outcomeFields o AutoBidResult.toJson)

/-- `finish`: closes an auction, at `finished_at` or else now. -/
def finish (s : StepInput) : HouseM Fields :=
  withInput (Request.timeOr s.finishedAt Instant.zero) fun t => do
    pure (faultOption (← finishAuction s.auctionId t))

/-- `state`: the state of an auction. -/
def stateStep (s : StepInput) : HouseM Fields := do
  match ← auctionState s.auctionId with
  | .ok st => pure [("result", st.toJson)]
  | .error f => pure ([("result", .null)] ++ faultFields f)

/-! ## The ledger -/

/-- `book`: the stored book of an auction, read past any injected failure. -/
def book (s : StepInput) : HouseM Fields := do
  let id := s.auctionId
  let h ← get
  match h.settings.ledger with
  | .inProcess =>
    pure [("result", match h.ledger.stored? id with
      | some b => b.toJson.marshalled
      | none => (Book.empty id).toFreshJson)]
  | .shared =>
    match h.link >>= (SharedLedger.stored? KeyValue.redis · id) with
    | .ok (some b) => pure [("result", b.toJson.marshalled)]
    | .ok none => pure [("result", (Book.empty id).toFreshJson)]
    | .error f => pure ([("result", .null)] ++ faultFields f)

/-- The members answering an index look-up. -/
def indexFields (r : Except Fault String) : Fields :=
  match r with
  | .ok a => [("auction_id", .str a)]
  | .error f => [("auction_id", .str "")] ++ faultFields f

/-- The book a step gives, read as a book; a missing one is an empty text. -/
def givenBook (s : StepInput) : Except String (Book × Bool) :=
  match s.book with
  | none => .error ("bad book: " ++ Json.SyntaxError.unexpectedEnd.message)
  | some j =>
    match Book.decode j with
    | .ok b => .ok b
    | .error f => .error ("bad book: " ++ f.text)

/-- `seed`: writes a book over the stored one, at the next version, indexing all its ids. -/
def seed (s : StepInput) : HouseM Fields := do
  match givenBook s with
  | .error t => pure (inputErrorFields t)
  | .ok (_, false) => crash nilDereference
  | .ok (b, true) =>
    let h ← get
    let change (current : Int) : BookChange :=
      ⟨{ b with version := current + 1 }, current, b.bids.map (·.id), b.autoBids.map (·.id)⟩
    match h.settings.ledger with
    | .inProcess =>
      let c := change (h.ledger.storedVersion b.auctionId)
      match h.ledger.commit c with
      | .ok l => set { h with ledger := l }; pure [("version", .ofInt c.book.version)]
      | .error f => pure (faultFields f)
    | .shared =>
      match h.link >>= (SharedLedger.load KeyValue.redis · b.auctionId) with
      | .error f => pure (faultFields f)
      | .ok current =>
        let c := change current.version
        match h.link >>= (SharedLedger.commit KeyValue.redis · c) with
        | .ok kv => set { h with server := kv }; pure [("version", .ofInt c.book.version)]
        | .error f => pure (faultFields f)

/-! ## The clock, the directory and the status cache -/

/-- Moves the clock to `t`; the key-value server's clock follows forward only. -/
def moveClock (t : Instant) : HouseM Fields := do
  modify fun h => { h with now := t, server := h.server.advance (t.ns - h.now.ns) }
  pure [("now", .str t.render)]

/-- `advance`: moves the clock by some milliseconds, perhaps back. -/
def advance (s : StepInput) : HouseM Fields := do
  moveClock ((← get).now.add (millis s.ms))

/-- `set_now`: sets the clock. -/
def setNow (s : StepInput) : HouseM Fields :=
  withInput (Request.time s.time) moveClock

/-- `set_auction`: adds or replaces an auction of the directory. -/
def setAuction (s : StepInput) : HouseM Fields := do
  let now := (← get).now
  match s.auction with
  | none => pure (inputErrorFields "set_auction needs auction")
  | some r =>
    withInput (r.listing now) fun l => do
      modify fun h => { h with directory := h.directory.insert l.id l }
      pure []

/-- `remove_auction`: removes an auction from the directory. -/
def removeAuction (s : StepInput) : HouseM Fields := do
  modify fun h => { h with directory := h.directory.erase s.auctionId }
  pure []

/-- The answer to a step on the status cache when the scenario has none. -/
def noCache : Fields := inputErrorFields "no state cache"

/-- `set_status`: caches a status, past any injected failure. -/
def setStatus (s : StepInput) : HouseM Fields := do
  if (← get).settings.cache.isNone then return noCache
  modify fun h => House.storeStatus h s.auctionId s.status
  pure []

/-- `get_status`: reads a cached status, past any injected failure. -/
def getStatus (s : StepInput) : HouseM Fields := do
  if (← get).settings.cache.isNone then return noCache
  match House.cachedStatus (← get) s.auctionId with
  | .ok (some n) => pure [("status", .ofInt n), ("found", .bool true)]
  | .ok none => pure [("status", .ofInt 0), ("found", .bool false)]
  | .error f => pure ([("status", .ofInt 0), ("found", .bool false)] ++ faultFields f)

/-- The JSON of a directory record as `live` shows it. -/
def listingJson (l : Listing) : Json :=
  .obj [("id", .str l.id), ("seller_id", .str l.sellerId), ("status", .ofInt l.status.code),
    ("status_name", .str l.status.name), ("reserve_price", Json.ofDecimal l.reservePrice)]

/-- `live`: checks that an auction takes bids now. -/
def live (s : StepInput) : HouseM Fields := do
  let check ← House.liveAuction s.auctionId (← get).now
  pure ([("auction", (check.listing.map listingJson).getD .null)] ++ faultOption check.fault)

/-- `inject`: sets the failures to inject. Counters and steps to interleave not given are
cleared; texts not given stay. -/
def inject (s : StepInput) : HouseM Fields := do
  modify fun h =>
    { h with
      faults :=
        { conflicts := s.conflicts.toNat, commitErrors := s.commitErrors.toNat,
          loadErrors := s.loadErrors.toNat,
          directoryError := s.directoryError.getD h.faults.directoryError,
          cacheError := s.cacheError.getD h.faults.cacheError },
      pending := s.interleave.getD [] }
  pure []

/-! ## The idempotency store and the key-value server -/

/-- `store_reserve`: reserves a key of the store. -/
def storeReserve (s : StepInput) : HouseM Fields := do
  let key := s.key
  let ttl := millis s.ttlMs
  let h ← get
  let r : Except Fault (Reservation × House) := match h.settings.store with
    | some .shared =>
      (h.link >>= (SharedStore.reserve KeyValue.redis · key ttl)).map fun (r, kv) =>
        (r, { h with server := kv })
    | _ => (h.store.reserve key ttl h.now).map fun (r, st) => (r, { h with store := st })
  match r with
  | .ok (.reserved, h) => set h; pure [("reserved", .bool true), ("payload", .null)]
  | .ok (.stored p, h) => set h; pure [("reserved", .bool false), ("payload", .str p)]
  | .error f => pure ([("reserved", .bool false), ("payload", .null)] ++ faultFields f)

/-- Runs a write on the shared server for a step: the step fails when the server cannot be
reached. -/
def serverWrite (f : KeyValue → Except Fault KeyValue) : HouseM Fields := do
  let h ← get
  match h.link >>= f with
  | .ok kv => set { h with server := kv }; pure []
  | .error e => pure (faultFields e)

/-- `store_complete`: stores an outcome under a key. -/
def storeComplete (s : StepInput) : HouseM Fields := do
  let key := s.key
  let payload := s.payload
  let ttl := millis s.ttlMs
  match (← get).settings.store with
  | some .shared =>
    serverWrite fun kv => .ok (SharedStore.complete KeyValue.redis kv key payload ttl)
  | _ =>
    modify fun h => { h with store := h.store.complete key payload ttl h.now }
    pure []

/-- `store_release`: frees a reservation. -/
def storeRelease (s : StepInput) : HouseM Fields := do
  let key := s.key
  match (← get).settings.store with
  | some .shared => serverWrite fun kv => .ok (SharedStore.release KeyValue.redis kv key)
  | _ =>
    modify fun h => { h with store := h.store.release key }
    pure []

/-- `store_purge`: drops the expired entries of the store in the process. -/
def storePurge : HouseM Fields := do
  let h ← get
  let (removed, st) := h.store.purge h.now
  set { h with store := st }
  pure [("removed", .ofNat removed), ("len", .ofNat st.size)]

/-- The key-value server as a step reaches it directly, not over the network: it is there when
some part of the scenario keeps its state on it, and the step fails otherwise. -/
def serverDirect (op : String) : HouseM (Except (List (String × Json)) KeyValue) := do
  let h ← get
  if h.settings.hasServer then return .ok h.server
  else return .error (inputErrorFields (op ++ " needs a Redis backend"))

/-- `redis_set`: writes a text on the key-value server directly. -/
def serverSet (s : StepInput) : HouseM Fields := do
  match ← serverDirect "redis_set" with
  | .error f => pure f
  | .ok kv =>
    match kv.put s.key s.value with
    | .ok kv => modify (fun h => { h with server := kv }); pure []
    | .error e => pure (faultFields (.other e))

/-- `redis_hset`: writes a hash field on the key-value server directly. -/
def serverHashSet (s : StepInput) : HouseM Fields := do
  match ← serverDirect "redis_hset" with
  | .error f => pure f
  | .ok kv =>
    let kv := kv.hput s.key s.field s.value
    modify fun h => { h with server := kv }
    pure []

/-- `redis_get`: reads a text from the key-value server directly; a missing key reads as
nothing. -/
def serverGet (s : StepInput) : HouseM Fields := do
  match ← serverDirect "redis_get" with
  | .error f => pure f
  | .ok kv =>
    match kv.get s.key with
    | .ok v => pure [("value", Json.ofStringOption v)]
    | .error e => pure ([("value", .null)] ++ faultFields (.other e))

/-! ## The live feed -/

/-- `feed_connect`: connects a watcher. -/
def feedConnect (s : StepInput) : HouseM Fields := do
  let h ← get
  let (id, ws) := h.watchers.connect s.userId s.auctionId s.failSend s.failClose
  set { h with watchers := ws }
  pure [("conn", .ofNat id)]

/-- `feed_unregister`: disconnects a user's watcher of an auction. -/
def feedUnregister (s : StepInput) : HouseM Fields := do
  modify fun h => { h with watchers := h.watchers.disconnect s.userId s.auctionId }
  pure []

/-- The name of a watcher in a listing. -/
def watcherName (id : Nat) : String := "f" ++ toString id

/-- Sorts texts by their characters. -/
def sortTexts (xs : List String) : List String :=
  xs.mergeSort fun a b => decide (a ≤ b)

/-- A list of names, or `null` when empty. -/
def namesJson (names : List String) : Json :=
  if names.isEmpty then .null else .arr (names.map .str)

/-- `feed_connections`: the watchers of an auction, sorted, and of a user, in order. -/
def feedConnections (s : StepInput) : HouseM Fields := do
  let ws := (← get).watchers
  pure [("auction", namesJson (sortTexts ((ws.ofAuction s.auctionId).map watcherName))),
    ("user", namesJson ((ws.ofUser s.userId).map watcherName))]

/-- `feed_snapshot`: the feed's snapshot of an auction. -/
def feedSnapshot (s : StepInput) : HouseM Fields := do
  match ← Feed.snapshot s.auctionId with
  | .ok st => pure [("result", st.toJson)]
  | .error f => pure ([("result", .null)] ++ faultFields f)

/-- `feed_finished`: hands the end of an auction to the feed, at `finished_at` or else at the
zero time. -/
def feedFinished (s : StepInput) : HouseM Fields :=
  withInput (Request.timeOr s.finishedAt Instant.zero) fun t => do
    Feed.finish ⟨s.auctionId, t⟩
    pure []

/-- `feed_broadcast`: sends a message to a user's watchers, or else to an auction's. The message
is read as a generic value, so its numbers become floats; a missing message is an empty text. -/
def feedBroadcast (s : StepInput) : HouseM Fields := do
  match s.message with
  | none => pure (inputErrorFields ("bad message: " ++ Json.SyntaxError.unexpectedEnd.message))
  | some j =>
    let message := Json.floatNumbers j.toJson
    modify fun h =>
      { h with watchers :=
          if s.userId.isEmpty then h.watchers.broadcast s.auctionId message
          else h.watchers.notify s.userId message }
    pure []

/-- `feed_close`: closes and disconnects an auction's watchers. -/
def feedClose (s : StepInput) : HouseM Fields := do
  modify fun h => { h with watchers := h.watchers.closeAuction s.auctionId }
  pure []

/-! ## Parts without a network -/

/-- A live connection cannot be opened: the handshake fails. -/
def socketOpen : HouseM Fields := pure [("session", .null), ("handshake_error", .bool true)]

/-- No live connection was ever opened, so none can be used. -/
def socketUse (s : StepInput) : HouseM Fields :=
  pure (inputErrorFields ("no websocket session " ++ toString s.session))

/-- The archiver cannot reach its election, so its one campaign archives nothing. -/
def archiveRun : HouseM Fields :=
  pure [("archived", .arr []), ("election_calls", .arr [.str "is:false:true"]),
    ("handler_errors", .ofNat 0), ("is_leader_after", .bool false),
    ("run_error", .str "context canceled")]

/-- The leader election lives on the shared server, which cannot be reached: no lease is won
or held. -/
def leaderStep (op : String) : HouseM Fields :=
  let claim : Fields := match op with
    | "leader_become" => [("won", .bool false)]
    | "leader_is" => [("leader", .bool false)]
    | _ => []
  pure (claim ++ faultFields House.unreachable)

/-- A subscription cannot be started. -/
def subscribe : HouseM Fields := pure (faultFields (.other "subscription did not start"))

end Scenario

end Auction
