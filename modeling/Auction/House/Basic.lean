import Auction.House.Backoff
import Auction.House.Ledger
import Auction.House.Store
import Auction.House.KeyValue
import Auction.Listing
import Auction.Book.Txn
import Auction.Feed.Watchers

/-!
# The house · the state every operation runs against

A `House` is one running instance of the bidding service with everything it talks to: the
clock and the id counter, the ledger of books, the directory of auctions, the cache of auction
statuses, the idempotency store, the shared key-value server, the log of published events, and
the live feed (its snapshots and its watchers).

Where the ledger, the store and the cache live is a `Backend`: in the process, on the shared
key-value server, or (for the store and the cache) nowhere.

A `FaultPlan` makes the surroundings fail on purpose: the next commits report a version
conflict or fail, the next loads fail, and auction look-ups or cache calls fail while their
text is set. Steps can also be set to run at the start of the next commit
(`interleave`), standing for a competing request that commits between a load and a commit;
`Hooks.beforeCommit` is how a commit runs them.

Every operation changes a book through one compare-and-swap loop, `retry`, written once for any
surroundings that can load a book, commit a change, wait between two attempts and tell whether the
caller's context has ended; `execute` runs it in the house, where a wait that panics ends the
whole request (`backoff`) and no request is ever cancelled.
-/

namespace Auction

/-- Where a part of the house keeps its state. -/
inductive Backend where
  | inProcess
  | shared
  deriving DecidableEq, Repr, Inhabited

/-- The fixed settings of a house. -/
structure Settings where
  maxAttempts : Nat
  /-- The delay of the first wait between two attempts of a compare-and-swap. -/
  retryBaseDelay : Duration := ⟨0⟩
  /-- The longest wait between two attempts, when positive. -/
  retryMaxDelay : Duration := ⟨0⟩
  retractWindow : Duration
  idempotencyTtl : Duration
  lockTtl : Duration
  ledger : Backend
  /-- The idempotency store, or none: then keys are ignored. -/
  store : Option Backend
  /-- The status cache, or none. -/
  cache : Option Backend
  /-- Whether published events reach the live feed. -/
  feedsEvents : Bool
  /-- The event history, when it is served: `ok` serves it, `error` fails every read. -/
  history : Option (Except String Unit)
  /-- Whether the shared key-value server can be reached; when it cannot, every call to it
  fails with `House.unreachable`. -/
  serverReachable : Bool
  deriving Inhabited

/-- Failures to inject into the surroundings. -/
structure FaultPlan where
  conflicts : Nat
  commitErrors : Nat
  loadErrors : Nat
  directoryError : String
  cacheError : String
  deriving Inhabited

/-- The house and its surroundings. -/
structure House where
  settings : Settings
  now : Instant
  /-- Ids drawn so far. -/
  drawn : Nat
  ledger : Ledger
  directory : Table Listing
  /-- Statuses cached in the process. -/
  statuses : Table Int
  store : LocalStore
  server : KeyValue
  /-- Every published event, in order. -/
  published : List Event
  /-- Calls to commit a book so far. -/
  commits : Nat
  faults : FaultPlan
  /-- Steps to run at the start of the next commit. -/
  pending : List Json.Parsed
  /-- Answers of steps run inside commits, in order. -/
  interleaved : List Json
  /-- The feed's snapshots of the auctions it was asked about. -/
  snapshots : Table AuctionState
  /-- The watchers of the live feed. -/
  watchers : Watchers
  /-- The failure that ended the run, if one did: no step runs after it. -/
  crashed : Option String := none
  deriving Inhabited

/-- What a commit runs before deciding its own result. -/
structure Hooks where
  beforeCommit : StateM House Unit

/-- Computations of the house. -/
abbrev HouseM := ReaderT Hooks (StateM House)

/-- Whether a house runs a key-value server: some part keeps its state there. -/
def Settings.hasServer (s : Settings) : Bool :=
  s.ledger = .shared || s.store = some .shared || s.cache = some .shared

namespace House

/-- The fault of a call to a shared server that cannot be reached: the dial fails before the
connection, as it does where the network is down. The address is the default one; a run that
dials a server of its own names that server's port instead. -/
def unreachable : Fault := .other "dial tcp 127.0.0.1:6379: connect: network is unreachable"

/-- The shared server, when it can be reached. -/
def link (h : House) : Except Fault KeyValue :=
  if h.settings.serverReachable then .ok h.server else .error unreachable

/-- Changes the shared server, when it can be reached; otherwise nothing changes. -/
def onServer (h : House) (f : KeyValue → KeyValue) : House :=
  if h.settings.serverReachable then { h with server := f h.server } else h

/-- The current time. -/
def clock : HouseM Instant := return (← get).now

/-- Draws the next id. -/
def drawId : HouseM String :=
  modifyGet fun h => (Txn.idOf (h.drawn + 1), { h with drawn := h.drawn + 1 })

/-- Publishes events, in order. -/
def publish (events : List Event) : HouseM Unit :=
  modify fun h => { h with published := h.published ++ events }

/-- Runs a transaction on a working book at the current time, sharing the id counter. -/
def runTxn {α : Type} (book : Book) (m : TxnM α) : HouseM (Except Fault α × Txn) := do
  let h ← get
  let (r, t) := Txn.run m book h.now h.drawn
  set { h with drawn := t.drawn }
  pure (r, t)

/-- The book of an auction as the ledger holds it: in the process, or on the shared server when
it can be reached. -/
def storedBook (h : House) (auctionId : String) : Except Fault Book :=
  match h.settings.ledger with
  | .inProcess => .ok (h.ledger.load auctionId)
  | .shared => h.link >>= (SharedLedger.load KeyValue.redis · auctionId)

/-- Loads the book of an auction; an injected failure comes first. -/
def loadBook (auctionId : String) : HouseM (Except Fault Book) := do
  let h ← get
  if h.faults.loadErrors > 0 then
    set { h with faults := { h.faults with loadErrors := h.faults.loadErrors - 1 } }
    return .error (.injected "load")
  return h.storedBook auctionId

/-- Commits a book change: counts the call, runs the interleaved steps, applies an injected
conflict or failure, and otherwise writes through the ledger. -/
def commitBook (c : BookChange) : HouseM (Except Fault Unit) := do
  modify fun h => { h with commits := h.commits + 1 }
  let hooks ← read
  let h ← get
  let h := (hooks.beforeCommit.run h).2
  if h.faults.conflicts > 0 then
    set { h with faults := { h.faults with conflicts := h.faults.conflicts - 1 } }
    return .error .versionConflict
  if h.faults.commitErrors > 0 then
    set { h with faults := { h.faults with commitErrors := h.faults.commitErrors - 1 } }
    return .error (.injected "commit")
  match h.settings.ledger with
  | .inProcess =>
    match h.ledger.commit c with
    | .ok l => set { h with ledger := l }; return .ok ()
    | .error e => set h; return .error e
  | .shared =>
    match h.link >>= (SharedLedger.commit KeyValue.redis · c) with
    | .ok kv => set { h with server := kv }; return .ok ()
    | .error e => set h; return .error e

/-- The auction of a bid id, from the index the ledger holds. -/
def bidAuction (h : House) (bidId : String) : Except Fault String :=
  match h.settings.ledger with
  | .inProcess => h.ledger.findBidAuction bidId
  | .shared => h.link >>= (SharedLedger.findBidAuction KeyValue.redis · bidId)

/-- The auction of an auto-bid id, from the index the ledger holds. -/
def autoBidAuction (h : House) (autoBidId : String) : Except Fault String :=
  match h.settings.ledger with
  | .inProcess => h.ledger.findAutoBidAuction autoBidId
  | .shared => h.link >>= (SharedLedger.findAutoBidAuction KeyValue.redis · autoBidId)

/-- Looks up the auction of a bid id. -/
def findBidAuction (bidId : String) : HouseM (Except Fault String) :=
  return (← get).bidAuction bidId

/-- Looks up the auction of an auto-bid id. -/
def findAutoBidAuction (autoBidId : String) : HouseM (Except Fault String) :=
  return (← get).autoBidAuction autoBidId

/-! ## Auction look-ups and the status cache -/

/-- The key of a cached status on the shared server. -/
def statusKey (auctionId : String) : String := "auction:" ++ auctionId ++ ":status"

/-- A cached status, without injected failures. -/
def cachedStatus (h : House) (auctionId : String) : Except Fault (Option Int) :=
  match h.settings.cache with
  | none => .ok none
  | some .inProcess => .ok (h.statuses.find? auctionId)
  | some .shared =>
    match h.link >>= fun kv => (KeyValue.redis.get kv (statusKey auctionId)).mapError Fault.other with
    | .error e => .error e
    | .ok none => .ok none
    | .ok (some raw) =>
      match IntText.parse 64 raw with
      | .ok n => .ok (some n)
      | e => .error (.other ("parse status " ++ Text.quote raw ++ ": " ++ IntText.message "Atoi" raw e))

/-- Caches a status, without injected failures. -/
def storeStatus (h : House) (auctionId : String) (status : Int) : House :=
  match h.settings.cache with
  | none => h
  | some .inProcess => { h with statuses := h.statuses.insert auctionId status }
  | some .shared => h.onServer (KeyValue.redis.set · (statusKey auctionId) (toString status) ⟨0⟩)

/-- The directory record of an auction; a set directory failure comes first. -/
def findListing (auctionId : String) : HouseM (Except Fault (Option Listing)) := do
  let h ← get
  if !h.faults.directoryError.isEmpty then return .error (.injected h.faults.directoryError)
  return .ok (h.directory.find? auctionId)

/-- The outcome of checking that an auction takes bids: the auction when it was found, and the
fault when it does not take bids. -/
structure LiveCheck where
  listing : Option Listing
  fault : Option Fault

/-- Checks that an auction takes bids at `now`. A cached status other than active replaces
the directory status; a failing cache is ignored. -/
def liveAuction (auctionId : String) (now : Instant) : HouseM LiveCheck := do
  match ← findListing auctionId with
  | .error f => return ⟨none, some (.wrap ("lookup auction " ++ auctionId) f)⟩
  | .ok none => return ⟨none, some (.bid ⟨.auctionNotFound, "auction " ++ auctionId ++ " not found"⟩)⟩
  | .ok (some listing) =>
    let h ← get
    let cached := if h.faults.cacheError.isEmpty then cachedStatus h auctionId else .ok none
    let listing := match cached with
      | .ok (some s) => if s != 1 then { listing with status := ListingStatus.ofCode s } else listing
      | _ => listing
    if listing.isLive now then return ⟨some listing, none⟩
    return ⟨some listing, some (.bid ⟨.auctionNotLive,
      "auction " ++ auctionId ++ " is " ++ listing.status.name⟩)⟩

/-- Records that an auction ended; a failing cache changes nothing. -/
def markFinished (auctionId : String) : HouseM Unit :=
  modify fun h => if h.faults.cacheError.isEmpty then storeStatus h auctionId 2 else h

/-! ## Compare-and-swap -/

/-- What a change of a loaded book decides. -/
inductive Change (α : Type) where
  /-- Nothing to write. -/
  | keep (out : α)
  /-- Write this book. -/
  | write (book : Book) (out : α)

/-- How a wait between two attempts ended. -/
inductive Wait where
  /-- The delay ran out. -/
  | slept
  /-- The wait panicked, with this text. -/
  | panicked (text : String)
  /-- The caller's context ended first, cancelled or past its deadline, with the text of its
  error. -/
  | cancelled (text : String)
  deriving DecidableEq

/-- What the compare-and-swap loop asks of its surroundings: the stored book of an auction, a
commit of a change, the wait after an attempt lost its commit while `left` attempts are still to
come, and the caller's context, looked at before each attempt: the text of its error once it was
cancelled or its deadline passed. -/
structure Surroundings (m : Type → Type) where
  load : String → m (Except Fault Book)
  commit : BookChange → m (Except Fault Unit)
  pause : (left : Nat) → m Wait
  cancelled : m (Option String)

/-- The business error of a loop whose attempts ran out. -/
def exhausted : Fault := .bid (BidError.standard .concurrencyConflict)

/-- The change an attempt commits: the working book at the version after the loaded one,
expected over the loaded version, with the bids and auto-bids the loaded book lacks. -/
def stamp (current working : Book) : BookChange :=
  let working := { working with version := current.version + 1 }
  ⟨working, current.version, Book.newBidIds current working, Book.newAutoBidIds current working⟩

/-- The attempts of the compare-and-swap loop, `left` of them still to make: each loads the latest
book, applies `mutate` to it and commits the result at the next version (`stamp`). A version
conflict starts the next attempt, after a wait when one is left; when the attempts run out the
answer is the conflict business error (`exhausted`). A failing load or commit ends the run with a
context in front, a fault of `mutate` ends it as it is, and a wait that panics ends it with the
panic's text. A context that has ended stops the run before the next attempt, or in the wait,
with its error. `lift` turns a fault of the surroundings into the error type.

What an attempt reports is handed to the next one as `last`, so a change that finds nothing to
do can report what the attempt before it reported. -/
def retry {m : Type → Type} [Monad m] {ε α : Type} (s : Surroundings m) (auctionId : String)
    (lift : Fault → ε) (mutate : α → Book → m (Except ε (Change α))) :
    (left : Nat) → (last : α) → m (Except ε (Book × α))
  | 0, _ => return .error (lift exhausted)
  | n + 1, last => do
    if let some text ← s.cancelled then return .error (lift (.cancelled text))
    match ← s.load auctionId with
    | .error f => return .error (lift (.wrap ("load auction book " ++ auctionId) f))
    | .ok current =>
      match ← mutate last current with
      | .error e => return .error e
      | .ok (.keep out) => return .ok (current, out)
      | .ok (.write working out) =>
        match ← s.commit (stamp current working) with
        | .ok () => return .ok ((stamp current working).book, out)
        | .error f =>
          match f.root with
          | .versionConflict =>
            if n = 0 then retry s auctionId lift mutate n out
            else do
              match ← s.pause n with
              | .slept => retry s auctionId lift mutate n out
              | .panicked text => return .error (lift (.other text))
              | .cancelled text => return .error (lift (.cancelled text))
          | _ => return .error (lift (.wrap ("commit auction book " ++ auctionId) f))

/-- Waits after an attempt lost its commit with `left` attempts still to come, so after the
attempt numbered `maxAttempts - left`. A wait that panics ends the whole request: the house
records the panic, the first one staying, and its text is handed back. -/
def backoff (left : Nat) : HouseM Wait := do
  let h ← get
  match Backoff.pause h.settings.retryBaseDelay h.settings.retryMaxDelay
      (h.settings.maxAttempts - left) with
  | .sleep .. => return .slept
  | .panic text =>
    set { h with crashed := h.crashed <|> some text }
    return .panicked text

/-- The surroundings of the loop in the house: its ledger, the waits its settings ask for, and a
context that never ends, since nothing in the house cancels a request. -/
def surroundings : Surroundings HouseM := ⟨loadBook, commitBook, backoff, pure none⟩

/-- The house loads a book from its ledger. -/
@[simp] theorem surroundings_load : surroundings.load = loadBook := rfl
/-- The house commits a book through its ledger. -/
@[simp] theorem surroundings_commit : surroundings.commit = commitBook := rfl
/-- The house waits by its backoff. -/
@[simp] theorem surroundings_pause : surroundings.pause = backoff := rfl
/-- The house is never cancelled. -/
@[simp] theorem surroundings_cancelled : surroundings.cancelled = pure none := rfl

/-- Runs a change against the latest book of an auction until a commit lands, with the attempts
the settings allow (`retry`), starting from the report `init`. -/
def execute {ε α : Type} (auctionId : String) (lift : Fault → ε) (init : α)
    (mutate : α → Book → HouseM (Except ε (Change α))) : HouseM (Except ε (Book × α)) := do
  let attempts := (← get).settings.maxAttempts
  retry surroundings auctionId lift mutate attempts init

end House

end Auction
