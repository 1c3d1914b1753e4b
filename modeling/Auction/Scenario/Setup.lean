import Auction.House.Basic
import Auction.Scenario.Input

/-!
# Setting up a scenario

A scenario runs steps against one fresh house. Its settings come from the scenario's own
members, each optional:

* `now`, the starting time (`2026-03-01T12:00:00Z` by default, also when empty);
* `ledger` (`memory` or `redis`), `idempotency_store` and `state_cache` (`memory`, `redis` or
  `none`): where each part keeps its state, the shared key-value server standing for `redis`;
  empty means `memory`, and any other name is refused;
* `auctions`, the directory (one auction `a-1` by default), each record completed relative to
  `now` as `ListingInput.listing` does;
* `max_commit_attempts` (5; fewer than one counts as one), `retract_window_ms` (five minutes),
  `idempotency_ttl_ms` (a day);
* `feed`, whether published events reach the live feed, and `history`, whether the event
  history is served (`events`) or fails (`error`).

The idempotency lock is held for 30 seconds. The shared key-value server cannot be reached over
the network from a scenario: every part kept there fails, and the status cache then changes
nothing. The steps that write and read it directly (`redis_set`, `redis_hset`, `redis_get`) do
reach it, when some part keeps its state there.
-/

namespace Auction

namespace Scenario

/-- The default starting time of a scenario. -/
def defaultNow : Instant := Instant.ofCivil 2026 3 1 12 0 0 0

/-- The backend of the ledger a setting names (`memory` when empty). -/
def ledgerOf (name : String) : Except String Backend :=
  match name with
  | "" | "memory" => .ok .inProcess
  | "redis" => .ok .shared
  | _ => .error ("unknown ledger " ++ Text.quote name)

/-- The backend of an optional part a setting names (`memory` when empty); none for `none`. -/
def partOf (setting name : String) : Except String (Option Backend) :=
  match name with
  | "" | "memory" => .ok (some .inProcess)
  | "redis" => .ok (some .shared)
  | "none" => .ok none
  | _ => .error ("unknown " ++ setting ++ " " ++ Text.quote name)

/-- A duration of milliseconds, wrapped into the signed 64-bit range of nanoseconds. -/
def millis (n : Int) : Duration := Duration.ofMillis n

/-- The settings a scenario asks for. -/
def settings (c : ScenarioInput) : Except String Settings := do
  let ledger ← ledgerOf c.ledger
  let store ← partOf "idempotency_store" c.idempotencyStore
  let cache ← partOf "state_cache" c.stateCache
  pure { maxAttempts := (max 1 (c.maxCommitAttempts.getD 5)).toNat,
         retryBaseDelay := millis (c.retryBaseDelayMs.getD 0),
         retryMaxDelay := millis (c.retryMaxDelayMs.getD 0),
         retractWindow := millis (c.retractWindowMs.getD 300000),
         idempotencyTtl := millis (c.idempotencyTtlMs.getD 86400000),
         lockTtl := millis 30000, ledger, store, cache,
         feedsEvents := c.feed,
         history := match c.history with
           | "events" => some (.ok ())
           | "error" => some (.error "history unavailable")
           | _ => none,
         serverReachable := false }

/-- The directory a scenario starts with. -/
def directory (c : ScenarioInput) (now : Instant) : Except String (Table Listing) := do
  let records := c.auctions.getD [{ id := "a-1" }]
  records.foldlM (fun t r => do
    let l ← r.listing now
    pure (t.insert l.id l)) Table.empty

/-- The house a scenario starts with. -/
def house (c : ScenarioInput) : Except String House := do
  let now ← Request.timeOr c.now defaultNow
  let settings ← settings c
  let dir ← directory c now
  pure { settings, now, drawn := 0, ledger := Ledger.empty, directory := dir,
         statuses := Table.empty, store := LocalStore.empty, server := KeyValue.empty,
         published := [], commits := 0,
         faults := ⟨0, 0, 0, "", ""⟩, pending := [], interleaved := [],
         snapshots := Table.empty, watchers := Watchers.empty }

/-- The house of a scenario that sets none of its members: the auction `a-1` takes bids, and
the ledger and the stores are in the process. -/
def defaultHouse : House := (house {}).toOption.getD default

end Scenario

end Auction
