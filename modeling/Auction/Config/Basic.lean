import Auction.Json.Basic
import Auction.Text

/-!
# The service configuration

The configuration is grouped in sections: the web server, the shared key-value server, the
database, the event stream, leader election, the instance, logging, bidding, event channels and
the live feed. Durations are counts of nanoseconds.

A configuration is valid when the ledger driver is `memory`, `redis` or `mysql`, the
idempotency store is `memory` or `redis`, and at least one commit attempt is allowed; the
checks run in that order and the first that fails is the problem reported.
-/

namespace Auction

/-- The web server. -/
structure ServerSection where
  port : Int := 0
  host : String := ""
  deriving Repr, Inhabited

/-- The shared key-value server. -/
structure RedisSection where
  address : String := ""
  password : String := ""
  db : Int := 0
  deriving Repr, Inhabited

/-- The database. -/
structure DatabaseSection where
  dsn : String := ""
  maxOpenConns : Int := 0
  maxIdleConns : Int := 0
  connMaxLifetime : Int := 0
  deriving Repr, Inhabited

/-- The event stream; an empty address turns it off. -/
structure StreamSection where
  url : String := ""
  stream : String := ""
  subjectPrefix : String := ""
  durable : String := ""
  publishTimeout : Int := 0
  deriving Repr, Inhabited

/-- Leader election. -/
structure LeaderSection where
  ttl : Int := 0
  key : String := ""
  deriving Repr, Inhabited

/-- The instance. -/
structure InstanceSection where
  id : String := ""
  deriving Repr, Inhabited

/-- Logging. -/
structure LogSection where
  level : String := ""
  deriving Repr, Inhabited

/-- Bidding. -/
structure BiddingSection where
  ledger : String := ""
  idempotencyStore : String := ""
  maxCommitAttempts : Int := 0
  retryBaseDelay : Int := 0
  retryMaxDelay : Int := 0
  retractWindow : Int := 0
  idempotencyTtl : Int := 0
  maintenanceSpec : String := ""
  deriving Repr, Inhabited

/-- The channels events are published on. -/
structure EventsSection where
  bidChannel : String := ""
  finishedChannel : String := ""
  deriving Repr, Inhabited

/-- The live feed. -/
structure FeedSection where
  allowedOrigins : List String := []
  deriving Repr, Inhabited

/-- The whole configuration. -/
structure Configuration where
  server : ServerSection := {}
  redis : RedisSection := {}
  database : DatabaseSection := {}
  stream : StreamSection := {}
  leader : LeaderSection := {}
  inst : InstanceSection := {}
  log : LogSection := {}
  bidding : BiddingSection := {}
  events : EventsSection := {}
  feed : FeedSection := {}
  deriving Repr, Inhabited

namespace Configuration

/-- The first problem of a configuration, if any. -/
def problem (c : Configuration) : Option String :=
  if !(["memory", "redis", "mysql"].contains c.bidding.ledger) then
    some ("bidding.ledger: unsupported driver " ++ Text.quote c.bidding.ledger)
  else if !(["memory", "redis"].contains c.bidding.idempotencyStore) then
    some ("bidding.idempotency_store: unsupported driver " ++ Text.quote c.bidding.idempotencyStore)
  else if c.bidding.maxCommitAttempts < 1 then
    some ("bidding.max_commit_attempts must be at least 1, got " ++
      toString c.bidding.maxCommitAttempts)
  else none

/-- A one-line summary: the server address, the key-value server, the drivers, the event
stream (quoted) and the instance. -/
def summary (c : Configuration) : String :=
  "Server: " ++ c.server.host ++ ":" ++ toString c.server.port ++
    ", Redis: " ++ c.redis.address ++
    ", Ledger: " ++ c.bidding.ledger ++
    ", Idempotency: " ++ c.bidding.idempotencyStore ++
    ", NATS: " ++ Text.quote c.stream.url ++
    ", Instance: " ++ c.inst.id

/-- The configuration as JSON, sections and fields under their names. -/
def toJson (c : Configuration) : Json :=
  .obj [
    ("Server", .obj [("Port", .ofInt c.server.port), ("Host", .str c.server.host)]),
    ("Redis", .obj [("Address", .str c.redis.address), ("Password", .str c.redis.password),
      ("DB", .ofInt c.redis.db)]),
    ("MySQL", .obj [("DSN", .str c.database.dsn), ("MaxOpenConns", .ofInt c.database.maxOpenConns),
      ("MaxIdleConns", .ofInt c.database.maxIdleConns),
      ("ConnMaxLifetime", .ofInt c.database.connMaxLifetime)]),
    ("NATS", .obj [("URL", .str c.stream.url), ("Stream", .str c.stream.stream),
      ("SubjectPrefix", .str c.stream.subjectPrefix), ("Durable", .str c.stream.durable),
      ("PublishTimeout", .ofInt c.stream.publishTimeout)]),
    ("Leader", .obj [("TTL", .ofInt c.leader.ttl), ("Key", .str c.leader.key)]),
    ("Instance", .obj [("ID", .str c.inst.id)]),
    ("Log", .obj [("Level", .str c.log.level)]),
    ("Bidding", .obj [("Ledger", .str c.bidding.ledger),
      ("IdempotencyStore", .str c.bidding.idempotencyStore),
      ("MaxCommitAttempts", .ofInt c.bidding.maxCommitAttempts),
      ("RetryBaseDelay", .ofInt c.bidding.retryBaseDelay),
      ("RetryMaxDelay", .ofInt c.bidding.retryMaxDelay),
      ("RetractWindow", .ofInt c.bidding.retractWindow),
      ("IdempotencyTTL", .ofInt c.bidding.idempotencyTtl),
      ("MaintenanceSpec", .str c.bidding.maintenanceSpec)]),
    ("Events", .obj [("BidChannel", .str c.events.bidChannel),
      ("FinishedChannel", .str c.events.finishedChannel)]),
    ("Feed", .obj [("AllowedOrigins", .arr (c.feed.allowedOrigins.map .str))])]

end Configuration

end Auction
