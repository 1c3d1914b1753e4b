import Auction.Request

/-!
# Scenario requests and steps on the wire

A scenario request is read into `ScenarioInput` and each of its steps, when it runs, into
`StepInput`, as `Request.read` reads requests. One step record serves every step operation:
each reads the members it needs and ignores the rest, but a member of the wrong kind makes the
step malformed whatever its operation, answered `bad step: ` and the mismatch. A step that is
`null` is an empty step.

Texts that stand for amounts and times stay texts; a step reads them when it runs. Values that
are handed on as written (the book of `seed`, the message of `feed_broadcast`, the steps to
interleave) are kept as parsed.
-/

namespace Auction

namespace Scenario

open Json

/-- An item of a subscription step: a text to publish as it is, or, with `events`, every event
published so far. -/
structure PublishItem where
  raw : String := ""
  events : Bool := false

/-- Reads a subscription item. -/
def PublishItem.reader : PublishItem → Reader PublishItem :=
  recordReader "main.pubItem"
    [.of "raw" (·.raw) (fun i v => { i with raw := v }) Request.text,
     .of "events" (·.events) (fun i v => { i with events := v }) boolReader]

/-- A step of a scenario: its operation and every argument any operation takes. -/
structure StepInput where
  op : String := ""
  auctionId : String := ""
  bidderId : String := ""
  bidderUsername : Option String := none
  amount : String := ""
  idempotencyKey : String := ""
  bidId : String := ""
  reason : String := ""
  userId : String := ""
  username : Option String := none
  maxAmount : String := ""
  autoBidId : String := ""
  active : Bool := false
  finishedAt : String := ""
  book : Option Parsed := none
  ms : Int := 0
  time : String := ""
  auction : Option ListingInput := none
  status : Int := 0
  conflicts : Int := 0
  commitErrors : Int := 0
  loadErrors : Int := 0
  directoryError : Option String := none
  cacheError : Option String := none
  interleave : Option (List Parsed) := none
  key : String := ""
  payload : String := ""
  ttlMs : Int := 0
  field : String := ""
  value : String := ""
  method : String := ""
  path : String := ""
  body : Option String := none
  headers : Option (List (String × String)) := none
  upgrade : Bool := false
  allowedOrigins : Option (List String) := none
  session : Int := 0
  text : String := ""
  count : Int := 0
  node : String := ""
  instanceId : String := ""
  repoError : Bool := false
  channel : String := ""
  items : Option (List PublishItem) := none
  failSend : Bool := false
  failClose : Bool := false
  message : Option Parsed := none

namespace StepInput

/-- Values kept as parsed, in a list; `null` is no list. -/
def rawList (current : Option (List Parsed)) : Reader (Option (List Parsed)) :=
  listReader "[]jsontext.Value" (fun _ j _ => ⟨j, none⟩) .null current

/-- Reads a step. -/
def reader : StepInput → Reader StepInput :=
  recordReader "main.step"
    [.of "op" (·.op) (fun s v => { s with op := v }) Request.text,
     .of "auction_id" (·.auctionId) (fun s v => { s with auctionId := v }) Request.text,
     .of "bidder_id" (·.bidderId) (fun s v => { s with bidderId := v }) Request.text,
     .of "bidder_username" (·.bidderUsername) (fun s v => { s with bidderUsername := v })
       Request.optionalText,
     .of "amount" (·.amount) (fun s v => { s with amount := v }) Request.text,
     .of "idempotency_key" (·.idempotencyKey) (fun s v => { s with idempotencyKey := v })
       Request.text,
     .of "bid_id" (·.bidId) (fun s v => { s with bidId := v }) Request.text,
     .of "reason" (·.reason) (fun s v => { s with reason := v }) Request.text,
     .of "user_id" (·.userId) (fun s v => { s with userId := v }) Request.text,
     .of "username" (·.username) (fun s v => { s with username := v }) Request.optionalText,
     .of "max_amount" (·.maxAmount) (fun s v => { s with maxAmount := v }) Request.text,
     .of "auto_bid_id" (·.autoBidId) (fun s v => { s with autoBidId := v }) Request.text,
     .of "active" (·.active) (fun s v => { s with active := v }) boolReader,
     .of "finished_at" (·.finishedAt) (fun s v => { s with finishedAt := v }) Request.text,
     .of "book" (·.book) (fun s v => { s with book := v }) rawReader,
     .of "ms" (·.ms) (fun s v => { s with ms := v }) int64Reader,
     .of "time" (·.time) (fun s v => { s with time := v }) Request.text,
     .of "auction" (·.auction) (fun s v => { s with auction := v })
       (optionReader {} ListingInput.reader),
     .of "status" (·.status) (fun s v => { s with status := v }) Request.int,
     .of "conflicts" (·.conflicts) (fun s v => { s with conflicts := v }) Request.int,
     .of "commit_errors" (·.commitErrors) (fun s v => { s with commitErrors := v }) Request.int,
     .of "load_errors" (·.loadErrors) (fun s v => { s with loadErrors := v }) Request.int,
     .of "directory_error" (·.directoryError) (fun s v => { s with directoryError := v })
       Request.optionalText,
     .of "cache_error" (·.cacheError) (fun s v => { s with cacheError := v })
       Request.optionalText,
     .of "interleave" (·.interleave) (fun s v => { s with interleave := v }) rawList,
     .of "key" (·.key) (fun s v => { s with key := v }) Request.text,
     .of "payload" (·.payload) (fun s v => { s with payload := v }) Request.text,
     .of "ttl_ms" (·.ttlMs) (fun s v => { s with ttlMs := v }) int64Reader,
     .of "field" (·.field) (fun s v => { s with field := v }) Request.text,
     .of "value" (·.value) (fun s v => { s with value := v }) Request.text,
     .of "method" (·.method) (fun s v => { s with method := v }) Request.text,
     .of "path" (·.path) (fun s v => { s with path := v }) Request.text,
     .of "body" (·.body) (fun s v => { s with body := v }) Request.optionalText,
     .of "headers" (·.headers) (fun s v => { s with headers := v }) textMapReader,
     .of "upgrade" (·.upgrade) (fun s v => { s with upgrade := v }) boolReader,
     .of "allowed_origins" (·.allowedOrigins) (fun s v => { s with allowedOrigins := v })
       Request.texts,
     .of "session" (·.session) (fun s v => { s with session := v }) Request.int,
     .of "text" (·.text) (fun s v => { s with text := v }) Request.text,
     .of "count" (·.count) (fun s v => { s with count := v }) Request.int,
     .of "node" (·.node) (fun s v => { s with node := v }) Request.text,
     .of "instance_id" (·.instanceId) (fun s v => { s with instanceId := v }) Request.text,
     .of "repo_error" (·.repoError) (fun s v => { s with repoError := v }) boolReader,
     .of "channel" (·.channel) (fun s v => { s with channel := v }) Request.text,
     .of "items" (·.items) (fun s v => { s with items := v })
       (listReader "[]main.pubItem" PublishItem.reader {}),
     .of "fail_send" (·.failSend) (fun s v => { s with failSend := v }) boolReader,
     .of "fail_close" (·.failClose) (fun s v => { s with failClose := v }) boolReader,
     .of "message" (·.message) (fun s v => { s with message := v }) rawReader]

/-- Reads a step; a mismatch makes it malformed. -/
def read (j : Parsed) : Except String StepInput :=
  Request.readAs "bad step" "step" reader {} j

end StepInput

/-- A scenario request: its settings, all optional, and its steps. -/
structure ScenarioInput where
  now : String := ""
  ledger : String := ""
  idempotencyStore : String := ""
  stateCache : String := ""
  auctions : Option (List ListingInput) := none
  maxCommitAttempts : Option Int := none
  retractWindowMs : Option Int := none
  idempotencyTtlMs : Option Int := none
  idempotencyWaitMs : Option Int := none
  retryBaseDelayMs : Option Int := none
  retryMaxDelayMs : Option Int := none
  feed : Bool := false
  publishError : Bool := false
  history : String := ""
  steps : Option (List Parsed) := none

namespace ScenarioInput

/-- Optional fields of wire type `int64`. -/
def optionalInt64 (current : Option Int) : Reader (Option Int) :=
  optionReader 0 int64Reader current

/-- Reads a scenario request. -/
def reader : ScenarioInput → Reader ScenarioInput :=
  recordReader "main.scenarioReq"
    [.of "now" (·.now) (fun c v => { c with now := v }) Request.text,
     .of "ledger" (·.ledger) (fun c v => { c with ledger := v }) Request.text,
     .of "idempotency_store" (·.idempotencyStore) (fun c v => { c with idempotencyStore := v })
       Request.text,
     .of "state_cache" (·.stateCache) (fun c v => { c with stateCache := v }) Request.text,
     .of "auctions" (·.auctions) (fun c v => { c with auctions := v }) ListingInput.listReader,
     .of "max_commit_attempts" (·.maxCommitAttempts) (fun c v => { c with maxCommitAttempts := v })
       (optionReader 0 Request.int),
     .of "retract_window_ms" (·.retractWindowMs) (fun c v => { c with retractWindowMs := v })
       optionalInt64,
     .of "idempotency_ttl_ms" (·.idempotencyTtlMs) (fun c v => { c with idempotencyTtlMs := v })
       optionalInt64,
     .of "idempotency_wait_ms" (·.idempotencyWaitMs)
       (fun c v => { c with idempotencyWaitMs := v }) optionalInt64,
     .of "retry_base_delay_ms" (·.retryBaseDelayMs) (fun c v => { c with retryBaseDelayMs := v })
       optionalInt64,
     .of "retry_max_delay_ms" (·.retryMaxDelayMs) (fun c v => { c with retryMaxDelayMs := v })
       optionalInt64,
     .of "feed" (·.feed) (fun c v => { c with feed := v }) boolReader,
     .of "publish_error" (·.publishError) (fun c v => { c with publishError := v }) boolReader,
     .of "history" (·.history) (fun c v => { c with history := v }) Request.text,
     .of "steps" (·.steps) (fun c v => { c with steps := v }) StepInput.rawList]

/-- Reads a scenario request; a mismatch makes it malformed. -/
def read (j : Parsed) : Except String ScenarioInput :=
  Request.readAs "bad request" "scenarioReq" reader {} j

end ScenarioInput

end Scenario

end Auction
