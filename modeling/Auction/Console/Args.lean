import Auction.Request

/-!
# The arguments of the console's operations

Each operation of the console reads its request into a record of its own arguments, as
`Request.read` reads requests: members of no argument are skipped, and an argument given as a
value of the wrong kind makes the request malformed. Texts that stand for amounts and times stay
texts here; the operation reads them when it needs them.
-/

namespace Auction

namespace Console

open Json

/-- The arguments of `increment`. -/
structure IncrementArgs where
  amount : String := ""

/-- Reads the arguments of `increment`. -/
def IncrementArgs.reader : IncrementArgs → Reader IncrementArgs :=
  recordReader "" [.of "amount" (·.amount) (fun _ v => ⟨v⟩) Request.text]

/-- The arguments of `is_valid_bid`. -/
structure ValidBidArgs where
  proposed : String := ""
  currentHigh : String := ""

/-- Reads the arguments of `is_valid_bid`. -/
def ValidBidArgs.reader : ValidBidArgs → Reader ValidBidArgs :=
  recordReader ""
    [.of "proposed" (·.proposed) (fun a v => { a with proposed := v }) Request.text,
     .of "current_high" (·.currentHigh) (fun a v => { a with currentHigh := v }) Request.text]

/-- The arguments of `auction_is_live`. -/
structure LiveArgs where
  auction : Option ListingInput := none
  now : String := ""

/-- Reads the arguments of `auction_is_live`. -/
def LiveArgs.reader : LiveArgs → Reader LiveArgs :=
  recordReader ""
    [.of "auction" (·.auction) (fun a v => { a with auction := v })
       (optionReader {} ListingInput.reader),
     .of "now" (·.now) (fun a v => { a with now := v }) Request.text]

/-- The arguments of `bid_error`. -/
structure BidErrorArgs where
  code : String := ""
  message : String := ""
  wrap : String := ""

/-- Reads the arguments of `bid_error`. -/
def BidErrorArgs.reader : BidErrorArgs → Reader BidErrorArgs :=
  recordReader ""
    [.of "code" (·.code) (fun a v => { a with code := v }) Request.text,
     .of "message" (·.message) (fun a v => { a with message := v }) Request.text,
     .of "wrap" (·.wrap) (fun a v => { a with wrap := v }) Request.text]

/-- The arguments of `event_decode`. -/
structure EventArgs where
  json : String := ""

/-- Reads the arguments of `event_decode`. -/
def EventArgs.reader : EventArgs → Reader EventArgs :=
  recordReader "" [.of "json" (·.json) (fun _ v => ⟨v⟩) Request.text]

/-- The arguments of `book_query`: the book as written, read on its own. -/
structure BookArgs where
  book : Option Parsed := none
  bidId : String := ""
  autoBidId : String := ""
  userId : String := ""

/-- Reads the arguments of `book_query`. -/
def BookArgs.reader : BookArgs → Reader BookArgs :=
  recordReader ""
    [.of "book" (·.book) (fun a v => { a with book := v }) rawReader,
     .of "bid_id" (·.bidId) (fun a v => { a with bidId := v }) Request.text,
     .of "auto_bid_id" (·.autoBidId) (fun a v => { a with autoBidId := v }) Request.text,
     .of "user_id" (·.userId) (fun a v => { a with userId := v }) Request.text]

/-- The arguments of `origin_allowed`. -/
structure OriginArgs where
  allowed : Option (List String) := none
  origin : String := ""

/-- Reads the arguments of `origin_allowed`. -/
def OriginArgs.reader : OriginArgs → Reader OriginArgs :=
  recordReader ""
    [.of "allowed" (·.allowed) (fun a v => { a with allowed := v }) Request.texts,
     .of "origin" (·.origin) (fun a v => { a with origin := v }) Request.text]

/-- The arguments of `cors`; `origin` is missing when the request sends no origin. -/
structure CorsArgs where
  allowed : Option (List String) := none
  method : String := ""
  origin : Option String := none
  path : String := ""

/-- Reads the arguments of `cors`. -/
def CorsArgs.reader : CorsArgs → Reader CorsArgs :=
  recordReader ""
    [.of "allowed" (·.allowed) (fun a v => { a with allowed := v }) Request.texts,
     .of "method" (·.method) (fun a v => { a with method := v }) Request.text,
     .of "origin" (·.origin) (fun a v => { a with origin := v }) Request.optionalText,
     .of "path" (·.path) (fun a v => { a with path := v }) Request.text]

/-- The arguments of `config_validate`: a configuration given setting by setting. -/
structure SettingsArgs where
  ledger : String := ""
  idempotencyStore : String := ""
  maxCommitAttempts : Int := 0
  host : String := ""
  port : Int := 0
  redisAddress : String := ""
  natsUrl : String := ""
  instanceId : String := ""

/-- Reads the arguments of `config_validate`. -/
def SettingsArgs.reader : SettingsArgs → Reader SettingsArgs :=
  recordReader ""
    [.of "ledger" (·.ledger) (fun a v => { a with ledger := v }) Request.text,
     .of "idempotency_store" (·.idempotencyStore) (fun a v => { a with idempotencyStore := v })
       Request.text,
     .of "max_commit_attempts" (·.maxCommitAttempts) (fun a v => { a with maxCommitAttempts := v })
       Request.int,
     .of "host" (·.host) (fun a v => { a with host := v }) Request.text,
     .of "port" (·.port) (fun a v => { a with port := v }) Request.int,
     .of "redis_address" (·.redisAddress) (fun a v => { a with redisAddress := v }) Request.text,
     .of "nats_url" (·.natsUrl) (fun a v => { a with natsUrl := v }) Request.text,
     .of "instance_id" (·.instanceId) (fun a v => { a with instanceId := v }) Request.text]

/-- The arguments of `config_load`: the file's content and name. -/
structure FileArgs where
  content : String := ""
  name : String := ""

/-- Reads the arguments of `config_load`. -/
def FileArgs.reader : FileArgs → Reader FileArgs :=
  recordReader ""
    [.of "content" (·.content) (fun a v => { a with content := v }) Request.text,
     .of "name" (·.name) (fun a v => { a with name := v }) Request.text]

/-- The arguments of `scheduler_start`. -/
structure ScheduleArgs where
  spec : String := ""

/-- Reads the arguments of `scheduler_start`. -/
def ScheduleArgs.reader : ScheduleArgs → Reader ScheduleArgs :=
  recordReader "" [.of "spec" (·.spec) (fun _ v => ⟨v⟩) Request.text]

end Console

end Auction
