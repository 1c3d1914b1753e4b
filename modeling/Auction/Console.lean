import Auction.Increment
import Auction.Console.Args
import Auction.Web.Url
import Auction.Report
import Auction.Cors
import Auction.Event.Json
import Auction.Scenario.Run
import Auction.Config.Load
import Auction.Schedule

/-!
# The console · one request in, one answer out

A request is a JSON object whose `op` names an operation; the answer is a JSON object. A fault
is answered by the members `error` (its kind) and `message` (its text), and a business error
adds `code` and `bid_error_message`. A line that is not JSON, or whose `op` is not a text, is an
`InputError` `bad request line: …`; a request that cannot be read as the operation needs is one
too, `bad request: …` (`Request.read`), and so is an operation the console does not know.
-/

namespace Auction

namespace Console

open Report

/-- Reads the arguments of an operation from a request and answers from them; malformed
arguments are answered as an input error. -/
def withArgs {α : Type} (reader : α → Json.Reader α) (blank : α) (req : Json.Parsed)
    (k : α → Json) : Json :=
  match Request.read reader blank req with
  | .ok a => k a
  | .error t => .obj (inputErrorFields t)

/-- Turns a reading failure into an input error answer. -/
def orInputError (r : Except String Json) : Json :=
  match r with
  | .ok j => j
  | .error t => .obj (inputErrorFields t)

/-- `increment`: the raise and the minimum next bid over an amount. -/
def incrementAnswer (a : IncrementArgs) : Except String Json := do
  let amount ← Request.decimal a.amount
  pure (.obj [("increment", .str (increment amount).render),
    ("minimum_next_bid", .str (minimumNextBid amount).render)])

/-- `is_valid_bid`: whether a proposed amount may be placed over a leading price. -/
def validBidAnswer (a : ValidBidArgs) : Except String Json := do
  let proposed ← Request.decimal a.proposed
  let high ← Request.decimal a.currentHigh
  pure (.obj [("valid", .bool (isValidBidAmount proposed high))])

/-- `bid_error`: the text, category and matches of a business error, wrapped or not. -/
def bidErrorAnswer (a : BidErrorArgs) : Json :=
  let e : BidError := ⟨ErrorCode.ofName a.code, a.message⟩
  let fault : Fault := if a.wrap.isEmpty then .bid e else .wrap a.wrap (.bid e)
  let matched := e.matchedCodes
  .obj [("error_string", .str fault.text), ("category", .ofNat e.category.index),
    ("matches", if matched.isEmpty then .null else .arr (matched.map (.str ·.name))),
    ("as_bid_error", .bool true), ("sentinel_code", .str e.code.name),
    ("is_version", .bool false)]

/-- `auction_is_live`: whether an auction record takes bids at a moment. -/
def liveAnswer (a : LiveArgs) : Except String Json := do
  let now ← Request.time a.now
  let l ← (a.auction.getD {}).listing now
  pure (.obj [("live", .bool (l.isLive now)), ("status", .str l.status.name)])

/-- `event_decode`: reads an event from a text and shows it again with its payload type. -/
def eventAnswer (a : EventArgs) : Json :=
  match Event.ofText a.json with
  | .ok e => .obj [("event", e.toJson.marshalled), ("payload_type", .str e.kind.payloadType)]
  | .error f => .obj (faultFields f)

/-- An id, or `null`. -/
def idJson : Option String → Json := Json.ofStringOption

/-- The book a request gives, read as a book; a missing one is an empty text. -/
def givenBook (book : Option Json.Parsed) : Except Fault (Book × Bool) :=
  match book with
  | none => .error (.json Json.SyntaxError.unexpectedEnd.message)
  | some j => Book.decode j

/-- `book_query`: the queries of a book; a book that lists a missing entry fails them all. -/
def bookAnswer (a : BookArgs) : Json :=
  match givenBook a.book with
  | .error f => .obj (faultFields f)
  | .ok (_, false) => .obj (crashFields nilDereference)
  | .ok (b, true) =>
    let best := b.bestStanding?.map (·.2)
    let active := b.activeAutoBids.map (·.id)
    .obj [("highest_bid", idJson (b.highestBid?.map (·.id))),
      ("best_standing_bid", idJson (best.map (·.id))),
      ("active_auto_bids", if active.isEmpty then .null else .arr (active.map .str)),
      ("state", b.state.toJson),
      ("find_bid", idJson ((b.findBid? a.bidId).map (·.id))),
      ("find_auto_bid", idJson ((b.findAutoBid? a.autoBidId).map (·.id))),
      ("active_auto_bid_for", idJson ((b.activeAutoBidFor? a.userId).map (·.id))),
      ("after_set_highest", (b.setHighest best).state.toJson),
      ("clone", b.toJson.marshalled)]

/-- `origin_allowed`: whether an origin is allowed by a list. -/
def originAnswer (a : OriginArgs) : Json :=
  .obj [("allowed", .bool (Cors.originAllowed (a.allowed.getD []) a.origin))]

/-- The address the requests of `cors` are sent to. -/
def corsAddress : String := "http://example.test"

/-- `cors`: what the cross-origin policy does with a request in front of a handler that
answers 418. A request that cannot be built fails the whole request. -/
def corsAnswer (a : CorsArgs) : Json :=
  match Web.RequestLine.read a.method (corsAddress ++ a.path) with
  | .error e => .obj (crashFields ("invalid NewRequest arguments; " ++ e))
  | .ok line =>
    let d := Cors.decide (a.allowed.getD []) line.method (a.origin.getD "")
    .obj [("status", .ofNat (if d.passOn then 418 else 204)), ("next_called", .bool d.passOn),
      ("headers", .obj (d.headers.map fun (k, v) => (k, .str v)))]

/-- `config_validate`: the summary of a configuration given field by field, whether it is
valid, and its first problem. -/
def validateAnswer (a : SettingsArgs) : Json :=
  let c : Configuration :=
    { server := { host := a.host, port := a.port },
      redis := { address := a.redisAddress },
      stream := { url := a.natsUrl },
      inst := { id := a.instanceId },
      bidding := { ledger := a.ledger, idempotencyStore := a.idempotencyStore,
                   maxCommitAttempts := a.maxCommitAttempts } }
  .obj ([("config_string", .str c.summary), ("valid", .bool c.problem.isNone)] ++
    match c.problem with
    | some p => [("message", .str p)]
    | none => [])

/-- `config_load`: the configuration a file gives over the defaults, or why it gives none. The
file is `config.yaml` when no name is given. -/
def loadAnswer (a : FileArgs) : Json :=
  let name := if a.name.isEmpty then "config.yaml" else a.name
  match Configuration.load name a.content with
  | .ok c => .obj [("config", c.toJson), ("config_string", .str c.summary)]
  | .error (.reported m) => .obj [("error", .str "ConfigError"), ("message", .str m)]
  | .error (.crashed m) => .obj (Report.crashFields m)

/-- `scheduler_start`: whether a maintenance schedule starts. -/
def scheduleAnswer (a : ScheduleArgs) : Json :=
  match Schedule.check a.spec with
  | .ok () => .obj [("started", .bool true)]
  | .error (.invalid m) => .obj [("started", .bool false), ("message", .str m)]
  | .error (.broken m) => .obj [("error", .str "Panic"), ("message", .str m)]

/-- The answer to one request. -/
def answer (req : Json.Parsed) : Json :=
  match Request.readAs "bad request line" "" Request.Head.reader {} req with
  | .error t => .obj (inputErrorFields t)
  | .ok head =>
    match head.op with
    | "increment" => withArgs IncrementArgs.reader {} req (orInputError ∘ incrementAnswer)
    | "is_valid_bid" => withArgs ValidBidArgs.reader {} req (orInputError ∘ validBidAnswer)
    | "bid_error" => withArgs BidErrorArgs.reader {} req bidErrorAnswer
    | "auction_is_live" => withArgs LiveArgs.reader {} req (orInputError ∘ liveAnswer)
    | "event_decode" => withArgs EventArgs.reader {} req eventAnswer
    | "book_query" => withArgs BookArgs.reader {} req bookAnswer
    | "origin_allowed" => withArgs OriginArgs.reader {} req originAnswer
    | "cors" => withArgs CorsArgs.reader {} req corsAnswer
    | "scenario" => Scenario.run req
    | "config_validate" => withArgs SettingsArgs.reader {} req validateAnswer
    | "config_load" => withArgs FileArgs.reader {} req loadAnswer
    | "scheduler_start" => withArgs ScheduleArgs.reader {} req scheduleAnswer
    | op => .obj (inputErrorFields ("unknown op " ++ Text.quote op))

/-- The answer line to one request line. -/
def answerLine (line : String) : String :=
  match Json.read line with
  | .ok req => (answer req).render
  | .error e => (Json.obj (inputErrorFields ("bad request line: " ++ e.message))).render

end Console

end Auction
