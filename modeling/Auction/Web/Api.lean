import Auction.Web.Exchange
import Auction.Web.Form
import Auction.Web.Xml
import Auction.Service.Place
import Auction.Service.Retract
import Auction.Service.AutoBid
import Auction.Service.Close
import Auction.Event.Json

/-!
# The bidding API over the web

The routes, under `/api/v1`:

| method | path | operation | success |
|---|---|---|---|
| POST | `/auctions/{auction}/bids` | place a bid | 201, the placement result |
| GET | `/auctions/{auction}/state` | the auction's state | 200 |
| POST | `/auctions/{auction}/autobids` | register an auto-bid | 201 |
| POST | `/bids/{bid}/retract` | withdraw a bid | 200 |
| POST | `/autobids/{autobid}/toggle` | pause or resume an auto-bid | 200 |
| DELETE | `/autobids/{autobid}?user_id=…` | cancel an auto-bid | 200 |
| GET | `/auctions/{auction}/history` | the auction's events, when served | 200 |

and `GET /health`. A path that no route has is answered 404, a route asked with another
method 405, except that `OPTIONS` on a route is answered 204 with no body; to `HEAD`, a
failure to route is answered with its status and no body. A value that ends a path must not
be empty (`/api/v1/autobids/` has no route); one inside a path may be. A path is matched as
written when its escapes are not the usual ones for what it decodes to, and decoded otherwise;
the values it yields are taken from the text matched.

A body is read when it is not empty, by its media type (the `Content-Type` before any `;`,
trimmed, compared exactly): `application/json` as JSON (only its first value counts);
`application/xml` and `text/xml` as XML (see `Auction.Xml`; the elements `BidderID`,
`BidderUsername`, `Amount`, `Reason`, `UserID`, `Username`, `MaxAmount` and `Active` fill the
members); `application/x-www-form-urlencoded` and `multipart/form-data` as forms, which fill
nothing but must read (see `Auction.Web.Form`). Any other type, a malformed body, or a member of
the wrong kind is answered 400 `invalid request body`. A missing caller id
is answered 400 `<member> is required`.

A business error is answered with its code and message: 404 when something was not found, 403
for an authorization error, 409 for a conflict, 422 otherwise; a rejected placement is answered
with its result under the same status. Any other fault is answered 500 `internal error`.
-/

namespace Auction

namespace Web

/-- The answer with a JSON body. -/
def jsonResponse (status : Nat) (j : Json) : Response :=
  if j.failure?.isSome then ⟨500, .json (.obj [("message", .str "Internal Server Error")])⟩
  else ⟨status, .json j⟩

/-- The answer to a fault-free failure of the request itself. -/
def badRequest (message : String) : Response :=
  jsonResponse 400 (.obj [("message", .str message)])

/-- The status a fault is answered with. -/
def statusFor (f : Fault) : Nat :=
  match f.bidError? with
  | none => 500
  | some e =>
    if e.code == .auctionNotFound || e.code == .bidNotFound || e.code == .autoBidNotFound then 404
    else match e.category with
      | .authorization => 403
      | .conflict => 409
      | .validation => 422

/-- The answer to a fault. -/
def failure (f : Fault) : Response :=
  match f.bidError? with
  | some e =>
    jsonResponse (statusFor f) (.obj ((if e.code.name.isEmpty then [] else
      [("error_code", .str e.code.name)]) ++ [("message", .str e.message)]))
  | none => jsonResponse 500 (.obj [("message", .str "internal error")])

/-- A field an XML body may fill: its element's name and how its text sets it (none when the
text is not a value of the field). -/
structure XmlField (α : Type) where
  name : String
  set : α → String → Option α

/-- The media type a body is read by: the `Content-Type` before its first `;`, trimmed of white
space, as written. -/
def bodyKind (r : Request) : String :=
  let base := (r.header "Content-Type").toList.takeWhile (· ≠ ';')
  String.ofList ((base.dropWhile Text.isSpace).reverse.dropWhile Text.isSpace).reverse

/-- Reads the body of a request into a form starting from `blank`; none when the body cannot
be read. -/
def bind {α : Type} (r : Request) (reader : α → Json.Reader α) (xml : List (XmlField α))
    (blank : α) : Option α :=
  if r.body.isEmpty then some blank
  else
    match bodyKind r with
    | "application/json" =>
      match Json.readFirst r.body with
      | .error _ => none
      | .ok j => (Json.decodeParsed "" reader blank j).toOption
    | "application/xml" | "text/xml" =>
      (Xml.fields (xml.map (·.name)) r.body).bind fun given =>
        given.foldlM (fun f (k, v) =>
          match xml.find? (·.name == k) with
          | some field => field.set f v
          | none => some f) blank
    | "application/x-www-form-urlencoded" => if urlEncodedValid r then some blank else none
    | "multipart/form-data" => if multipartValid r then some blank else none
    | _ => none

/-! ## Forms -/

/-- The form of a placement. -/
structure BidForm where
  bidderId : String := ""
  bidderUsername : String := ""
  amount : Decimal := 0

/-- The form of a withdrawal. -/
structure RetractForm where
  bidderId : String := ""
  reason : String := ""

/-- The form of an auto-bid registration. -/
structure AutoBidForm where
  userId : String := ""
  username : String := ""
  maxAmount : Decimal := 0

/-- The form of a pause or resumption. -/
structure ToggleForm where
  userId : String := ""
  active : Bool := false

open Json in
/-- Reads a placement form. -/
def BidForm.reader : BidForm → Reader BidForm :=
  recordReader "handlers.PlaceBidRequest"
    [.of "bidder_id" (·.bidderId) (fun f v => { f with bidderId := v }) (textReader "string"),
     .of "bidder_username" (·.bidderUsername) (fun f v => { f with bidderUsername := v })
       (textReader "string"),
     .of "amount" (·.amount) (fun f v => { f with amount := v }) decimalReader]

open Json in
/-- Reads a withdrawal form. -/
def RetractForm.reader : RetractForm → Reader RetractForm :=
  recordReader "handlers.RetractBidRequest"
    [.of "bidder_id" (·.bidderId) (fun f v => { f with bidderId := v }) (textReader "string"),
     .of "reason" (·.reason) (fun f v => { f with reason := v }) (textReader "string")]

open Json in
/-- Reads an auto-bid form. -/
def AutoBidForm.reader : AutoBidForm → Reader AutoBidForm :=
  recordReader "handlers.CreateAutoBidRequest"
    [.of "user_id" (·.userId) (fun f v => { f with userId := v }) (textReader "string"),
     .of "username" (·.username) (fun f v => { f with username := v }) (textReader "string"),
     .of "max_amount" (·.maxAmount) (fun f v => { f with maxAmount := v }) decimalReader]

open Json in
/-- Reads a toggle form. -/
def ToggleForm.reader : ToggleForm → Reader ToggleForm :=
  recordReader "handlers.ToggleAutoBidRequest"
    [.of "user_id" (·.userId) (fun f v => { f with userId := v }) (textReader "string"),
     .of "active" (·.active) (fun f v => { f with active := v }) boolReader]

/-- The value of a decimal field's text, as written. -/
def decimalText {α : Type} (set : α → Decimal → α) (f : α) (v : String) : Option α :=
  (Decimal.parse v).toOption.map (set f)

/-- The XML fields of a placement form. -/
def BidForm.xml : List (XmlField BidForm) :=
  [⟨"BidderID", fun f v => some { f with bidderId := v }⟩,
   ⟨"BidderUsername", fun f v => some { f with bidderUsername := v }⟩,
   ⟨"Amount", decimalText fun f d => { f with amount := d }⟩]

/-- The XML fields of a withdrawal form. -/
def RetractForm.xml : List (XmlField RetractForm) :=
  [⟨"BidderID", fun f v => some { f with bidderId := v }⟩,
   ⟨"Reason", fun f v => some { f with reason := v }⟩]

/-- The XML fields of an auto-bid form. -/
def AutoBidForm.xml : List (XmlField AutoBidForm) :=
  [⟨"UserID", fun f v => some { f with userId := v }⟩,
   ⟨"Username", fun f v => some { f with username := v }⟩,
   ⟨"MaxAmount", decimalText fun f d => { f with maxAmount := d }⟩]

/-- The XML fields of a toggle form. -/
def ToggleForm.xml : List (XmlField ToggleForm) :=
  [⟨"UserID", fun f v => some { f with userId := v }⟩,
   ⟨"Active", fun f v => (Xml.boolValue v).map fun b => { f with active := b }⟩]

/-! ## Handlers -/

/-- The answer to an invalid body. -/
def invalidBody : Response := badRequest "invalid request body"

/-- The answer to a missing caller id. -/
def required (member : String) : Response := badRequest (member ++ " is required")

/-- The JSON of an auto-bid operation's result. -/
def autoBidJson (r : AutoBidResult) : Json :=
  .obj ([("auto_bid", match r.autoBid with | some a => a.toJson | none => .null)] ++
    (if r.highestBidId.isEmpty then [] else [("highest_bid_id", .str r.highestBidId)]) ++
    [("highest_amount", Json.ofDecimal r.highestAmount)] ++
    (if r.highestBidderId.isEmpty then [] else [("highest_bidder_id", .str r.highestBidderId)]) ++
    [("is_leading", .bool r.isLeading)])

/-- The answer to an operation's outcome: its result under `ok`, or the fault. -/
def outcomeResponse {α : Type} (ok : Nat) (encode : α → Json) (o : Outcome α) : Response :=
  match o.fault with
  | some f => failure f
  | none => jsonResponse ok ((o.result.map encode).getD .null)

/-- Places a bid. -/
def placeRoute (auctionId : String) (r : Request) : HouseM Response := do
  let some form := bind r BidForm.reader BidForm.xml {} | return invalidBody
  if form.bidderId.isEmpty then return required "bidder_id"
  let o ← placeBid
    { auctionId, bidderId := form.bidderId, bidderUsername := form.bidderUsername,
      amount := form.amount, idempotencyKey := r.header "Idempotency-Key" }
  match o.fault, o.result with
  | some f, some result => return jsonResponse (statusFor f) result.toJson
  | some f, none => return failure f
  | none, result => return jsonResponse 201 ((result.map BidResult.toJson).getD .null)

/-- Withdraws a bid. -/
def retractRoute (bidId : String) (r : Request) : HouseM Response := do
  let some form := bind r RetractForm.reader RetractForm.xml {} | return invalidBody
  if form.bidderId.isEmpty then return required "bidder_id"
  outcomeResponse 200 RetractResult.toJson <$>
    retractBid { bidId, bidderId := form.bidderId, reason := form.reason }

/-- Registers an auto-bid. -/
def createAutoBidRoute (auctionId : String) (r : Request) : HouseM Response := do
  let some form := bind r AutoBidForm.reader AutoBidForm.xml {} | return invalidBody
  if form.userId.isEmpty then return required "user_id"
  outcomeResponse 201 autoBidJson <$>
    createAutoBid { auctionId, userId := form.userId, username := form.username,
                    maxAmount := form.maxAmount }

/-- Pauses or resumes an auto-bid. -/
def toggleRoute (autoBidId : String) (r : Request) : HouseM Response := do
  let some form := bind r ToggleForm.reader ToggleForm.xml {} | return invalidBody
  if form.userId.isEmpty then return required "user_id"
  outcomeResponse 200 autoBidJson <$> toggleAutoBid autoBidId form.userId form.active

/-- Cancels an auto-bid. -/
def cancelRoute (autoBidId : String) (r : Request) : HouseM Response := do
  let userId := r.param "user_id"
  if userId.isEmpty then return required "user_id"
  outcomeResponse 200 autoBidJson <$> cancelAutoBid autoBidId userId

/-- The state of an auction. -/
def stateRoute (auctionId : String) : HouseM Response := do
  match ← auctionState auctionId with
  | .ok s => return jsonResponse 200 s.toJson
  | .error f => return failure f

/-- The events of an auction published so far. -/
def historyRoute (auctionId : String) : HouseM Response := do
  let h ← get
  match h.settings.history with
  | some (.ok ()) =>
    return jsonResponse 200
      (.arr ((h.published.filter (·.auctionId == auctionId)).map Event.toJson))
  | _ => return failure (.other "history unavailable")

/-- The health of the service. -/
def healthRoute : Response :=
  jsonResponse 200 (.obj [("service", .str "bidding-service"), ("status", .str "ok")])

/-- How a path and a method are routed: to a handler, or to the status of no route. The history
route exists only when the history is `served`. -/
def route (served : Bool) (r : Request) : Except Nat (HouseM Response) :=
  let byMethod (allowed : String) (handler : HouseM Response) : Except Nat (HouseM Response) :=
    if r.method == allowed then .ok handler
    else if r.method == "OPTIONS" then .ok (pure ⟨204, .text ""⟩)
    else .error 405
  match segments r.routePath with
  | ["health"] => byMethod "GET" (pure healthRoute)
  | ["api", "v1", "auctions", a, "bids"] => byMethod "POST" (placeRoute a r)
  | ["api", "v1", "auctions", a, "state"] => byMethod "GET" (stateRoute a)
  | ["api", "v1", "auctions", a, "autobids"] => byMethod "POST" (createAutoBidRoute a r)
  | ["api", "v1", "auctions", a, "history"] =>
    if served then byMethod "GET" (historyRoute a) else .error 404
  | ["api", "v1", "bids", b, "retract"] => byMethod "POST" (retractRoute b r)
  | ["api", "v1", "autobids", x, "toggle"] => byMethod "POST" (toggleRoute x r)
  | ["api", "v1", "autobids", x] =>
    if x.isEmpty then .error 404 else byMethod "DELETE" (cancelRoute x r)
  | _ => .error 404

/-- Serves a web request. -/
def serve (r : Request) : HouseM Response := do
  match route (← get).settings.history.isSome r with
  | .ok handler => handler
  | .error status =>
    if r.method == "HEAD" then return ⟨status, .text ""⟩
    else if status == 405 then
      return jsonResponse 405 (.obj [("message", .str "Method Not Allowed")])
    else return jsonResponse status (.obj [("message", .str "Not Found")])

end Web

end Auction
