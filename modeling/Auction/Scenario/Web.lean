import Auction.Scenario.Step
import Auction.Web.Api
import Auction.Web.Url
import Auction.Web.Watch

/-!
# Scenario steps over the web

`http` sends a request to the bidding API and `ws_connect` asks to open a watch; both answer
with the status and the body. A request is built from the step:

* `method` (GET when empty) and `path`, written after the service's address
  `http://bidding.test` to make the URL, which must read (`Web.RequestLine.read`): a request
  that cannot be built ends the scenario, as a failure of the whole request;
* `body`, sent as JSON unless `headers` names another type;
* `headers`, a map of header values, each replacing a header of the same name.

`ws_connect` may also ask for the WebSocket handshake headers with `upgrade`, and limit the
origins with `allowed_origins` (any origin when it is null or absent).

A body that reads as JSON is answered as JSON, any other as its text.
-/

namespace Auction

namespace Scenario

/-- The address the requests of a scenario are sent to. -/
def serviceAddress : String := "http://bidding.test"

/-- The text of a failure to build a request. -/
def unbuildable (why : String) : String := "invalid NewRequest arguments; " ++ why

/-- Sets a header, replacing any of the same name. -/
def setHeader (headers : List (String × String)) (name value : String) :
    List (String × String) :=
  headers.filter (fun (k, _) => !Web.sameName k name) ++ [(name, value)]

/-- The request a step sends, with `base` headers that the step's own headers replace. -/
def webRequest (s : StepInput) (base : List (String × String)) : Except String Web.Request := do
  let line ← Web.RequestLine.read s.method (serviceAddress ++ s.path)
  let headers := (s.headers.getD []).foldl (fun hs (k, v) => setHeader hs k v) base
  let u := line.url
  pure { method := line.method, path := Web.decodePath u.rawPath,
         query := Web.parseQuery u.rawQuery, headers, body := s.body.getD "",
         rawPath := u.rawPath, rawQuery := u.rawQuery }

/-- The members of an answer. -/
def responseFields (r : Web.Response) : Fields :=
  [("status", .ofNat r.status),
   ("body", match r.body with
     | .json j => j
     | .text t => match Json.parse t with
       | .ok j => j
       | .error _ => .str t)]

/-- Sends a request to the bidding API. -/
def httpStep (s : StepInput) : HouseM Fields := do
  let base := if s.body.isSome then [("Content-Type", "application/json")] else []
  match webRequest s base with
  | .error e => crash (unbuildable e)
  | .ok r => return responseFields (← Web.serve r)

/-- The WebSocket handshake headers. -/
def handshakeHeaders : List (String × String) :=
  [("Connection", "Upgrade"), ("Upgrade", "websocket"), ("Sec-WebSocket-Version", "13"),
   ("Sec-WebSocket-Key", "dGhlIHNhbXBsZSBub25jZQ==")]

/-- Asks to open a watch. -/
def watchStep (s : StepInput) : HouseM Fields := do
  let base := if s.upgrade then handshakeHeaders else []
  match webRequest s base with
  | .error e => crash (unbuildable e)
  | .ok r => return responseFields (← Web.watch r s.allowedOrigins)

end Scenario

end Auction
