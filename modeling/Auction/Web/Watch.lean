import Auction.Web.Exchange
import Auction.Feed.Listener
import Auction.Cors

/-!
# Opening a watch over the web

`/ws/auctions/{auction}?user_id=…` opens a live watch of an auction. The checks come in order:

1. the user is named, else 400 `user_id required`;
2. the auction takes bids now: 404 `auction not found` when it is unknown, 403 `auction is not
   live` when it does not take bids, 500 `internal error` when the look-up fails;
3. the feed has a snapshot of the auction, else 500 `internal error`;
4. the request is a WebSocket handshake: its `Connection` header names `upgrade` and its
   `Upgrade` header `websocket` (else 400), it is a GET (else 405), it asks for version 13 (else
   400), its origin is allowed (else 403), and its key is a 16-byte value in base 64 (else 400).

A request that passes them all still cannot be taken over here, for the answer cannot be turned
into a connection: it is answered 500. Every answer is plain text ending in a line break; an
unknown path is answered 404 `404 page not found`.
-/

namespace Auction

namespace Web

/-- The plain-text answer. -/
def textResponse (status : Nat) (text : String) : Response := ⟨status, .text (text ++ "\n")⟩

/-- The standard wording of a status, as plain-text answers give it. -/
def statusText : Nat → String
  | 400 => "Bad Request"
  | 403 => "Forbidden"
  | 405 => "Method Not Allowed"
  | _ => "Internal Server Error"

/-- Whether a character is of the base 64 alphabet. -/
def isBase64Char (c : Char) : Bool := c.isAlphanum || c = '+' || c = '/'

/-- Whether a text is a 16-byte value in base 64: 22 characters of the alphabet and `==`. -/
def isHandshakeKey (key : String) : Bool :=
  let cs := key.toList
  cs.length == 24 && (cs.take 22).all isBase64Char && cs.drop 22 == ['=', '=']

/-- The status of a failed handshake, if it fails; `allowed` is the origin allow list, none for
any origin. -/
def handshakeFailure (r : Request) (allowed : Option (List String)) : Option Nat :=
  let origin := r.header "Origin"
  if !r.hasToken "Connection" "upgrade" then some 400
  else if !r.hasToken "Upgrade" "websocket" then some 400
  else if r.method != "GET" then some 405
  else if !r.hasToken "Sec-Websocket-Version" "13" then some 400
  else if !(origin.isEmpty || allowed.all (Cors.originAllowed · origin)) then some 403
  else if !isHandshakeKey (r.header "Sec-Websocket-Key") then some 400
  else none

/-- Answers a request to open a watch. -/
def watch (r : Request) (allowed : Option (List String)) : HouseM Response := do
  match segments r.path with
  | ["ws", "auctions", auctionId] =>
    if auctionId.isEmpty then return textResponse 404 "404 page not found"
    if (r.param "user_id").isEmpty then return textResponse 400 "user_id required"
    let check ← House.liveAuction auctionId (← get).now
    if let some f := check.fault then
      match f.bidError? with
      | some e =>
        if e.code == .auctionNotFound then return textResponse 404 "auction not found"
        if e.code == .auctionNotLive then return textResponse 403 "auction is not live"
        return textResponse 500 "internal error"
      | none => return textResponse 500 "internal error"
    if let .error _ ← Feed.snapshot auctionId then return textResponse 500 "internal error"
    match handshakeFailure r allowed with
    | some status => return textResponse status (statusText status)
    | none => return textResponse 500 (statusText 500)
  | _ => return textResponse 404 "404 page not found"

end Web

end Auction
