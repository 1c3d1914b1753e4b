import Auction.House.Basic
import Auction.Book.Cascade
import Auction.Service.Result

/-!
# Placing a bid

A placement gets its bid id first, then passes the checks in order: the auction exists and
takes bids, the bidder is not the seller, the book is not closed, and the amount clears the
minimum next bid (`Txn.accept`). The accepted bid then lets the auto-bids answer
(`Cascade.resolve`), all in one compare-and-swap of the book; the events are published only
after the write landed.

A refusal by a business rule of the validation or authorization category is **rejected**: the
caller gets a rejected result together with the error, and one `BidRejected` event is
published. The result shows the lead only when the refusal came from inside the book change.
A conflict-category error, a fault of the surroundings, and a cascade past its bound are
returned as they are, with no result and no event.
-/

namespace Auction

/-- A request to place a bid. -/
structure PlaceRequest where
  auctionId : String
  bidderId : String
  bidderUsername : String
  amount : Decimal
  idempotencyKey : String
  deriving Inhabited

/-- The pending bid of a request, under the id `id` at `now`. -/
def PlaceRequest.bid (req : PlaceRequest) (id : String) (now : Instant) : Bid :=
  { id, auctionId := req.auctionId, bidderId := req.bidderId,
    bidderUsername := req.bidderUsername, amount := req.amount, bidTime := now,
    status := .pending, isAutoBid := false, autoBidId := "", version := 0 }

namespace Placement

/-- The result of an accepted placement, read off the committed book. -/
def settled (book : Book) (listing : Listing) (bid : Bid) : BidResult :=
  let placed := (book.findBid? bid.id).getD bid
  { bidId := placed.id, auctionId := placed.auctionId, status := placed.status,
    amount := placed.amount, minimumNextBid := book.minimumNextBid,
    isLeading := book.highestBidId == placed.id, highestAmount := book.highestAmount,
    highestBidderId := book.highestBidderId,
    reserveMet := listing.reservePrice.isZero || decide (listing.reservePrice ≤ book.highestAmount),
    errorCode := "", message := "" }

/-- Turns a business refusal into a rejected result with a published `BidRejected` event; any
other fault is passed on. `book` is the book the refusal was decided on, if any. -/
def reject (bid : Bid) (book : Option Book) (f : Fault) : HouseM (Outcome BidResult) := do
  match f.bidError? with
  | none => return ⟨none, some f⟩
  | some be =>
    if be.category == .conflict then return ⟨none, some f⟩
    let id ← House.drawId
    House.publish [rejectionEvent id bid be.message bid.bidTime]
    let result : BidResult :=
      { bidId := bid.id, auctionId := bid.auctionId, status := .rejected, amount := bid.amount,
        minimumNextBid := (book.map Book.minimumNextBid).getD 0, isLeading := false,
        highestAmount := (book.map (·.highestAmount)).getD 0,
        highestBidderId := (book.map (·.highestBidderId)).getD "", reserveMet := false,
        errorCode := be.code.name, message := be.message }
    return ⟨some result, some (.bid be)⟩

/-- The book change of a placement: the bid enters, then the cascade runs. A fault carries the
working book it was decided on. -/
def change (req : PlaceRequest) (bid : Bid) (book : Book) :
    HouseM (Except (Fault × Option Book) (House.Change (List Event))) := do
  if book.closed then
    return .error (.bid ⟨.auctionNotLive, "auction " ++ req.auctionId ++ " has finished"⟩, some book)
  let (r, txn) ← House.runTxn book (do Txn.accept bid; let _ ← Cascade.resolve; pure ())
  match r with
  | .error f => return .error (f, some txn.book)
  | .ok () => return .ok (.write txn.book txn.events)

/-- Whether a fault is a cascade past its bound. -/
def isCascadeBound (f : Fault) : Bool :=
  match f.root with
  | .cascadeBound .. => true
  | _ => false

/-- Places a bid, without the idempotency guard. -/
def run (req : PlaceRequest) : HouseM (Outcome BidResult) := do
  let now ← House.clock
  let id ← House.drawId
  let bid := req.bid id now
  let check ← House.liveAuction req.auctionId now
  match check.fault, check.listing with
  | some f, _ => reject bid none f
  | none, none => reject bid none (.bid (BidError.standard .auctionNotFound))
  | none, some listing =>
    if req.bidderId == listing.sellerId then
      return ← reject bid none (.bid ⟨.selfBidding, "bidder " ++ req.bidderId ++ " is the seller"⟩)
    match ← House.execute req.auctionId (fun f => (f, none)) [] fun _ => change req bid with
    | .error (f, snapshot) =>
      if isCascadeBound f then return ⟨none, some f⟩
      reject bid snapshot f
    | .ok (book, events) =>
      House.publish events
      return ⟨some (settled book listing bid), none⟩

end Placement

/-! ## The idempotency guard -/

namespace Guard

/-- The store key of a bidder and a client key. -/
def storeKey (bidderId key : String) : String := "idempotency:" ++ bidderId ++ ":" ++ key

/-- The stored form of a decided outcome: the result, and the code and message of a refusal. -/
def storedText (o : Outcome BidResult) : String :=
  let be := o.fault.bind Fault.bidError?
  (Json.obj ((match o.result with | some r => [("result", r.toJson)] | none => []) ++
    (match be with
     | some e => (if e.code.name.isEmpty then [] else [("error_code", .str e.code.name)]) ++
        (if e.message.isEmpty then [] else [("message", .str e.message)])
     | none => []))).render

/-- A stored outcome read back: its result, and a refusal when it has a code. -/
structure Stored where
  result : Option BidResult
  errorCode : String
  message : String

/-- Reads a stored outcome. -/
def Stored.reader : Stored → Json.Reader Stored :=
  Json.recordReader "services.storedBidResult"
    [.of "result" (·.result) (fun s v => { s with result := v })
       (Json.optionReader BidResult.blank BidResult.reader),
     .of "error_code" (·.errorCode) (fun s v => { s with errorCode := v })
       (Json.textReader "domain.ErrorCode"),
     .of "message" (·.message) (fun s v => { s with message := v }) (Json.textReader "string")]

/-- The outcome a stored text replays. -/
def replay (payload : String) : Outcome BidResult :=
  match Json.decodeText "storedBidResult" Stored.reader ⟨none, "", ""⟩ payload with
  | .error f => ⟨none, some (.wrap "decode stored bid result" f)⟩
  | .ok s =>
    if s.errorCode.isEmpty then ⟨s.result, none⟩
    else ⟨s.result, some (.bid ⟨ErrorCode.ofName s.errorCode, s.message⟩)⟩

/-- Reserves a store key in the configured store. -/
def reserve (key : String) : HouseM (Except Fault Reservation) := do
  let h ← get
  match h.settings.store with
  | some .shared =>
    match h.link >>= (SharedStore.reserve KeyValue.redis · key h.settings.lockTtl) with
    | .ok (r, kv) => set { h with server := kv }; return .ok r
    | .error e => return .error e
  | _ =>
    match h.store.reserve key h.settings.lockTtl h.now with
    | .ok (r, s) => set { h with store := s }; return .ok r
    | .error e => return .error e

/-- Stores a decided outcome under a key. -/
def complete (key payload : String) : HouseM Unit :=
  modify fun h =>
    match h.settings.store with
    | some .shared =>
      h.onServer (SharedStore.complete KeyValue.redis · key payload h.settings.idempotencyTtl)
    | _ => { h with store := h.store.complete key payload h.settings.idempotencyTtl h.now }

/-- Frees a reservation. -/
def release (key : String) : HouseM Unit :=
  modify fun h =>
    match h.settings.store with
    | some .shared => h.onServer (SharedStore.release KeyValue.redis · key)
    | _ => { h with store := h.store.release key }

/-- Whether an outcome is final for the request, and so is stored: a success, or a refusal
outside the conflict category. -/
def isDecided (o : Outcome BidResult) : Bool :=
  match o.fault with
  | some f => f.isDecided
  | none => true

/-- Ends a run that held the key `k`: a decided outcome is stored under it, and otherwise the
key is freed. -/
def settle (k : String) (o : Outcome BidResult) : HouseM (Outcome BidResult) := do
  if isDecided o then complete k (storedText o) else release k
  return o

/-- The answer to a call whose reservation the store refused: a key still held as it is, any
other fault with its context. -/
def refusal (f : Fault) : Outcome BidResult :=
  match f.bidError? with
  | some e => if e.code == .idempotencyInFlight then ⟨none, some f⟩
              else ⟨none, some (.wrap "reserve idempotency key" f)⟩
  | none => ⟨none, some (.wrap "reserve idempotency key" f)⟩

/-- Runs a placement at most once per bidder and key: a free key runs it and stores a decided
outcome (or frees the key when nothing was decided), a done key replays the stored outcome,
and a key still held fails with `idempotencyInFlight`. -/
def execute (bidderId key : String) (fn : HouseM (Outcome BidResult)) :
    HouseM (Outcome BidResult) := do
  if key.isEmpty then return ← fn
  let k := storeKey bidderId key
  match ← reserve k with
  | .ok .reserved => settle k (← fn)
  | .ok (.stored p) => return replay p
  | .error f => return refusal f

end Guard

/-- Places a bid through the idempotency guard, when the house has a store. -/
def placeBid (req : PlaceRequest) : HouseM (Outcome BidResult) := do
  match (← get).settings.store with
  | none => Placement.run req
  | some _ => Guard.execute req.bidderId req.idempotencyKey (Placement.run req)

end Auction
