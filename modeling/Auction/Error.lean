/-!
# Business errors · coded outcomes and the faults around them

A `BidError` is a business outcome: a stable `ErrorCode` and a message for people. Its text is
`"<code>: <message>"`. Codes fall into three categories: `authorization` (only
`retractUnauthorized`), `conflict` (`concurrencyConflict` and `idempotencyInFlight`: the request
may be sent again) and `validation` (every other code, unknown ones included).

Every code has a standard error, `ErrorCode.standard`, with a fixed message; a business error
*matches* a standard error when their codes are equal, whatever the messages.

A `Fault` is anything an operation can end with: a business error, a version conflict of the
ledger, a cascade that ran past its bound, an injected failure, a JSON fault, or another fault
with a text of its own; `Fault.wrap` puts a context in front ("load auction book a-1: ...").
-/

namespace Auction

/-- The stable code of a business error. -/
inductive ErrorCode where
  | bidTooLow
  | invalidAmount
  | selfBidding
  | auctionNotLive
  | auctionNotFound
  | bidNotFound
  | autoBidNotFound
  | autoBidAlreadyActive
  | autoBidCancelled
  | alreadyRejected
  | retractWindowExpired
  | retractUnauthorized
  | concurrencyConflict
  | idempotencyInFlight
  /-- A code outside the list, kept by name (a stored outcome may carry any code). -/
  | other (name : String)
  deriving DecidableEq, Repr, Inhabited

namespace ErrorCode

/-- The codes with a standard error, in their fixed order. -/
def known : List ErrorCode :=
  [bidTooLow, invalidAmount, selfBidding, auctionNotLive, auctionNotFound, bidNotFound,
   autoBidNotFound, autoBidAlreadyActive, autoBidCancelled, alreadyRejected,
   retractWindowExpired, retractUnauthorized, concurrencyConflict, idempotencyInFlight]

/-- The name of a code. -/
def name : ErrorCode → String
  | bidTooLow => "BidTooLow"
  | invalidAmount => "InvalidAmount"
  | selfBidding => "SelfBidding"
  | auctionNotLive => "AuctionNotLive"
  | auctionNotFound => "AuctionNotFound"
  | bidNotFound => "BidNotFound"
  | autoBidNotFound => "AutoBidNotFound"
  | autoBidAlreadyActive => "AutoBidAlreadyActive"
  | autoBidCancelled => "AutoBidCancelled"
  | alreadyRejected => "AlreadyRejected"
  | retractWindowExpired => "RetractWindowExpired"
  | retractUnauthorized => "RetractUnauthorized"
  | concurrencyConflict => "ConcurrencyConflict"
  | idempotencyInFlight => "IdempotencyInFlight"
  | other n => n

/-- The code of a name: a known code by its exact name, any other name as `other`. -/
def ofName (n : String) : ErrorCode :=
  match known.find? (fun c => c.name == n) with
  | some c => c
  | none => other n

/-- The message of the standard error of a code. -/
def standardMessage : ErrorCode → String
  | bidTooLow => "bid is below the minimum next bid"
  | invalidAmount => "amount must be positive"
  | selfBidding => "seller cannot bid on own auction"
  | auctionNotLive => "auction is not open for bidding"
  | auctionNotFound => "auction not found"
  | bidNotFound => "bid not found"
  | autoBidNotFound => "auto-bid not found"
  | autoBidAlreadyActive => "an active auto-bid already exists for this auction"
  | autoBidCancelled => "auto-bid was cancelled"
  | alreadyRejected => "bid is not in a retractable state"
  | retractWindowExpired => "retraction window has expired"
  | retractUnauthorized => "caller does not own this bid"
  | concurrencyConflict => "auction is busy, resubmit the bid"
  | idempotencyInFlight => "a request with this idempotency key is still in progress"
  | other _ => ""

end ErrorCode

/-- The category of a business error. -/
inductive ErrorCategory where
  | validation
  | authorization
  | conflict
  deriving DecidableEq, Repr

/-- Number of a category, in the order validation, authorization, conflict. -/
def ErrorCategory.index : ErrorCategory → Nat
  | .validation => 0
  | .authorization => 1
  | .conflict => 2

/-- A business outcome with a stable code. -/
structure BidError where
  code : ErrorCode
  message : String
  deriving DecidableEq, Repr, Inhabited

namespace BidError

/-- Text of a business error. -/
def text (e : BidError) : String := e.code.name ++ ": " ++ e.message

/-- The category of the code. -/
def category (e : BidError) : ErrorCategory :=
  match e.code with
  | .retractUnauthorized => .authorization
  | .concurrencyConflict | .idempotencyInFlight => .conflict
  | _ => .validation

/-- The standard error of a code. -/
def standard (c : ErrorCode) : BidError := ⟨c, c.standardMessage⟩

/-- The known codes whose standard error this one matches (equal code). -/
def matchedCodes (e : BidError) : List ErrorCode := ErrorCode.known.filter (· == e.code)

end BidError

/-- How an operation can fail. -/
inductive Fault where
  /-- A business outcome. -/
  | bid (e : BidError)
  /-- The stored book moved on since it was loaded. -/
  | versionConflict
  /-- The auto-bid cascade did not settle within its bound of rounds. -/
  | cascadeBound (auction : String) (rounds : Nat) (responder : String)
  /-- A failure injected from outside, with the name of the step that failed. -/
  | injected (step : String)
  /-- A fault of JSON text or shape, with its wording. -/
  | json (text : String)
  /-- The request was cancelled or its time ran out. -/
  | cancelled (text : String)
  /-- Any other fault, with its wording. -/
  | other (text : String)
  /-- A fault with a context in front of it. -/
  | wrap (context : String) (inner : Fault)
  deriving Repr, Inhabited

namespace Fault

/-- The full text: contexts first, separated by `": "`. -/
def text : Fault → String
  | bid e => e.text
  | versionConflict => "auction book version conflict"
  | cascadeBound a n r =>
    s!"auto-bid cascade exceeded round bound: auction {a}, {n} rounds, responder {r}"
  | injected s => "injected failure: " ++ s
  | json t => t
  | cancelled t => t
  | other t => t
  | wrap c f => c ++ ": " ++ f.text

/-- The business error inside, if any. -/
def bidError? : Fault → Option BidError
  | bid e => some e
  | wrap _ f => f.bidError?
  | _ => none

/-- The innermost fault, under all contexts. -/
def root : Fault → Fault
  | wrap _ f => f.root
  | f => f

/-- Whether the fault is a business error outside the conflict category: an outcome that is
final for the request. -/
def isDecided (f : Fault) : Bool :=
  match f.bidError? with
  | some e => e.category != .conflict
  | none => false

end Fault

end Auction
