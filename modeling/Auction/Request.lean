import Auction.Json.Decode
import Auction.Decimal.Text
import Auction.Time.Parse
import Auction.Listing

/-!
# Reading requests

A request is a JSON object read into a record of the operation it names, as `Json.Decode`
reads records: a member is matched to a field by its name, exactly or else up to case; members
of no field are skipped; `null` leaves a field as it was, so an optional field given as `null`
counts as missing. A value of the wrong kind for its field makes the request malformed: it is
answered as an input error, `bad request: ` and the mismatch, which names the field's path. The
operation itself is read first (`Head`), and a line whose `op` is not a text is answered
`bad request line: ` and the mismatch, as a line that is not JSON is.

Amounts and times travel as texts and are read when the operation needs them: a text that is
not a decimal is `bad decimal "text": why`, and one that is not an RFC 3339 time is
`bad time "text": why`. A time is taken in UTC.

An auction record (`ListingInput`) fills the members it lacks relative to a moment `now`: it
opened an hour before, closes an hour after, is active, is sold by `seller`, and has no reserve
price. A member that is given, even as empty text, is read as given.
-/

namespace Auction

namespace Request

open Json

/-- An amount written as text. -/
def decimal (text : String) : Except String Decimal :=
  match Decimal.parse text with
  | .ok d => .ok d
  | .error e => .error ("bad decimal " ++ Text.quote text ++ ": " ++ e.message)

/-- A time written as RFC 3339 text, taken in UTC. -/
def time (text : String) : Except String Instant :=
  match Instant.parse text with
  | .ok t => .ok t.utc
  | .error e => .error ("bad time " ++ Text.quote text ++ ": " ++ e.messageFor rfc3339NanoPattern)

/-- A time written as text, or `fallback` when the text is empty. -/
def timeOr (text : String) (fallback : Instant) : Except String Instant :=
  if text.isEmpty then .ok fallback else time text

/-- Reads a value into a record whose type is named `root` in messages, starting from `blank`;
a mismatch is reported with `what` in front. -/
def readAs {α : Type} (what root : String) (reader : α → Reader α) (blank : α) (j : Parsed) :
    Except String α :=
  match decodeParsed root reader blank j with
  | .ok a => .ok a
  | .error f => .error (what ++ ": " ++ f.text)

/-- Reads a request into the record of its operation, starting from `blank`. -/
def read {α : Type} (reader : α → Reader α) (blank : α) (j : Parsed) : Except String α :=
  readAs "bad request" "" reader blank j

/-- Text fields. -/
def text (current : String) : Reader String := textReader "string" current

/-- Text fields that may be missing. -/
def optionalText (current : Option String) : Reader (Option String) :=
  optionReader "" text current

/-- Fields of wire type `int`. -/
def int (current : Int) : Reader Int := integerReader "int" current

/-- Lists of texts; `null` is no list. -/
def texts (current : Option (List String)) : Reader (Option (List String)) :=
  listReader "[]string" text "" current

/-- The operation a request names in `op`. -/
structure Head where
  op : String := ""

/-- Reads the operation a request names. -/
def Head.reader : Head → Reader Head :=
  recordReader "struct \x7b Op string \"json:\\\"op\\\"\" \x7d"
    [.of "op" (·.op) (fun _ v => ⟨v⟩) text]

end Request

/-- An auction record as a request gives it: each member but the id may be missing. -/
structure ListingInput where
  id : String := ""
  sellerId : Option String := none
  startTime : Option String := none
  endTime : Option String := none
  status : Option Int := none
  reservePrice : Option String := none
  deriving Inhabited

namespace ListingInput

open Json

/-- Reads an auction record. -/
def reader : ListingInput → Reader ListingInput :=
  recordReader "main.auctionIn"
    [.of "id" (·.id) (fun r v => { r with id := v }) Request.text,
     .of "seller_id" (·.sellerId) (fun r v => { r with sellerId := v }) Request.optionalText,
     .of "start_time" (·.startTime) (fun r v => { r with startTime := v }) Request.optionalText,
     .of "end_time" (·.endTime) (fun r v => { r with endTime := v }) Request.optionalText,
     .of "status" (·.status) (fun r v => { r with status := v }) (optionReader 0 Request.int),
     .of "reserve_price" (·.reservePrice) (fun r v => { r with reservePrice := v })
       Request.optionalText]

/-- Lists of auction records; `null` is no list, and a `null` record is an empty one. -/
def listReader (current : Option (List ListingInput)) : Reader (Option (List ListingInput)) :=
  Json.listReader "[]main.auctionIn" reader {} current

/-- An hour. -/
def hour : Duration := ⟨3600000000000⟩

/-- The auction a record describes, with the members it lacks filled in relative to `now`. -/
def listing (r : ListingInput) (now : Instant) : Except String Listing := do
  let start ← match r.startTime with
    | some t => Request.time t
    | none => pure (now.add ⟨-hour.ns⟩)
  let stop ← match r.endTime with
    | some t => Request.time t
    | none => pure (now.add hour)
  let reserve ← match r.reservePrice with
    | some t => Request.decimal t
    | none => pure 0
  pure { id := r.id, sellerId := r.sellerId.getD "seller", startTime := start, endTime := stop,
         status := ListingStatus.ofCode (r.status.getD 1), reservePrice := reserve }

end ListingInput

end Auction
