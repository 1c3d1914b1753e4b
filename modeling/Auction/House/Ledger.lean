import Auction.Book.Json
import Auction.Table
import Auction.Text
import Auction.House.Redis

/-!
# The ledger · where books are stored, with compare-and-swap

The ledger keeps the latest book of every auction and two indexes from bid and auto-bid ids to
their auction. A `BookChange` is written only when the stored version still equals the
version the change was computed from (a book never written counts as version 0); otherwise the
write is refused with `Fault.versionConflict` and nothing changes. A successful write also
records the new ids in the indexes; ids are never removed from them.

There are two stores: one in the process (`Ledger`), and one on a Redis server given as a
parameter (`SharedLedger`), where a book is a hash with its version and its JSON text, under
`bidbook:<auction>`, and the indexes are the hashes `bidbook:index:bids` and
`bidbook:index:autobids`.
-/

namespace Auction

/-- A book to write, the version it was computed from, and the ids it adds. -/
structure BookChange where
  book : Book
  expected : Int
  newBidIds : List String
  newAutoBidIds : List String

/-- The books of all auctions, with the id indexes. -/
structure Ledger where
  books : Table Book
  bidIndex : Table String
  autoBidIndex : Table String
  deriving Inhabited

namespace Ledger

/-- An empty ledger. -/
def empty : Ledger := ⟨Table.empty, Table.empty, Table.empty⟩

/-- The stored book of an auction, if it was ever written. -/
def stored? (l : Ledger) (auctionId : String) : Option Book := l.books.find? auctionId

/-- The book of an auction: the stored one, or a fresh empty one. -/
def load (l : Ledger) (auctionId : String) : Book := (l.stored? auctionId).getD (Book.empty auctionId)

/-- The version a change must have been computed from. -/
def storedVersion (l : Ledger) (auctionId : String) : Int :=
  ((l.stored? auctionId).map (·.version)).getD 0

/-- Writes a change when the stored version is the expected one. -/
def commit (l : Ledger) (c : BookChange) : Except Fault Ledger :=
  let id := c.book.auctionId
  if l.storedVersion id != c.expected then .error .versionConflict
  else .ok
    { books := l.books.insert id c.book,
      bidIndex := c.newBidIds.foldl (fun t b => t.insert b id) l.bidIndex,
      autoBidIndex := c.newAutoBidIds.foldl (fun t a => t.insert a id) l.autoBidIndex }

/-- An auction never written loads the empty book. -/
theorem load_of_stored?_eq_none {l : Ledger} {auctionId : String}
    (h : l.stored? auctionId = none) : l.load auctionId = Book.empty auctionId := by
  simp [load, h]

/-- The stored version is the version of the book a load hands out. -/
theorem storedVersion_eq (l : Ledger) (auctionId : String) :
    l.storedVersion auctionId = (l.load auctionId).version := by
  unfold storedVersion load
  cases l.stored? auctionId <;> rfl

/-- A commit that lands found the expected version stored; it stores the change's book under
its auction and leaves the book of every other auction as it was. -/
theorem commit_eq_ok {l l' : Ledger} {c : BookChange} (h : l.commit c = .ok l') :
    l.storedVersion c.book.auctionId = c.expected ∧
      ∀ k, l'.stored? k = if k = c.book.auctionId then some c.book else l.stored? k := by
  unfold commit at h
  dsimp only at h
  split at h
  · cases h
  · rename_i hv
    cases h
    refine ⟨by simpa using hv, fun k => ?_⟩
    simp only [stored?, Table.find?_insert]

/-- A commit is refused only as a version conflict, when the stored version is not the
expected one. -/
theorem commit_eq_error {l : Ledger} {c : BookChange} {f : Fault} (h : l.commit c = .error f) :
    f = .versionConflict ∧ l.storedVersion c.book.auctionId ≠ c.expected := by
  unfold commit at h
  dsimp only at h
  split at h
  · rename_i hv
    cases h
    exact ⟨rfl, by simpa using hv⟩
  · cases h

/-- The auction of a bid id. -/
def findBidAuction (l : Ledger) (bidId : String) : Except Fault String :=
  match l.bidIndex.find? bidId with
  | some a => .ok a
  | none => .error (.bid (BidError.standard .bidNotFound))

/-- The auction of an auto-bid id. -/
def findAutoBidAuction (l : Ledger) (autoBidId : String) : Except Fault String :=
  match l.autoBidIndex.find? autoBidId with
  | some a => .ok a
  | none => .error (.bid (BidError.standard .autoBidNotFound))

end Ledger

/-! ## The ledger on a Redis server -/

namespace SharedLedger

/-- The key of the hash of an auction book. -/
def bookKey (auctionId : String) : String := "bidbook:" ++ auctionId

/-- The key of the bid index. -/
def bidIndexKey : String := "bidbook:index:bids"

/-- The key of the auto-bid index. -/
def autoBidIndexKey : String := "bidbook:index:autobids"

variable {σ : Type} (srv : RedisServer σ)

/-- The stored book of an auction, or `none` when there is no book text. -/
def stored? (s : σ) (auctionId : String) : Except Fault (Option Book) := do
  let version ← (srv.hget s (bookKey auctionId) "version").mapError Fault.other
  let data ← (srv.hget s (bookKey auctionId) "data").mapError Fault.other
  match data with
  | none => pure none
  | some text =>
    let parsed : Except Fault Json.Parsed := (Json.read text).mapError (Fault.json ·.message)
    let (book, _) ← (parsed.bind Book.decode).mapError (Fault.wrap ("decode book " ++ auctionId))
    match version with
    | none => pure (some book)
    | some raw =>
      match IntText.parse 64 raw with
      | .ok v => pure (some { book with version := v })
      | e => throw (.other ("parse book version " ++ Text.quote raw ++ ": " ++
          IntText.message "ParseInt" raw e))

/-- The book of an auction: the stored one, or a fresh empty one. -/
def load (s : σ) (auctionId : String) : Except Fault Book := do
  pure ((← stored? srv s auctionId).getD (Book.empty auctionId))

/-- Writes a change when the stored version text is the expected version, as one script: the
version and the JSON text of the book, then the new ids into the indexes. A book without a JSON
form is refused before anything is read. -/
def commit (s : σ) (c : BookChange) : Except Fault σ := do
  let id := c.book.auctionId
  if let some r := c.book.toJson.failure? then throw (.other ("encode book " ++ id ++ ": " ++ r))
  let current ← (srv.hget s (bookKey id) "version").mapError Fault.other
  if current.getD "0" != toString c.expected then throw .versionConflict
  let s ← (srv.hset s (bookKey id) "version" (toString c.book.version)).mapError Fault.other
  let s ← (srv.hset s (bookKey id) "data" c.book.toJson.render).mapError Fault.other
  let s ← c.newBidIds.foldlM (fun s b => (srv.hset s bidIndexKey b id).mapError Fault.other) s
  c.newAutoBidIds.foldlM (fun s a => (srv.hset s autoBidIndexKey a id).mapError Fault.other) s

/-- The auction of a bid id. -/
def findBidAuction (s : σ) (bidId : String) : Except Fault String :=
  match srv.hget s bidIndexKey bidId with
  | .ok (some a) => .ok a
  | .ok none => .error (.bid (BidError.standard .bidNotFound))
  | .error e => .error (.other e)

/-- The auction of an auto-bid id. -/
def findAutoBidAuction (s : σ) (autoBidId : String) : Except Fault String :=
  match srv.hget s autoBidIndexKey autoBidId with
  | .ok (some a) => .ok a
  | .ok none => .error (.bid (BidError.standard .autoBidNotFound))
  | .error e => .error (.other e)

end SharedLedger

end Auction
