import Auction.Table
import Auction.House.Redis
import Auction.Error
import Auction.Time.Basic

/-!
# The idempotency store · reservations and stored outcomes

A key of the store is **reserved** while its request runs and **done** once the outcome was
stored. `reserve` takes a free key (absent, or past its time) and holds it for the lock time;
on a reserved key it fails with `idempotencyInFlight`, and on a done key it gives the stored
outcome back. `complete` stores an outcome for a time, `release` frees a reservation (a done
key stays).

In the process the store keeps one entry per key with the instant it expires at, on the
house clock: an entry is live while `now` is before it, and `purge` drops the others. On a
Redis server a reservation is the text `pending` written with `SET NX` and the lock time as
expiration, an outcome is its own text, and a release deletes the key only while it holds the
marker; the server is a parameter of these calls.
-/

namespace Auction

/-- An entry of the store in the process: the stored outcome once done. -/
structure StoreEntry where
  payload : Option String
  expiresAt : Instant
  deriving Inhabited, Repr

/-- The idempotency store in the process. -/
structure LocalStore where
  entries : Table StoreEntry
  deriving Inhabited

/-- What a reservation finds. -/
inductive Reservation where
  /-- The key is now held for this request. -/
  | reserved
  /-- The key holds a stored outcome. -/
  | stored (payload : String)
  deriving DecidableEq, Repr

/-- The fault of a key still held by another request. -/
def inFlight : Fault := .bid (BidError.standard .idempotencyInFlight)

namespace LocalStore

/-- An empty store. -/
def empty : LocalStore := ⟨Table.empty⟩

/-- Reserves a key at `now` for `lockTtl`. -/
def reserve (s : LocalStore) (key : String) (lockTtl : Duration) (now : Instant) :
    Except Fault (Reservation × LocalStore) :=
  match s.entries.find? key with
  | some e =>
    if now < e.expiresAt then
      match e.payload with
      | none => .error inFlight
      | some p => .ok (.stored p, s)
    else .ok (.reserved, ⟨s.entries.insert key ⟨none, now.add lockTtl⟩⟩)
  | none => .ok (.reserved, ⟨s.entries.insert key ⟨none, now.add lockTtl⟩⟩)

/-- Stores an outcome under a key for `ttl`. -/
def complete (s : LocalStore) (key payload : String) (ttl : Duration) (now : Instant) :
    LocalStore :=
  ⟨s.entries.insert key ⟨some payload, now.add ttl⟩⟩

/-- Frees a reservation; a stored outcome stays. -/
def release (s : LocalStore) (key : String) : LocalStore :=
  match s.entries.find? key with
  | some ⟨none, _⟩ => ⟨s.entries.erase key⟩
  | _ => s

/-- Drops the entries whose time is over at `now`; gives their number. -/
def purge (s : LocalStore) (now : Instant) : Nat × LocalStore :=
  let kept := s.entries.entries.filter fun (_, e) => decide (now < e.expiresAt)
  (s.entries.size - kept.length, ⟨⟨kept⟩⟩)

/-- The number of entries, expired ones included. -/
def size (s : LocalStore) : Nat := s.entries.size

end LocalStore

namespace SharedStore

/-- The text of a reservation on the server. -/
def pendingMarker : String := "pending"

variable {σ : Type} (srv : RedisServer σ)

/-- Reserves a key for `lockTtl`: writes the marker where nothing is, and otherwise reads what
holds the key. -/
def reserve (s : σ) (key : String) (lockTtl : Duration) : Except Fault (Reservation × σ) :=
  let (wrote, s) := srv.setIfAbsent s key pendingMarker lockTtl
  if wrote then .ok (.reserved, s)
  else
    match srv.get s key with
    | .error e => .error (.other e)
    | .ok none => .error inFlight
    | .ok (some p) => if p == pendingMarker then .error inFlight else .ok (.stored p, s)

/-- Stores an outcome under a key for `ttl`. -/
def complete (s : σ) (key payload : String) (ttl : Duration) : σ := srv.set s key payload ttl

/-- Frees a reservation; a stored outcome stays. -/
def release (s : σ) (key : String) : σ :=
  match srv.get s key with
  | .ok (some p) => if p == pendingMarker then srv.delete s key else s
  | _ => s

end SharedStore

end Auction
