import Auction.Table
import Auction.House.Redis

/-!
# A Redis server in the process

The scenarios run the shared stores against a Redis server held in the process, as the
service's own tests run its Redis adapters against an in-memory server. A key holds a text or a
hash of text fields, and may expire. The server keeps its own clock, which only moves forward;
a key with an expiry is there while the clock is before it, and a key written twice reads as its
first entry that is still there. Reading a key as the other kind of value is a fault
(`wrongType`).

`KeyValue.redis` is this server as the service reaches it through the client library: an
expiration is sent in whole milliseconds, at least one, and one of zero or less is sent as none
(`KeyValue.lifetime`). It keeps the laws of `RedisServer.HashLaws` and
`RedisServer.ExpiryLaws`, so what the library proves of every lawful server holds of the runs the
scenarios make.
-/

namespace Auction

/-- A value held under a key. -/
inductive Stored where
  | text (s : String)
  | hash (fields : Table String)
  deriving Inhabited, Repr

/-- A key's value and the server time it expires at, if it does. -/
structure Slot where
  value : Stored
  expiresAt : Option Int
  deriving Inhabited, Repr

/-- Whether a slot is still there at server time `clock`. -/
def Slot.lasts (sl : Slot) (clock : Int) : Bool :=
  match sl.expiresAt with
  | some e => decide (clock < e)
  | none => true

/-- The state of the key-value server. -/
structure KeyValue where
  /-- Server time in nanoseconds; it never moves back. -/
  clock : Int
  slots : Table Slot
  deriving Inhabited, Repr

namespace KeyValue

/-- The fault of reading a key as the wrong kind of value. -/
def wrongType : String := "WRONGTYPE Operation against a key holding the wrong kind of value"

/-- An empty server. -/
def empty : KeyValue := ⟨0, Table.empty⟩

/-- The value of a key at server time `clock`: that of its first entry still there then. -/
def valueAt (kv : KeyValue) (clock : Int) (k : String) : Option Stored :=
  (kv.slots.findWhere? k (·.lasts clock)).map (·.value)

/-- The live value of a key. -/
def lookup (kv : KeyValue) (k : String) : Option Stored := kv.valueAt kv.clock k

/-- Drops the keys whose time is over. -/
def purge (kv : KeyValue) : KeyValue :=
  { kv with slots := ⟨kv.slots.entries.filter fun e => e.2.lasts kv.clock⟩ }

/-- Moves the server clock forward by `d` nanoseconds; a step back is ignored. -/
def advance (kv : KeyValue) (d : Int) : KeyValue :=
  if d > 0 then purge { kv with clock := kv.clock + d } else kv

/-- The text under a key. -/
def get (kv : KeyValue) (k : String) : Except String (Option String) :=
  match kv.lookup k with
  | none => .ok none
  | some (.text s) => .ok (some s)
  | some (.hash _) => .error wrongType

/-- Writes a text under a key, with a lifetime in nanoseconds or none. -/
def set (kv : KeyValue) (k v : String) (ttl : Option Int) : KeyValue :=
  let kv := purge kv
  { kv with slots := kv.slots.insert k ⟨.text v, ttl.map (kv.clock + ·)⟩ }

/-- Writes a text under a key that holds nothing; tells whether it wrote. -/
def setIfAbsent (kv : KeyValue) (k v : String) (ttl : Option Int) : Bool × KeyValue :=
  match kv.lookup k with
  | some _ => (false, kv)
  | none => (true, kv.set k v ttl)

/-- Removes a key. -/
def delete (kv : KeyValue) (k : String) : KeyValue := { kv with slots := kv.slots.erase k }

/-- A field of the hash under a key. -/
def hget (kv : KeyValue) (k f : String) : Except String (Option String) :=
  match kv.lookup k with
  | none => .ok none
  | some (.hash fs) => .ok (fs.find? f)
  | some (.text _) => .error wrongType

/-- Writes a field of the hash under a key, creating the hash; the lifetime stays. -/
def hset (kv : KeyValue) (k f v : String) : Except String KeyValue :=
  let kv := purge kv
  match kv.slots.find? k with
  | none => .ok { kv with slots := kv.slots.insert k ⟨.hash (Table.empty.insert f v), none⟩ }
  | some ⟨.hash fs, e⟩ => .ok { kv with slots := kv.slots.insert k ⟨.hash (fs.insert f v), e⟩ }
  | some ⟨.text _, _⟩ => .error wrongType

/-- Writes a text under a key directly, as the server's own interface does: the key's lifetime
is dropped, and a key holding a hash refuses. -/
def put (kv : KeyValue) (k v : String) : Except String KeyValue :=
  let kv := purge kv
  match kv.slots.find? k with
  | some ⟨.hash _, _⟩ => .error wrongType
  | _ => .ok (kv.set k v none)

/-- Writes a hash field directly, as the server's own interface does: a key holding a text is
replaced by a new hash. -/
def hput (kv : KeyValue) (k f v : String) : KeyValue :=
  let kv := purge kv
  match kv.slots.find? k with
  | some ⟨.hash fs, e⟩ => { kv with slots := kv.slots.insert k ⟨.hash (fs.insert f v), e⟩ }
  | _ => { kv with slots := kv.slots.insert k ⟨.hash (Table.empty.insert f v), none⟩ }

/-- The lifetime the client gives the server for an expiration: none for one of zero or less,
otherwise whole milliseconds, at least one. -/
def lifetime (d : Duration) : Option Int :=
  if d.ns ≤ 0 then none
  else if d.ns < 1000000 then some 1000000
  else some (d.ns / 1000000 * 1000000)

/-- The server as the service reaches it through the client library. -/
def redis : RedisServer KeyValue where
  hget := hget
  hset := hset
  get := get
  set kv k v ttl := kv.set k v (lifetime ttl)
  setIfAbsent kv k v ttl := kv.setIfAbsent k v (lifetime ttl)
  delete := delete
  elapse := advance

end KeyValue

end Auction
