import Auction.Time.Basic

/-!
# The Redis server the shared stores talk to

The shared ledger, the shared idempotency store and the status cache keep their state on a
Redis server, reached through its client library. They use a handful of commands, each of which
the server runs as one atomic step:

* `HGET key field` and `HSET key field value` on hashes. The ledger reads the two fields of a
  book with one `HMGET`, which reads them as two `HGET`s of one state; its commit is a Lua
  script, one atomic run of the `HGET` and the `HSET`s it makes.
* `GET key`, `SET key value` and `SET key value NX` with an expiration, and `DEL key`, on texts.
  The store's release is a Lua script of one `GET` and one `DEL`.
* Time passing, which expires keys.

`RedisServer σ` is that set of commands over server states `σ`, each expiration given as the
client is given it. Nothing here fixes what a server does. What the service assumes of Redis is
stated apart, as laws a server may keep, one documented field per law: `HashLaws` for the hash
commands and `ExpiryLaws` for texts and their expiry. The theorems about the shared ledger and
the shared store take a server and the laws they rely on as hypotheses.
-/

namespace Auction

/-- The commands of a Redis server whose states are `σ`, each one atomic step. A read may fail
with the server's error text, as it does on a key holding the other kind of value. -/
structure RedisServer (σ : Type) where
  /-- `HGET key field`: a field of the hash under a key, or nothing. -/
  hget : σ → String → String → Except String (Option String)
  /-- `HSET key field value`: writes one field of the hash under a key, making the hash when the
  key holds nothing. -/
  hset : σ → String → String → String → Except String σ
  /-- `GET key`: the text under a key, or nothing. -/
  get : σ → String → Except String (Option String)
  /-- `SET key value` with the expiration the client was given. -/
  set : σ → String → String → Duration → σ
  /-- `SET key value NX` with an expiration: writes only under a key that holds nothing, and
  tells whether it wrote. -/
  setIfAbsent : σ → String → String → Duration → Bool × σ
  /-- `DEL key`. -/
  delete : σ → String → σ
  /-- The server a number of nanoseconds later. -/
  elapse : σ → Int → σ

namespace RedisServer

variable {σ : Type} (srv : RedisServer σ)

/-- `HGET` and `HSET` as Redis documents them. -/
structure HashLaws : Prop where
  /-- After a write, the written field of the written key reads the value written, and every
  other field and key reads as before. -/
  hget_hset : ∀ {s s' : σ} {k f v : String}, srv.hset s k f v = .ok s' →
    ∀ k' f', srv.hget s' k' f' = if k' = k ∧ f' = f then .ok (some v) else srv.hget s k' f'
  /-- A key that a read finds holding a hash or nothing takes a write. -/
  hset_ok : ∀ {s : σ} {k f₀ : String} {x : Option String}, srv.hget s k f₀ = .ok x →
    ∀ f v, ∃ s', srv.hset s k f v = .ok s'

/-- A duration the client sends as it is: a whole number of milliseconds. -/
def WholeMillis (d : Duration) : Prop := d.ns % 1000000 = 0

instance (d : Duration) : Decidable (WholeMillis d) := inferInstanceAs (Decidable (_ = _))

/-- `GET`, `SET`, `SET NX` and `DEL` with expiry, as Redis and its client document them, each
read some time `e ≥ 0` after the command. -/
structure ExpiryLaws : Prop where
  /-- No time passing changes nothing a read sees. -/
  get_elapse_zero : ∀ s k, srv.get (srv.elapse s 0) k = srv.get s k
  /-- Time passes in steps: two waits read as one. -/
  get_elapse_elapse : ∀ s k {d e : Int}, 0 ≤ d → 0 ≤ e →
    srv.get (srv.elapse (srv.elapse s d) e) k = srv.get (srv.elapse s (d + e)) k
  /-- A text written with a positive expiration reads back until the expiration has elapsed and
  never after; with an expiration of zero or less the client sets none, and it stays. -/
  get_set : ∀ s k v {ttl : Duration} {e : Int}, WholeMillis ttl → 0 ≤ e →
    srv.get (srv.elapse (srv.set s k v ttl) e) k =
      .ok (if ttl.ns ≤ 0 ∨ e < ttl.ns then some v else none)
  /-- A write leaves every other key as it was. -/
  get_set_of_ne : ∀ s k v ttl {k' : String} {e : Int}, 0 ≤ e → k' ≠ k →
    srv.get (srv.elapse (srv.set s k v ttl) e) k' = srv.get (srv.elapse s e) k'
  /-- A removed key reads as nothing, and every other key as before. -/
  get_delete : ∀ s k k' {e : Int}, 0 ≤ e →
    srv.get (srv.elapse (srv.delete s k) e) k' =
      if k' = k then .ok none else srv.get (srv.elapse s e) k'
  /-- With a positive expiration, `SET NX` writes exactly when a read finds the key holding
  nothing. -/
  setIfAbsent_eq : ∀ s k v {ttl : Duration}, 0 < ttl.ns →
    srv.setIfAbsent s k v ttl =
      match srv.get s k with
      | .ok none => (true, srv.set s k v ttl)
      | _ => (false, s)

end RedisServer

end Auction
