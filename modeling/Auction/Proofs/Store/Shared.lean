import Auction.Proofs.Store.Expiry
import Auction.Proofs.Server

/-!
# The store on a Redis server against the store in the process

On a Redis server a reservation is the text `pending` under its key, written with `SET NX` and the
lock time as expiration, and an outcome is its own text. The server is a parameter: what is
proved here holds of every server that keeps `RedisServer.ExpiryLaws`. A key written with a
positive expiration reads back until it has elapsed and never after, one written with an
expiration of zero or less stays, `SET NX` writes exactly where a read finds nothing, and a
removed key reads as nothing.

Driven through the same timed calls (`SharedStore.callAt` first moves the server on by the time
since the call before), the two stores answer alike as long as every lock time and every time an
outcome is kept for is a positive whole number of milliseconds and no outcome is the marker's
own text (`stores_answer_alike_for_positive_ttls`).

The proof is a simulation. `SharedStore.Mirrors srv now l s` says that a read of the server, now
or at any later time, finds the text of the entry live in the store in the process at that time,
and that no live outcome is the marker's text. Time moving forward keeps it
(`SharedStore.Mirrors.elapse`, since two waits read as one), and each call answers alike and
keeps it (`SharedStore.Mirrors.call`): a reservation decides by what a read finds, on both sides
(`LocalStore.reserve_eq`, `SharedStore.reserve_of_get`), and a release frees only a live
reservation, on both sides.

A time of zero or less parts the stores: the store in the process keeps the outcome until an
instant already past, while the client sends no expiry and the server keeps it for good. A
result stored for zero milliseconds is therefore replaced by a new reservation in the process
and handed back by every lawful server (`SharedStore.zero_ttl_outcome_is_handed_back`). On both
stores a release never drops a stored outcome.
-/

namespace Auction

namespace StoreCall

/-- The time a call sets: a reservation's lock time, or the time an outcome is kept for. -/
def ttl? : StoreCall → Option Duration
  | .reserve _ lockTtl => some lockTtl
  | .complete _ _ ttl => some ttl
  | .release _ => none

/-- The outcome text a call stores. -/
def payload? : StoreCall → Option String
  | .complete _ payload _ => some payload
  | _ => none

/-- The times a call sets are positive whole numbers of milliseconds, and the outcome it stores
is not the marker of a reservation. -/
def Proper (c : StoreCall) : Prop :=
  (∀ d ∈ c.ttl?, 0 < d.ns ∧ 1000000 ∣ d.ns) ∧ c.payload? ≠ some SharedStore.pendingMarker

instance (c : StoreCall) : Decidable c.Proper := inferInstanceAs (Decidable (_ ∧ _))

end StoreCall

namespace SharedStore

section Calls

variable {σ : Type} (srv : RedisServer σ)

/-- A call on the server. A refused reservation changes nothing; completing and freeing answer
nothing. -/
def call (s : σ) : StoreCall → Except Fault (Option Reservation) × σ
  | .reserve k lockTtl =>
    match reserve srv s k lockTtl with
    | .ok (r, s') => (.ok (some r), s')
    | .error f => (.error f, s)
  | .complete k payload ttl => (.ok none, complete srv s k payload ttl)
  | .release k => (.ok none, release srv s k)

/-- A call at `now` on the server as the call before left it at its own time: the server first
moves on by the time between. -/
def callAt (p : σ × Instant) (now : Instant) (c : StoreCall) :
    Except Fault (Option Reservation) × (σ × Instant) :=
  let r := call srv (srv.elapse p.1 (now.ns - p.2.ns)) c
  (r.1, (r.2, now))

end Calls

/-- How an entry of the store in the process reads on the server: a reservation as the marker,
an outcome as its text. -/
def textOf (e : StoreEntry) : String := e.payload.getD pendingMarker

variable {σ : Type} {srv : RedisServer σ}

/-- With a positive lock time, a reservation on a lawful server decides by what a read of its key
finds. -/
theorem reserve_of_get (hlaws : srv.ExpiryLaws) (s : σ) (k : String) {lockTtl : Duration}
    (hpos : 0 < lockTtl.ns) :
    reserve srv s k lockTtl =
      match srv.get s k with
      | .ok none => .ok (.reserved, srv.set s k pendingMarker lockTtl)
      | .ok (some p) => if p == pendingMarker then .error inFlight else .ok (.stored p, s)
      | .error e => .error (.other e) := by
  unfold reserve
  rw [hlaws.setIfAbsent_eq s k pendingMarker hpos]
  rcases hget : srv.get s k with e | _ | p <;> simp [hget]

/-- A release on the server keeps every outcome other than the marker. -/
theorem release_of_outcome {s : σ} {k p : String} (hget : srv.get s k = .ok (some p))
    (hp : p ≠ pendingMarker) : release srv s k = s := by
  simp [release, hget, hp]

/-- An outcome completed with a time of zero or less is handed back to a later reservation of
its key by every lawful server, however much time has passed. -/
theorem zero_ttl_outcome_is_handed_back (hlaws : srv.ExpiryLaws) (s : σ) {k p : String}
    (hp : p ≠ pendingMarker) {ttl lockTtl : Duration} (httl : ttl.ns ≤ 0)
    (hms : RedisServer.WholeMillis ttl) (hpos : 0 < lockTtl.ns) {e : Int} (he : 0 ≤ e) :
    (call srv (srv.elapse (complete srv s k p ttl) e) (.reserve k lockTtl)).1 =
      .ok (some (.stored p)) := by
  have hget : srv.get (srv.elapse (complete srv s k p ttl) e) k = .ok (some p) := by
    rw [complete, hlaws.get_set s k p hms he, if_pos (.inl httl)]
  simp [call, reserve_of_get hlaws _ k hpos, hget, hp]

/-- The server mirrors the store in the process at `now`. -/
structure Mirrors (srv : RedisServer σ) (now : Instant) (l : LocalStore) (s : σ) : Prop where
  /-- A read, now or later, finds the text of the entry live in the store at that time. -/
  reads : ∀ (t : Instant) (k : String), now ≤ t →
    srv.get (srv.elapse s (t.ns - now.ns)) k = .ok ((l.liveAt t k).map textOf)
  /-- No live outcome is the marker's text. -/
  payloads : ∀ k e, l.liveAt now k = some e → e.payload ≠ some pendingMarker

namespace Mirrors

variable {now : Instant} {l : LocalStore} {s : σ}

/-- A server that reads as empty, now and later, mirrors the empty store. -/
theorem empty (hempty : ∀ k e, 0 ≤ e → srv.get (srv.elapse s e) k = .ok none) (now : Instant) :
    Mirrors srv now LocalStore.empty s :=
  ⟨fun t k ht => hempty k _ (Int.sub_nonneg.mpr (Instant.le_iff_ns.mp ht)), fun _ _ h => by
    cases h⟩

/-- A read now finds the text of the live entry. -/
theorem read (h : Mirrors srv now l s) (hlaws : srv.ExpiryLaws) (k : String) :
    srv.get s k = .ok ((l.liveAt now k).map textOf) := by
  have hnow := h.reads now k (Instant.le_iff_ns.mpr (Int.le_refl _))
  rwa [Int.sub_self, hlaws.get_elapse_zero] at hnow

/-- The server mirrors every store with the same live entries. -/
theorem of_alike (h : Mirrors srv now l s) {l' : LocalStore} (hs : Alike now l' l) :
    Mirrors srv now l' s :=
  ⟨fun t k ht => by rw [hs.mono ht k]; exact h.reads t k ht,
    fun k e he => h.payloads k e ((hs k).symm.trans he)⟩

/-- A live outcome is never the marker's text. -/
theorem outcome_ne_marker (h : Mirrors srv now l s) {k p : String} {x : Instant}
    (hk : l.liveAt now k = some ⟨some p, x⟩) : p ≠ pendingMarker :=
  fun hp => h.payloads k _ hk (by rw [hp])

/-- Time moving forward on both sides keeps the mirror. -/
theorem elapse (h : Mirrors srv now l s) (hlaws : srv.ExpiryLaws) {t : Instant} (ht : now ≤ t) :
    Mirrors srv t l (srv.elapse s (t.ns - now.ns)) := by
  have hnt := Instant.le_iff_ns.mp ht
  refine ⟨fun t' k ht' => ?_, fun k e he => h.payloads k e (LocalStore.liveAt_earlier ht he)⟩
  have htt' := Instant.le_iff_ns.mp ht'
  rw [hlaws.get_elapse_elapse _ _ (by omega) (by omega),
    show t.ns - now.ns + (t'.ns - t.ns) = t'.ns - now.ns by omega]
  exact h.reads t' k (Instant.le_iff_ns.mpr (by omega))

/-- Writing an entry on both sides, to last the same positive time, keeps the mirror. -/
theorem write (h : Mirrors srv now l s) (hlaws : srv.ExpiryLaws) (k : String) {ttl : Duration}
    (hpos : 0 < ttl.ns) (hms : RedisServer.WholeMillis ttl) (payload : Option String)
    (hpayload : payload ≠ some pendingMarker) :
    Mirrors srv now ⟨l.entries.insert k ⟨payload, now.add ttl⟩⟩
      (srv.set s k (payload.getD pendingMarker) ttl) := by
  refine ⟨fun t k' ht => ?_, fun k' e he => ?_⟩
  · have hle := Instant.le_iff_ns.mp ht
    rw [LocalStore.liveAt_insert]
    by_cases hk : k' = k
    · subst hk
      rw [hlaws.get_set _ _ _ hms (by omega), if_pos rfl]
      have hlive : (t < now.add ttl) ↔ (ttl.ns ≤ 0 ∨ t.ns - now.ns < ttl.ns) := by
        rw [Instant.lt_iff_ns, Instant.add_ns]
        omega
      by_cases hl : t < now.add ttl
      · simp [Option.filter_some, hl, hlive.mp hl, textOf]
      · have hl' : ¬ (ttl.ns ≤ 0 ∨ t.ns - now.ns < ttl.ns) := fun h' => hl (hlive.mpr h')
        simp [Option.filter_some, hl, hl']
    · rw [hlaws.get_set_of_ne _ _ _ _ (by omega) hk, if_neg hk]
      exact h.reads t k' ht
  · rw [LocalStore.liveAt_insert] at he
    split at he
    · cases Option.some.inj (Option.filter_eq_some_iff.mp he).1
      exact hpayload
    · exact h.payloads k' e he

/-- A reservation answers alike on both sides and keeps the mirror. -/
theorem reserve (h : Mirrors srv now l s) (hlaws : srv.ExpiryLaws) (k : String)
    {lockTtl : Duration} (hpos : 0 < lockTtl.ns) (hms : RedisServer.WholeMillis lockTtl) :
    (l.call now (.reserve k lockTtl)).1 = (call srv s (.reserve k lockTtl)).1 ∧
      Mirrors srv now (l.call now (.reserve k lockTtl)).2 (call srv s (.reserve k lockTtl)).2 := by
  have hread := h.read hlaws k
  rcases hk : l.liveAt now k with _ | ⟨_ | p, x⟩ <;> rw [hk] at hread <;>
    simp only [LocalStore.call, call, LocalStore.reserve_eq, reserve_of_get hlaws _ _ hpos, hk,
      hread, Option.map_none, Option.map_some, textOf, Option.getD_none, Option.getD_some,
      beq_self_eq_true, if_true, true_and]
  · exact h.write hlaws k hpos hms none (by simp)
  · exact h
  · rw [if_neg (by simpa using h.outcome_ne_marker hk)]
    exact ⟨rfl, h⟩

/-- A completion answers alike on both sides and keeps the mirror. -/
theorem complete (h : Mirrors srv now l s) (hlaws : srv.ExpiryLaws) (k payload : String)
    {ttl : Duration} (hpos : 0 < ttl.ns) (hms : RedisServer.WholeMillis ttl)
    (hpayload : payload ≠ pendingMarker) :
    (l.call now (.complete k payload ttl)).1 = (call srv s (.complete k payload ttl)).1 ∧
      Mirrors srv now (l.call now (.complete k payload ttl)).2
        (call srv s (.complete k payload ttl)).2 :=
  ⟨rfl, h.write hlaws k hpos hms (some payload) (by simpa using hpayload)⟩

/-- A release answers alike on both sides and keeps the mirror. -/
theorem release (h : Mirrors srv now l s) (hlaws : srv.ExpiryLaws) (k : String) :
    (l.call now (.release k)).1 = (call srv s (.release k)).1 ∧
      Mirrors srv now (l.call now (.release k)).2 (call srv s (.release k)).2 := by
  refine ⟨rfl, ?_⟩
  have hread := h.read hlaws k
  rcases hk : l.liveAt now k with _ | ⟨_ | p, x⟩ <;> rw [hk] at hread <;>
    simp only [LocalStore.call, call, SharedStore.release, hread, Option.map_none,
      Option.map_some, textOf, Option.getD_none, Option.getD_some]
  · exact h.of_alike (alike_release (by simp [hk]))
  · simp only [beq_self_eq_true, if_true]
    refine ⟨fun t k' ht => ?_, fun k' e he => h.payloads k' e (LocalStore.liveAt_of_release he)⟩
    rw [hlaws.get_delete _ _ _ (Int.sub_nonneg.mpr (Instant.le_iff_ns.mp ht)),
      LocalStore.liveAt_release]
    by_cases hk' : k' = k
    · subst hk'
      rw [if_pos rfl, if_pos rfl, LocalStore.liveAt_of_le ht, hk]
      by_cases hl : t < x <;> simp [Option.filter_some, hl]
    · rw [if_neg hk', if_neg hk']
      exact h.reads t k' ht
  · rw [if_neg (by simpa using h.outcome_ne_marker hk)]
    exact h.of_alike (alike_release (by simp [hk]))

/-- Every proper call answers alike on both sides and keeps the mirror. -/
theorem call (h : Mirrors srv now l s) (hlaws : srv.ExpiryLaws) {c : StoreCall} (hc : c.Proper) :
    (l.call now c).1 = (SharedStore.call srv s c).1 ∧
      Mirrors srv now (l.call now c).2 (SharedStore.call srv s c).2 := by
  obtain ⟨httl, hpayload⟩ := hc
  have hwhole : ∀ {d : Duration}, 1000000 ∣ d.ns → RedisServer.WholeMillis d :=
    fun hd => Int.emod_eq_zero_of_dvd hd
  cases c with
  | reserve k lockTtl =>
    obtain ⟨hpos, hms⟩ := httl lockTtl rfl
    exact h.reserve hlaws k hpos (hwhole hms)
  | complete k payload ttl =>
    obtain ⟨hpos, hms⟩ := httl ttl rfl
    exact h.complete hlaws k payload hpos (hwhole hms) (fun he => hpayload (by rw [he]; rfl))
  | release k => exact h.release hlaws k

/-- Proper calls at non-decreasing times, from a server mirroring the store, answer alike. -/
theorem answers (hlaws : srv.ExpiryLaws) :
    ∀ (calls : List (Instant × StoreCall)) {now : Instant} {l : LocalStore} {s : σ},
      Mirrors srv now l s → (∀ p ∈ calls, now ≤ p.1) → calls.Pairwise (fun a b => a.1 ≤ b.1) →
      (∀ p ∈ calls, p.2.Proper) →
      (runTimed LocalStore.call l calls).1 = (runTimed (callAt srv) (s, now) calls).1
  | [], _, _, _, _, _, _, _ => rfl
  | (t, c) :: rest, now, l, s, h, hafter, hsorted, hproper => by
    rw [List.pairwise_cons] at hsorted
    have ht : Mirrors srv t l (srv.elapse s (t.ns - now.ns)) :=
      h.elapse hlaws (hafter _ List.mem_cons_self)
    obtain ⟨hans, hnext⟩ := ht.call hlaws (hproper _ List.mem_cons_self)
    have ih := answers hlaws rest hnext hsorted.1 hsorted.2
      (fun p hp => hproper p (List.mem_cons_of_mem _ hp))
    simp only [runTimed_cons_fst, callAt]
    rw [hans, ih]

end Mirrors

end SharedStore

/-- An outcome kept for zero time or less is over in the store at the instant it is stored. -/
theorem LocalStore.liveAt_complete_of_nonpos (s : LocalStore) (now : Instant) (k p : String)
    {ttl : Duration} (httl : ttl.ns ≤ 0) : (s.complete k p ttl now).liveAt now k = none := by
  have hover : ¬ now < now.add ttl := by
    rw [Instant.lt_iff_ns, Instant.add_ns]
    omega
  simp [LocalStore.liveAt, LocalStore.complete, Table.find?_insert, hover]

/-- A release in the store keeps every stored outcome. -/
theorem LocalStore.release_of_outcome {s : LocalStore} {k : String} {e : StoreEntry}
    (he : s.entries.find? k = some e) (hdone : e.payload.isSome) : s.release k = s := by
  obtain ⟨payload, x⟩ := e
  obtain ⟨text, rfl⟩ := Option.isSome_iff_exists.mp hdone
  simp [LocalStore.release, he]

/-- The idempotency store on a Redis server and the one in the process are interchangeable, for
every server that keeps the laws of expiry and starts empty, and every sequence of reservations,
completions and releases at non-decreasing times whose times are positive whole numbers of
milliseconds and whose outcomes are not the text `pending`: the two give the same answers. A
release never drops a stored outcome from either store. -/
theorem stores_answer_alike_for_positive_ttls {σ : Type} (srv : RedisServer σ)
    (hlaws : srv.ExpiryLaws) (s₀ : σ) (hempty : ∀ k e, 0 ≤ e → srv.get (srv.elapse s₀ e) k = .ok none)
    (calls : List (Instant × StoreCall)) (t₀ : Instant)
    (hsorted : calls.Pairwise (fun a b => a.1 ≤ b.1)) (hafter : ∀ p ∈ calls, t₀ ≤ p.1)
    (hproper : ∀ p ∈ calls, p.2.Proper) :
    (runTimed LocalStore.call LocalStore.empty calls).1 =
        (runTimed (SharedStore.callAt srv) (s₀, t₀) calls).1 ∧
      (∀ (l : LocalStore) (k : String) (e : StoreEntry), l.entries.find? k = some e →
        e.payload.isSome → l.release k = l) ∧
      (∀ (s : σ) (k p : String), srv.get s k = .ok (some p) → p ≠ SharedStore.pendingMarker →
        SharedStore.release srv s k = s) :=
  ⟨SharedStore.Mirrors.answers hlaws calls (SharedStore.Mirrors.empty hempty t₀) hafter hsorted
      hproper,
    fun _ _ _ he hdone => LocalStore.release_of_outcome he hdone,
    fun _ _ _ hget hp => SharedStore.release_of_outcome hget hp⟩

/-- A reservation, its outcome, a release and a retry answer alike on both stores, run against
the server in the process: the retry is handed the outcome back. -/
theorem stores_answer_alike_on_a_retry :
    let calls : List (Instant × StoreCall) :=
      [(⟨0, 0⟩, .reserve "k" (Duration.ofMillis 30000)),
        (⟨1000000000, 0⟩, .complete "k" "p" (Duration.ofMillis 60000)),
        (⟨2000000000, 0⟩, .release "k"),
        (⟨2000000000, 0⟩, .reserve "k" (Duration.ofMillis 30000))]
    (runTimed LocalStore.call LocalStore.empty calls).1 =
        (runTimed (SharedStore.callAt KeyValue.redis) (KeyValue.empty, Instant.zero) calls).1 ∧
      (runTimed LocalStore.call LocalStore.empty calls).1 =
        [.ok (some .reserved), .ok none, .ok none, .ok (some (.stored "p"))] := by
  intro calls
  refine ⟨(stores_answer_alike_for_positive_ttls KeyValue.redis KeyValue.redis_expiryLaws
    KeyValue.empty (fun k _ he => KeyValue.redis_get_empty k he) calls Instant.zero (by decide)
    (by decide) (by decide)).1, rfl⟩

/-- A result stored for zero milliseconds, then the key reserved again at the same instant: the
store in the process takes the key afresh, while the server in the process, like every lawful
server, hands the result back. -/
theorem zero_ttl_result_parts_the_stores :
    let calls : List (Instant × StoreCall) :=
      [(Instant.zero, .complete "k" "p" ⟨0⟩), (Instant.zero, .reserve "k" (Duration.ofMillis 30000))]
    (runTimed LocalStore.call LocalStore.empty calls).1 = [.ok none, .ok (some .reserved)] ∧
      (runTimed (SharedStore.callAt KeyValue.redis) (KeyValue.empty, Instant.zero) calls).1 =
        [.ok none, .ok (some (.stored "p"))] := by
  refine ⟨rfl, ?_⟩
  have hback : (SharedStore.call KeyValue.redis (KeyValue.redis.elapse
      (SharedStore.complete KeyValue.redis (KeyValue.redis.elapse KeyValue.empty 0) "k" "p" ⟨0⟩) 0)
        (.reserve "k" (Duration.ofMillis 30000))).1 = .ok (some (.stored "p")) :=
    SharedStore.zero_ttl_outcome_is_handed_back KeyValue.redis_expiryLaws _ (by decide) (by decide)
      (by decide) (by decide) (Int.le_refl 0)
  show [Except.ok none, (SharedStore.call KeyValue.redis (KeyValue.redis.elapse
    (SharedStore.complete KeyValue.redis (KeyValue.redis.elapse KeyValue.empty 0) "k" "p" ⟨0⟩) 0)
      (.reserve "k" (Duration.ofMillis 30000))).1] = _
  rw [hback]

end Auction
