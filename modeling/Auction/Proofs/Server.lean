import Auction.House.KeyValue

/-!
# The server in the process keeps the Redis laws

`KeyValue.redis` keeps `RedisServer.HashLaws` and `RedisServer.ExpiryLaws`
(`KeyValue.redis_hashLaws`, `KeyValue.redis_expiryLaws`), and its empty state reads as nothing,
now and at every later time (`KeyValue.redis_hget_empty`, `KeyValue.redis_get_empty`). So every
theorem about a lawful server started empty holds of the runs the scenarios make.

Every read goes through `KeyValue.valueAt`, the value of the first entry of a key that lasts at
a given time. A write replaces every entry of its key (`Table.findWhere?_insert`), a removal
drops them (`Table.findWhere?_erase`), and a purge at the clock, like the clock moving forward,
changes nothing that a read at that time or later sees (`KeyValue.valueAt_purge`,
`KeyValue.valueAt_advance`).
-/

namespace Auction

/-- A slot that lasts at a later time lasts now. -/
theorem Slot.lasts_of_le {sl : Slot} {c c' : Int} (hc : c ≤ c') (h : sl.lasts c' = true) :
    sl.lasts c = true := by
  unfold Slot.lasts at *
  split at h <;> simp_all
  omega

/-- A value found through a test passes it. -/
theorem Table.findWhere?_pass {α : Type} {t : Table α} {k : String} {q : α → Bool} {v : α}
    (h : t.findWhere? k q = some v) : q v = true := by
  unfold Table.findWhere? at h
  obtain ⟨e, he, rfl⟩ := Option.map_eq_some_iff.mp h
  have hp := List.find?_some he
  simp only [Bool.and_eq_true] at hp
  exact hp.2

namespace KeyValue

variable {kv : KeyValue}

/-- A purge keeps the server's clock. -/
@[simp] theorem purge_clock : kv.purge.clock = kv.clock := rfl

/-- A write keeps the server's clock. -/
@[simp] theorem set_clock (k v : String) (ttl : Option Int) : (kv.set k v ttl).clock = kv.clock :=
  rfl

/-- A removal keeps the server's clock. -/
@[simp] theorem delete_clock (k : String) : (kv.delete k).clock = kv.clock := rfl

/-- A purge at the server's clock changes no read at that time or later. -/
theorem valueAt_purge {c : Int} (hc : kv.clock ≤ c) (k : String) :
    kv.purge.valueAt c k = kv.valueAt c k := by
  unfold valueAt purge
  dsimp only
  rw [Table.findWhere?_filter kv.slots (·.lasts kv.clock)]
  congr 2
  funext sl
  cases h : sl.lasts c
  · simp
  · simp [Slot.lasts_of_le hc h]

/-- The slot a write finds under a key after the purge: the first one that lasts. -/
theorem find?_purge (k : String) :
    kv.purge.slots.find? k = kv.slots.findWhere? k (·.lasts kv.clock) := by
  show (⟨kv.slots.entries.filter fun e => e.2.lasts kv.clock⟩ : Table Slot).find? k = _
  rw [Table.find?_eq_findWhere?, Table.findWhere?_filter kv.slots (·.lasts kv.clock)]
  simp only [Bool.and_true]

/-- The server `d ≥ 0` nanoseconds later reads the clock `d` later. -/
theorem advance_clock {d : Int} (hd : 0 ≤ d) : (kv.advance d).clock = kv.clock + d := by
  unfold advance
  split
  · rfl
  · have : d = 0 := by omega
    simp [this]

/-- Moving the clock forward changes no read at the new time or later. -/
theorem valueAt_advance {d c : Int} (hc : kv.clock + d ≤ c) (k : String) :
    (kv.advance d).valueAt c k = kv.valueAt c k := by
  unfold advance
  split
  · exact @valueAt_purge { kv with clock := kv.clock + d } c hc k
  · rfl

/-- A read of the server `e ≥ 0` nanoseconds later is a read at its clock `e` later. -/
theorem lookup_advance {e : Int} (he : 0 ≤ e) (k : String) :
    (kv.advance e).lookup k = kv.valueAt (kv.clock + e) k := by
  unfold lookup
  rw [advance_clock he, valueAt_advance (Int.le_refl _)]

/-- Writing a slot after the purge: the key reads as the slot while it lasts; every other key
reads as before. -/
theorem valueAt_write (k : String) (sl : Slot) {c : Int} (hc : kv.clock ≤ c) (k' : String) :
    (⟨kv.purge.clock, kv.purge.slots.insert k sl⟩ : KeyValue).valueAt c k' =
      if k' = k then (if sl.lasts c then some sl.value else none) else kv.valueAt c k' := by
  have hp := valueAt_purge hc k'
  unfold valueAt at hp ⊢
  rw [Table.findWhere?_insert]
  split
  · cases sl.lasts c <;> rfl
  · exact hp

/-- A text written with a lifetime reads back while the lifetime lasts; every other key reads as
before. -/
theorem valueAt_set (k v : String) (ttl : Option Int) {c : Int} (hc : kv.clock ≤ c) (k' : String) :
    (kv.set k v ttl).valueAt c k' =
      if k' = k then
        (if (⟨.text v, ttl.map (kv.clock + ·)⟩ : Slot).lasts c then some (.text v) else none)
      else kv.valueAt c k' :=
  valueAt_write k _ hc k'

/-- A removed key has no value; every other key reads as before. -/
theorem valueAt_delete (k k' : String) (c : Int) :
    (kv.delete k).valueAt c k' = if k' = k then none else kv.valueAt c k' := by
  unfold valueAt delete
  rw [Table.findWhere?_erase]
  split <;> rfl

/-- A write of a text leaves every other key as it was. -/
theorem lookup_set_of_ne {k k' : String} (hk : k' ≠ k) (v : String) (ttl : Option Int) :
    (kv.set k v ttl).lookup k' = kv.lookup k' := by
  unfold lookup
  rw [set_clock, valueAt_set k v ttl (Int.le_refl _), if_neg hk]

/-- A removal leaves every other key as it was. -/
theorem lookup_delete_of_ne {k k' : String} (hk : k' ≠ k) :
    (kv.delete k).lookup k' = kv.lookup k' := by
  unfold lookup
  rw [delete_clock, valueAt_delete, if_neg hk]

/-- A write under a key that holds nothing leaves every other key as it was, whether it wrote
or not. -/
theorem lookup_setIfAbsent_of_ne {k k' : String} (hk : k' ≠ k) (v : String) (ttl : Option Int) :
    (kv.setIfAbsent k v ttl).2.lookup k' = kv.lookup k' := by
  unfold setIfAbsent
  split
  · rfl
  · exact lookup_set_of_ne hk v ttl

/-- A field of a hash is read off the key's value alone. -/
theorem hget_congr {kv' : KeyValue} {k : String} (h : kv.lookup k = kv'.lookup k) (f : String) :
    kv.hget k f = kv'.hget k f := by
  unfold hget
  rw [h]

/-! ### The hash commands -/

/-- A field written into the hash a key holds, or into a new one: the field reads the value,
every other field and key as before. -/
theorem hget_hset {s s' : KeyValue} {k f v : String} (h : s.hset k f v = .ok s') (k' f' : String) :
    s'.hget k' f' = if k' = k ∧ f' = f then .ok (some v) else s.hget k' f' := by
  unfold hset at h
  dsimp only at h
  rw [find?_purge] at h
  have hread : ∀ sl : Slot, sl.lasts s.clock = true →
      (⟨s.purge.clock, s.purge.slots.insert k sl⟩ : KeyValue).lookup k' =
        if k' = k then some sl.value else s.lookup k' := fun sl hl => by
    unfold lookup
    show (⟨s.purge.clock, s.purge.slots.insert k sl⟩ : KeyValue).valueAt s.clock k' = _
    rw [valueAt_write k sl (Int.le_refl _), hl]
    rfl
  rcases hfind : s.slots.findWhere? k (·.lasts s.clock) with _ | ⟨_ | fs, e⟩ <;>
    rw [hfind] at h <;> simp only [Except.ok.injEq, reduceCtorEq] at h <;> subst h
  · have hnone : s.lookup k = none := by simp [lookup, valueAt, hfind]
    unfold hget
    rw [hread _ rfl]
    by_cases hk : k' = k
    · subst hk
      by_cases hf : f' = f <;> simp [hf, hnone, Table.find?_insert]
    · simp [hk]
  · have hfound := Table.findWhere?_pass hfind
    have hl : (⟨.hash (fs.insert f v), e⟩ : Slot).lasts s.clock = true := hfound
    have hsome : s.lookup k = some (.hash fs) := by simp [lookup, valueAt, hfind]
    unfold hget
    rw [hread _ hl]
    by_cases hk : k' = k
    · subst hk
      by_cases hf : f' = f <;> simp [hf, hsome, Table.find?_insert]
    · simp [hk]

/-- A key holding a hash or nothing takes a write of a field. -/
theorem hset_ok {s : KeyValue} {k f₀ : String} {x : Option String} (h : s.hget k f₀ = .ok x)
    (f v : String) : ∃ s', s.hset k f v = .ok s' := by
  unfold hset
  dsimp only
  rw [find?_purge]
  rcases hfind : s.slots.findWhere? k (·.lasts s.clock) with _ | ⟨t | fs, e⟩
  · exact ⟨_, rfl⟩
  · have htext : s.lookup k = some (.text t) := by simp [lookup, valueAt, hfind]
    simp [hget, htext] at h
  · exact ⟨_, rfl⟩

/-- The server in the process keeps the laws of the hash commands. -/
theorem redis_hashLaws : redis.HashLaws where
  hget_hset h := hget_hset h
  hset_ok h := hset_ok h

/-- The empty server holds no field. -/
theorem redis_hget_empty (k f : String) : redis.hget empty k f = .ok none := rfl

/-! ### Texts and expiry -/

/-- The client sends a whole number of milliseconds as it is, and none for zero or less; the slot
written lasts exactly while the expiration has not elapsed. -/
theorem lasts_lifetime {ttl : Duration} (hms : RedisServer.WholeMillis ttl) (c e : Int) :
    (⟨.text "", (lifetime ttl).map (c + ·)⟩ : Slot).lasts (c + e) =
      decide (ttl.ns ≤ 0 ∨ e < ttl.ns) := by
  unfold RedisServer.WholeMillis at hms
  unfold lifetime
  by_cases hpos : ttl.ns ≤ 0
  · simp [hpos, Slot.lasts]
  · have hbig : ¬ ttl.ns < 1000000 := by omega
    have hwhole : ttl.ns / 1000000 * 1000000 = ttl.ns := Int.ediv_mul_cancel_of_emod_eq_zero hms
    simp only [hpos, hbig, if_false, hwhole, Option.map_some, Slot.lasts, false_or]
    exact decide_eq_decide.mpr (by omega)

/-- A read after a write of a text: the written text while its expiration has not elapsed. -/
theorem get_set_advance (s : KeyValue) (k v : String) {ttl : Duration}
    (hms : RedisServer.WholeMillis ttl) {e : Int} (he : 0 ≤ e) :
    ((s.set k v (lifetime ttl)).advance e).get k =
      .ok (if ttl.ns ≤ 0 ∨ e < ttl.ns then some v else none) := by
  have hl := lasts_lifetime hms s.clock e
  unfold Slot.lasts at hl
  unfold get
  rw [lookup_advance he, set_clock, valueAt_set k v _ (by omega), if_pos rfl]
  unfold Slot.lasts
  rw [hl]
  by_cases hlive : ttl.ns ≤ 0 ∨ e < ttl.ns <;> simp [hlive]

/-- The server in the process keeps the laws of texts and expiry. -/
theorem redis_expiryLaws : redis.ExpiryLaws where
  get_elapse_zero s k := by simp [redis, advance]
  get_elapse_elapse s k d e hd he := by
    show ((s.advance d).advance e).get k = (s.advance (d + e)).get k
    unfold get
    rw [lookup_advance he, lookup_advance (by omega), advance_clock hd,
      valueAt_advance (by omega), Int.add_assoc]
  get_set s k v _ _ hms he := get_set_advance s k v hms he
  get_set_of_ne s k v ttl k' e he hk := by
    show ((s.set k v (lifetime ttl)).advance e).get k' = (s.advance e).get k'
    unfold get
    rw [lookup_advance he, lookup_advance he, set_clock, valueAt_set k v _ (by omega), if_neg hk]
  get_delete s k k' e he := by
    show ((s.delete k).advance e).get k' = if k' = k then .ok none else (s.advance e).get k'
    unfold get
    rw [lookup_advance he, lookup_advance he, delete_clock, valueAt_delete]
    by_cases hk : k' = k
    · simp only [if_pos hk]
    · simp only [if_neg hk]
  setIfAbsent_eq s k v ttl _ := by
    show s.setIfAbsent k v (lifetime ttl) = _
    unfold setIfAbsent
    simp only [redis, get]
    rcases s.lookup k with _ | _ | _ <;> rfl

/-- The empty server holds no text, now or later. -/
theorem redis_get_empty (k : String) {e : Int} (he : 0 ≤ e) :
    redis.get (redis.elapse empty e) k = .ok none := by
  show (empty.advance e).get k = .ok none
  unfold get
  rw [lookup_advance he]
  rfl

end KeyValue

end Auction
