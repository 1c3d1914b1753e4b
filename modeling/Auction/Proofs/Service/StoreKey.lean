import Auction.Proofs.Service.Guard
import Auction.Scenario.Setup

/-!
# The store keys of the idempotency guard

The guard keeps the outcome of a placement under `storeKey bidderId key`: the bidder id and the
client key joined by a colon behind a fixed prefix. A later call is answered from whatever its
own store key holds, so two requests share an outcome exactly when their store keys are equal.

The join is not escaped, and the store key does not tell every pair apart. `storeKey_eq_iff`
gives every collision: one bidder id is the other followed by a colon and a text `m`, and the
other client key is `m`, a colon and the first client key. So the bidder `u:x` with the key `k`
and the bidder `u` with the key `x:k` share one store key, and after the first call decided, the
second is answered with the first's stored outcome (`replays_of_storeKey_eq`,
`colliding_pairs_replay`).

When no bidder id holds a colon the join is injective (`storeKey_injective_of_no_colon`). A call
whose store key has no entry runs its own placement (`execute_run_of_absent`), and a call whose
placement leaves the store alone touches no entry but its own key's (`execute_keeps_others`).
Stepped alone, one call of a `Pool` of guarded calls is `Guard.execute` (`Pool.steps_execute`).

A placement leaves the store alone whenever the hooks of its commits do
(`Placement.run_keepsStore`): only the guard writes the store. `KeepsStore hooks x` says so of a
computation run with the hooks at hand, and is proved of a placement step by step, the loop of
compare-and-swap attempts by induction on the attempts left (`KeepsStore.retry`). So of two
placements with different pairs the second runs its own placement, whatever the first did
(`guarded_pairs_run_apart`).
-/

namespace Auction

/-- Hooks whose work before a commit leaves the idempotency store and the settings alone. -/
def Hooks.KeepsStore (hooks : Hooks) : Prop :=
  ∀ h, (hooks.beforeCommit.run h).2.store = h.store ∧
    (hooks.beforeCommit.run h).2.settings = h.settings

/-- Hooks that run nothing leave the store alone. -/
theorem Hooks.quiet_keepsStore : Hooks.quiet.KeepsStore := fun _ => ⟨rfl, rfl⟩

namespace Guard

open House

/-! ### The join of a bidder id and a client key -/

/-- Two joins at one separator are equal exactly when their parts are, or when the separator
moved: one left part is the other's, the separator and a middle `m`, and the other right part is
`m`, the separator and the first right part. -/
theorem append_cons_eq_append_cons_iff {c : Char} {b₁ k₁ b₂ k₂ : List Char} :
    b₁ ++ c :: k₁ = b₂ ++ c :: k₂ ↔
      (b₁ = b₂ ∧ k₁ = k₂) ∨ (∃ m, b₁ = b₂ ++ c :: m ∧ k₂ = m ++ c :: k₁) ∨
        (∃ m, b₂ = b₁ ++ c :: m ∧ k₁ = m ++ c :: k₂) := by
  rw [List.append_eq_append_iff]
  constructor
  · rintro (⟨as, rfl, h⟩ | ⟨bs, rfl, h⟩)
    · cases as with
      | nil => exact .inl ⟨by simp, by simpa using h⟩
      | cons a m =>
        obtain ⟨rfl, rfl⟩ : c = a ∧ k₁ = m ++ c :: k₂ := by simpa using h
        exact .inr (.inr ⟨m, rfl, rfl⟩)
    · cases bs with
      | nil => exact .inl ⟨by simp, by simpa using h.symm⟩
      | cons a m =>
        obtain ⟨rfl, rfl⟩ : c = a ∧ k₂ = m ++ c :: k₁ := by simpa using h
        exact .inr (.inl ⟨m, rfl, rfl⟩)
  · rintro (⟨rfl, rfl⟩ | ⟨m, rfl, rfl⟩ | ⟨m, rfl, rfl⟩)
    · exact .inl ⟨[], by simp, by simp⟩
    · exact .inr ⟨c :: m, by simp, by simp⟩
    · exact .inl ⟨c :: m, by simp, by simp⟩

/-- A property of the texts of a string is a property of some list of characters, and back. -/
theorem exists_toList_iff {P : List Char → Prop} : (∃ m : String, P m.toList) ↔ ∃ l, P l :=
  ⟨fun ⟨m, hm⟩ => ⟨m.toList, hm⟩, fun ⟨l, hl⟩ => ⟨String.ofList l, by rwa [String.toList_ofList]⟩⟩

/-- A store key is the prefix, the bidder, a colon and the client key, character by character. -/
theorem toList_storeKey (bidderId key : String) :
    (storeKey bidderId key).toList =
      "idempotency:".toList ++ (bidderId.toList ++ ':' :: key.toList) := by
  simp [storeKey]

/-- Two pairs share a store key exactly when they are the same pair, or one bidder id is the
other's followed by a colon and a text `m` and the other client key is `m`, a colon and the first
client key. -/
theorem storeKey_eq_iff {b₁ k₁ b₂ k₂ : String} :
    storeKey b₁ k₁ = storeKey b₂ k₂ ↔
      (b₁ = b₂ ∧ k₁ = k₂) ∨ (∃ m, b₁ = b₂ ++ ":" ++ m ∧ k₂ = m ++ ":" ++ k₁) ∨
        (∃ m, b₂ = b₁ ++ ":" ++ m ∧ k₁ = m ++ ":" ++ k₂) := by
  rw [String.ext_iff, toList_storeKey, toList_storeKey, List.append_cancel_left_eq,
    append_cons_eq_append_cons_iff]
  simp only [String.ext_iff, String.toList_append]
  simp only [show (":" : String).toList = [':'] from rfl, List.append_assoc, List.cons_append,
    List.nil_append]
  exact or_congr Iff.rfl (or_congr exists_toList_iff.symm exists_toList_iff.symm)

/-- Without a colon in the bidder ids the store key tells the pairs apart. -/
theorem storeKey_injective_of_no_colon {b₁ k₁ b₂ k₂ : String} (hb₁ : ':' ∉ b₁.toList)
    (hb₂ : ':' ∉ b₂.toList) (h : storeKey b₁ k₁ = storeKey b₂ k₂) : b₁ = b₂ ∧ k₁ = k₂ := by
  rcases storeKey_eq_iff.mp h with hsame | ⟨m, rfl, -⟩ | ⟨m, rfl, -⟩
  · exact hsame
  · exact absurd (by simp) hb₁
  · exact absurd (by simp) hb₂

/-! ### Computations that leave the store alone -/

/-- Run with `hooks` from any house, `x` leaves the idempotency store and the settings as it
found them. -/
def KeepsStore {β : Type} (hooks : Hooks) (x : HouseM β) : Prop :=
  ∀ h, ((x.run hooks).run h).2.store = h.store ∧ ((x.run hooks).run h).2.settings = h.settings

namespace KeepsStore

variable {ε α β γ : Type} {hooks : Hooks}

/-- A value returned at once keeps the store. -/
theorem pure (b : β) : KeepsStore hooks (Pure.pure b) := fun _ => ⟨rfl, rfl⟩

/-- Two steps that each keep the store keep it in turn. -/
theorem bind {x : HouseM β} {f : β → HouseM γ} (hx : KeepsStore hooks x)
    (hf : ∀ b, KeepsStore hooks (f b)) : KeepsStore hooks (x >>= f) := by
  intro h
  rw [run_bind]
  obtain ⟨hstore, hset⟩ := hx h
  obtain ⟨hstore', hset'⟩ := hf ((x.run hooks).run h).1 ((x.run hooks).run h).2
  exact ⟨hstore'.trans hstore, hset'.trans hset⟩

/-- Reading the house keeps the store. -/
theorem get : KeepsStore hooks (get : HouseM House) := fun _ => ⟨rfl, rfl⟩

/-- Reading the clock keeps the store. -/
theorem clock : KeepsStore hooks House.clock := fun _ => ⟨rfl, rfl⟩

/-- Drawing an id keeps the store. -/
theorem drawId : KeepsStore hooks House.drawId := fun _ => ⟨rfl, rfl⟩

/-- Publishing events keeps the store. -/
theorem publish (events : List Event) : KeepsStore hooks (House.publish events) :=
  fun _ => ⟨rfl, rfl⟩

/-- Running a transaction keeps the store. -/
theorem runTxn (book : Book) (m : TxnM β) : KeepsStore hooks (House.runTxn book m) :=
  fun _ => ⟨rfl, rfl⟩

/-- Asking whether an auction takes bids keeps the store. -/
theorem liveAuction (auctionId : String) (now : Instant) :
    KeepsStore hooks (House.liveAuction auctionId now) := fun h => by
  rw [liveAuction_run_snd]
  exact ⟨rfl, rfl⟩

/-- Loading a book keeps the store. -/
theorem loadBook (auctionId : String) : KeepsStore hooks (House.loadBook auctionId) := fun h => by
  rw [loadBook_run]
  split <;> exact ⟨rfl, rfl⟩

/-- A commit leaves the store alone when its hooks do: it writes the ledger, the server or the
plan of injected failures, and counts itself. -/
theorem commitBook (hhooks : hooks.KeepsStore) (c : BookChange) :
    KeepsStore hooks (House.commitBook c) := fun h => by
  obtain ⟨hstore, hset⟩ := hhooks { h with commits := h.commits + 1 }
  rw [House.commitBook, run_modify_bind, run_read_bind, run_get_bind]
  dsimp only
  split
  · exact ⟨hstore, hset⟩
  · split
    · exact ⟨hstore, hset⟩
    · split
      · split <;> exact ⟨hstore, hset⟩
      · split <;> exact ⟨hstore, hset⟩

/-- Waiting between attempts keeps the store. -/
theorem backoff (left : Nat) : KeepsStore hooks (House.backoff left) := fun h => by
  obtain ⟨crashed, hrun⟩ := backoff_run left hooks h
  rw [hrun]
  exact ⟨rfl, rfl⟩

/-- The compare-and-swap loop leaves the store alone when its hooks and its change do. The
induction is on the attempts left. -/
theorem retry (hhooks : hooks.KeepsStore) {auctionId : String} {lift : Fault → ε}
    {mutate : α → Book → HouseM (Except ε (Change α))}
    (hm : ∀ last b, KeepsStore hooks (mutate last b)) :
    ∀ n last, KeepsStore hooks (House.retry surroundings auctionId lift mutate n last)
  | 0, _ => pure _
  | n + 1, last => by
    rw [House.retry, surroundings_cancelled]
    refine (pure none).bind fun live => ?_
    rcases live with _ | text
    swap
    · exact pure _
    refine (loadBook auctionId).bind fun r => ?_
    rcases r with f | current
    · exact pure _
    refine (hm last current).bind fun d => ?_
    rcases d with e | out | ⟨working, out⟩
    · exact pure _
    · exact pure _
    refine (commitBook hhooks _).bind fun r => ?_
    rcases r with f | ⟨⟩
    · dsimp only
      split
      · split
        · exact retry hhooks hm n out
        · refine (backoff n).bind fun w => ?_
          rcases w with _ | text | text
          · exact retry hhooks hm n out
          · exact pure _
          · exact pure _
      · exact pure _
    · exact pure _

/-- The compare-and-swap loop keeps the store, when its hooks and its change do. -/
theorem execute (hhooks : hooks.KeepsStore) {auctionId : String} {lift : Fault → ε} {init : α}
    {mutate : α → Book → HouseM (Except ε (Change α))}
    (hm : ∀ last b, KeepsStore hooks (mutate last b)) :
    KeepsStore hooks (House.execute auctionId lift init mutate) :=
  get.bind fun h => retry hhooks hm h.settings.maxAttempts init

/-- Rejecting a placement keeps the store. -/
theorem reject (bid : Bid) (book : Option Book) (f : Fault) :
    KeepsStore hooks (Placement.reject bid book f) := by
  unfold Placement.reject
  split
  · exact pure _
  · split
    · exact pure _
    · exact drawId.bind fun _ => (publish _).bind fun _ => pure _

/-- The change of a placement keeps the store. -/
theorem change (req : PlaceRequest) (bid : Bid) (book : Book) :
    KeepsStore hooks (Placement.change req bid book) := by
  unfold Placement.change
  split
  · exact pure _
  · refine (runTxn _ _).bind fun p => ?_
    rcases p with ⟨_ | _, txn⟩ <;> exact pure _

end KeepsStore

/-- A placement leaves the idempotency store and the settings alone, when the hooks of its
commits do. -/
theorem Placement.run_keepsStore {hooks : Hooks} (hhooks : hooks.KeepsStore) (req : PlaceRequest) :
    KeepsStore hooks (Placement.run req) := by
  unfold Placement.run
  refine KeepsStore.clock.bind fun now => ?_
  refine KeepsStore.drawId.bind fun id => ?_
  refine (KeepsStore.liveAuction _ _).bind fun check => ?_
  split
  · exact KeepsStore.reject _ _ _
  · exact KeepsStore.reject _ _ _
  · split
    · exact KeepsStore.reject _ _ _
    · refine (KeepsStore.execute hhooks fun _ _ => KeepsStore.change _ _ _).bind fun r => ?_
      rcases r with ⟨f, snapshot⟩ | ⟨book, events⟩
      · dsimp only
        split
        · exact KeepsStore.pure _
        · exact KeepsStore.reject _ _ _
      · exact (KeepsStore.publish _).bind fun _ => KeepsStore.pure _

/-! ### One guarded call, with the store in the process -/

/-- The house with the store key `k` reserved until its lock time is over. -/
def reservedAt (h : House) (k : String) : House :=
  { h with store := ⟨h.store.entries.insert k ⟨none, h.now.add h.settings.lockTtl⟩⟩ }

/-- A reservation changes no entry but its key's. -/
theorem LocalStore.find?_reserve_of_ne {s s' : LocalStore} {k k' : String} {lockTtl : Duration}
    {now : Instant} {r : Reservation} (hr : s.reserve k lockTtl now = .ok (r, s')) (hk : k' ≠ k) :
    s'.entries.find? k' = s.entries.find? k' := by
  unfold LocalStore.reserve at hr
  split at hr
  · split at hr
    · split at hr <;> cases hr
      rfl
    · cases hr
      simp [Table.find?_insert, hk]
  · cases hr
    simp [Table.find?_insert, hk]

variable {hooks : Hooks} {h : House} {bidderId key : String} {fn : HouseM (Outcome BidResult)}

/-- A call with a client key reserves its store key first and goes on from the store's answer. -/
theorem execute_run_of_ne_empty (hk : key ≠ "") :
    ((execute bidderId key fn).run hooks).run h =
      (((reserve (storeKey bidderId key)) >>= fun
        | .ok .reserved => fn >>= settle (storeKey bidderId key)
        | .ok (.stored p) => pure (replay p)
        | .error f => pure (refusal f)).run hooks).run h := by
  have hempty : key.isEmpty = false := Bool.eq_false_iff.mpr (mt String.isEmpty_iff.mp hk)
  rw [execute, hempty]
  rfl

/-- A call with a client key goes on from what its reservation answered. -/
theorem execute_run_of_reserve (hk : key ≠ "") {r : Except Fault Reservation} {h' : House}
    (hres : ((reserve (storeKey bidderId key)).run hooks).run h = (r, h')) :
    ((execute bidderId key fn).run hooks).run h =
      ((match r with
        | .ok .reserved => fn >>= settle (storeKey bidderId key)
        | .ok (.stored p) => pure (replay p)
        | .error f => pure (refusal f)).run hooks).run h' := by
  rw [execute_run_of_ne_empty hk, run_bind, hres]

/-- A call whose store key has no entry reserves it, runs its own placement, and settles. -/
theorem execute_run_of_absent (hs : h.settings.store = some .inProcess) (hk : key ≠ "")
    (habsent : h.store.entries.find? (storeKey bidderId key) = none) :
    ((execute bidderId key fn).run hooks).run h =
      ((fn >>= settle (storeKey bidderId key)).run hooks).run
        (reservedAt h (storeKey bidderId key)) := by
  have hres : ((reserve (storeKey bidderId key)).run hooks).run h =
      (.ok .reserved, reservedAt h (storeKey bidderId key)) := by
    rw [reserve_run_local hs, LocalStore.reserve, habsent]
    rfl
  rw [execute_run_of_reserve hk hres]

/-- A call whose store key holds a live outcome replays it and changes nothing. -/
theorem execute_run_of_stored (hs : h.settings.store = some .inProcess) (hk : key ≠ "")
    {p : String} {x : Instant}
    (hstored : h.store.entries.find? (storeKey bidderId key) = some ⟨some p, x⟩)
    (hlive : h.now < x) :
    ((execute bidderId key fn).run hooks).run h = (replay p, h) := by
  have hres : ((reserve (storeKey bidderId key)).run hooks).run h = (.ok (.stored p), h) := by
    rw [reserve_run_local hs, LocalStore.reserve, hstored]
    simp only [hlive, if_true]
  rw [execute_run_of_reserve hk hres]
  rfl

/-- A call whose placement leaves the store alone keeps the settings and every entry but its
own store key's. -/
theorem execute_keeps_others (hfn : KeepsStore hooks fn) (hs : h.settings.store = some .inProcess) :
    (((execute bidderId key fn).run hooks).run h).2.settings = h.settings ∧
      ∀ k', k' ≠ storeKey bidderId key →
        (((execute bidderId key fn).run hooks).run h).2.store.entries.find? k' =
          h.store.entries.find? k' := by
  by_cases hk : key = ""
  · have hrun : ((execute bidderId key fn).run hooks).run h = (fn.run hooks).run h := by
      rw [execute, hk]
      rfl
    rw [hrun, (hfn h).1, (hfn h).2]
    exact ⟨rfl, fun _ _ => rfl⟩
  cases hr : h.store.reserve (storeKey bidderId key) h.settings.lockTtl h.now with
  | error f =>
    have hres : ((reserve (storeKey bidderId key)).run hooks).run h = (.error f, h) := by
      rw [reserve_run_local hs, hr]
    rw [execute_run_of_reserve hk hres]
    exact ⟨rfl, fun _ _ => rfl⟩
  | ok rs =>
    obtain ⟨r, s⟩ := rs
    have hres : ((reserve (storeKey bidderId key)).run hooks).run h =
        (.ok r, { h with store := s }) := by
      rw [reserve_run_local hs, hr]
    rw [execute_run_of_reserve hk hres]
    have hreserve := fun k' (hk' : k' ≠ storeKey bidderId key) =>
      LocalStore.find?_reserve_of_ne hr hk'
    cases r with
    | stored p => exact ⟨rfl, hreserve⟩
    | reserved =>
      obtain ⟨hstore, hset⟩ := hfn { h with store := s }
      rw [run_bind, settle_run_local (by rw [hset]; exact hs)]
      refine ⟨hset, fun k' hk' => ?_⟩
      rw [← hreserve k' hk']
      dsimp only
      rw [hstore]
      split
      · simp [LocalStore.complete, Table.find?_insert, hk']
      · unfold LocalStore.release
        split <;> simp [Table.find?_erase, hk']

/-- A call whose store key has no entry answers with the outcome of its own placement, run on
the house with the key reserved. -/
theorem execute_fst_of_absent (hfn : KeepsStore hooks fn) (hs : h.settings.store = some .inProcess)
    (hk : key ≠ "") (habsent : h.store.entries.find? (storeKey bidderId key) = none) :
    (((execute bidderId key fn).run hooks).run h).1 =
      ((fn.run hooks).run (reservedAt h (storeKey bidderId key))).1 := by
  have hset : ((fn.run hooks).run (reservedAt h (storeKey bidderId key))).2.settings =
      h.settings := (hfn _).2
  rw [execute_run_of_absent hs hk habsent, run_bind, settle_run_local (by rw [hset]; exact hs)]

/-- A call whose placement leaves the store alone and decides stores the stored text of its
answer under its key, for as long as outcomes are kept from the time it ends. -/
theorem execute_find?_of_decided (hfn : KeepsStore hooks fn) (hs : h.settings.store = some .inProcess)
    (hk : key ≠ "") (habsent : h.store.entries.find? (storeKey bidderId key) = none)
    (hdec : isDecided (((execute bidderId key fn).run hooks).run h).1 = true) :
    (((execute bidderId key fn).run hooks).run h).2.store.entries.find? (storeKey bidderId key) =
      some ⟨some (storedText (((execute bidderId key fn).run hooks).run h).1),
        ((((execute bidderId key fn).run hooks).run h).2.now.add h.settings.idempotencyTtl)⟩ := by
  have hset : ((fn.run hooks).run (reservedAt h (storeKey bidderId key))).2.settings =
      h.settings := (hfn _).2
  rw [execute_fst_of_absent hfn hs hk habsent] at hdec ⊢
  rw [execute_run_of_absent hs hk habsent, run_bind, settle_run_local (by rw [hset]; exact hs),
    hdec, if_pos rfl]
  simp only [LocalStore.complete, Table.find?_insert, ↓reduceIte, hset]

/-- With an idempotency store, a placement runs behind the guard. -/
theorem placeBid_run_of_store {req : PlaceRequest} {b : Backend}
    (hs : h.settings.store = some b) :
    ((placeBid req).run hooks).run h =
      ((execute req.bidderId req.idempotencyKey (Placement.run req)).run hooks).run h := by
  rw [placeBid, run_get_bind, hs]

/-- One call of a pool stepped alone is `Guard.execute` with its client key: it reserves the key,
and when the key is its own, the placement does its work on the house, its run ends with the
placement's outcome, and it settles. The call then stands returned with the answer of
`Guard.execute`, on the house `Guard.execute` leaves. -/
theorem Pool.steps_execute {p : Pool} {i : Nat} (hk : key ≠ "") (hfn : KeepsStore Hooks.quiet fn)
    (hnow : ∀ h, h.now ≤ ((fn.run Hooks.quiet).run h).2.now) (hready : p.turns i = .ready) :
    ∃ q, Relation.ReflTransGen (Pool.Step (storeKey bidderId key)) p q ∧
      q.turns i = .returned (((execute bidderId key fn).run Hooks.quiet).run p.house).1 ∧
      q.house = (((execute bidderId key fn).run Hooks.quiet).run p.house).2 := by
  have hstep := Pool.Step.reserve (k := storeKey bidderId key) hready
  rcases hres : ((reserve (storeKey bidderId key)).run Hooks.quiet).run p.house with ⟨r, h₁⟩
  rw [hres] at hstep
  have hrun := @execute_run_of_reserve Hooks.quiet p.house bidderId key fn hk _ _ hres
  rcases r with f | _ | text
  · refine ⟨_, .single hstep, ?_, ?_⟩
    · simp only [Pool.afterReserve, Pool.answer, Function.update_self, hrun]
      rfl
    · simp only [Pool.afterReserve, Pool.answer, hrun]
      rfl
  · obtain ⟨hstore₂, hset₂⟩ := hfn h₁
    have hother := Pool.Step.other (k := storeKey bidderId key)
      (p := p.afterReserve i (.ok .reserved, h₁)) hset₂ (by
        rw [hstore₂]
        rfl) (hnow h₁)
    have hran := Pool.Step.run (k := storeKey bidderId key)
      (p := { p.afterReserve i (.ok .reserved, h₁) with house := ((fn.run Hooks.quiet).run h₁).2 })
      (i := i) (s := p.house.now) ((fn.run Hooks.quiet).run h₁).1 (by simp [Pool.afterReserve])
    refine ⟨_, ((((Relation.ReflTransGen.single hstep).tail hother).tail hran).tail
      (Pool.Step.settle (i := i) (s := p.house.now) (o := ((fn.run Hooks.quiet).run h₁).1)
        (by simp))), ?_, ?_⟩
    · simp only [Pool.answer, Function.update_self, hrun]
      rfl
    · simp only [Pool.answer, hrun]
      rfl
  · refine ⟨_, .single hstep, ?_, ?_⟩
    · simp only [Pool.afterReserve, Pool.answer, Function.update_self, hrun]
      rfl
    · simp only [Pool.afterReserve, Pool.answer, hrun]
      rfl

/-! ### Two guarded calls -/

/-- After a call whose placement decided, a call of any pair with the same store key is
answered with the first call's answer replayed from its stored text, and changes nothing, while
outcomes are kept for some time. -/
theorem replays_of_storeKey_eq {b₁ k₁ b₂ k₂ : String} (hkey : storeKey b₂ k₂ = storeKey b₁ k₁)
    (hk₁ : k₁ ≠ "") (hk₂ : k₂ ≠ "") {fn₁ fn₂ : HouseM (Outcome BidResult)}
    (hfn₁ : KeepsStore hooks fn₁) (hs : h.settings.store = some .inProcess)
    (habsent : h.store.entries.find? (storeKey b₁ k₁) = none)
    (hdec : isDecided (((execute b₁ k₁ fn₁).run hooks).run h).1 = true)
    (httl : 0 < h.settings.idempotencyTtl.ns) :
    ((execute b₂ k₂ fn₂).run hooks).run (((execute b₁ k₁ fn₁).run hooks).run h).2 =
      (replay (storedText (((execute b₁ k₁ fn₁).run hooks).run h).1),
        (((execute b₁ k₁ fn₁).run hooks).run h).2) := by
  have hset := (@execute_keeps_others hooks h b₁ k₁ fn₁ hfn₁ hs).1
  refine execute_run_of_stored (hset ▸ hs) hk₂
    (x := ((((execute b₁ k₁ fn₁).run hooks).run h).2.now.add h.settings.idempotencyTtl)) ?_ ?_
  · rw [hkey]
    exact execute_find?_of_decided hfn₁ hs hk₁ habsent hdec
  · rw [Instant.lt_iff_ns, Instant.add]
    dsimp only
    omega

/-- Of two guarded calls whose bidder ids hold no colon and whose pairs differ, the second runs
its own placement and settles, whatever the first did, when its store key had no entry and the
first placement leaves the store alone. -/
theorem execute_pairs_run_apart {b₁ k₁ b₂ k₂ : String} (hb₁ : ':' ∉ b₁.toList)
    (hb₂ : ':' ∉ b₂.toList) (hpair : (b₁, k₁) ≠ (b₂, k₂)) (hk₂ : k₂ ≠ "")
    {fn₁ fn₂ : HouseM (Outcome BidResult)} (hfn₁ : KeepsStore hooks fn₁)
    (hs : h.settings.store = some .inProcess)
    (habsent : h.store.entries.find? (storeKey b₂ k₂) = none) :
    ((execute b₂ k₂ fn₂).run hooks).run (((execute b₁ k₁ fn₁).run hooks).run h).2 =
      ((fn₂ >>= settle (storeKey b₂ k₂)).run hooks).run
        (reservedAt (((execute b₁ k₁ fn₁).run hooks).run h).2 (storeKey b₂ k₂)) := by
  obtain ⟨hset, hother⟩ := @execute_keeps_others hooks h b₁ k₁ fn₁ hfn₁ hs
  have hne : storeKey b₂ k₂ ≠ storeKey b₁ k₁ := fun heq => by
    obtain ⟨rfl, rfl⟩ := storeKey_injective_of_no_colon hb₂ hb₁ heq
    exact hpair rfl
  exact execute_run_of_absent (hset ▸ hs) hk₂ ((hother _ hne).trans habsent)

/-- Of two placements whose bidder ids hold no colon and whose pairs of bidder and client key
differ, the second runs its own placement and settles, whatever the first did, when its store
key had no entry and the hooks of the commits leave the store alone. -/
theorem guarded_pairs_run_apart {req₁ req₂ : PlaceRequest} (hb₁ : ':' ∉ req₁.bidderId.toList)
    (hb₂ : ':' ∉ req₂.bidderId.toList)
    (hpair : (req₁.bidderId, req₁.idempotencyKey) ≠ (req₂.bidderId, req₂.idempotencyKey))
    (hk₂ : req₂.idempotencyKey ≠ "") (hhooks : hooks.KeepsStore)
    (hs : h.settings.store = some .inProcess)
    (habsent : h.store.entries.find? (storeKey req₂.bidderId req₂.idempotencyKey) = none) :
    ((placeBid req₂).run hooks).run (((placeBid req₁).run hooks).run h).2 =
      ((Placement.run req₂ >>= settle (storeKey req₂.bidderId req₂.idempotencyKey)).run hooks).run
        (reservedAt (((placeBid req₁).run hooks).run h).2
          (storeKey req₂.bidderId req₂.idempotencyKey)) := by
  have hfn₁ := Placement.run_keepsStore hhooks req₁
  have hs₁ : (((execute req₁.bidderId req₁.idempotencyKey (Placement.run req₁)).run hooks).run
      h).2.settings.store = some .inProcess := by
    rw [(execute_keeps_others hfn₁ hs).1]
    exact hs
  rw [placeBid_run_of_store hs, placeBid_run_of_store hs₁]
  exact execute_pairs_run_apart hb₁ hb₂ hpair hk₂ hfn₁ hs habsent

/-- A bid of `amount` on `a-1` by `bidderId` with the client key `key`. -/
def keyedRequest (bidderId key : String) (amount : Decimal) : PlaceRequest :=
  { auctionId := "a-1", bidderId, bidderUsername := bidderId, amount, idempotencyKey := key }

/-- `u` and `v` each bid under the client key `k`, one after the other: the second bid runs as it
would alone, its outcome stored under its own key. -/
theorem guarded_pairs_run_apart_two_bidders :
    ':' ∉ "u".toList ∧ ':' ∉ "v".toList ∧ ("u", "k") ≠ ("v", "k") ∧ "k" ≠ "" ∧
      Hooks.quiet.KeepsStore ∧ Scenario.defaultHouse.settings.store = some .inProcess ∧
      Scenario.defaultHouse.store.entries.find? (storeKey "v" "k") = none ∧
      ((placeBid (keyedRequest "v" "k" 200)).run Hooks.quiet).run
          (((placeBid (keyedRequest "u" "k" 100)).run Hooks.quiet).run Scenario.defaultHouse).2 =
        ((Placement.run (keyedRequest "v" "k" 200) >>= settle (storeKey "v" "k")).run
            Hooks.quiet).run
          (reservedAt (((placeBid (keyedRequest "u" "k" 100)).run Hooks.quiet).run Scenario.defaultHouse).2
            (storeKey "v" "k")) := by
  have hs : Scenario.defaultHouse.settings.store = some .inProcess := by decide
  have habsent : Scenario.defaultHouse.store.entries.find? (storeKey "v" "k") = none := by decide
  exact ⟨by decide, by decide, by decide, by decide, Hooks.quiet_keepsStore, hs, habsent,
    guarded_pairs_run_apart (by decide) (by decide) (by decide) (by decide) Hooks.quiet_keepsStore
      hs habsent⟩

/-- The bidder `u:x` with the client key `k` and the bidder `u` with the client key `x:k` are
different pairs with one store key. The first bids 100 on `a-1` and is accepted; the second,
bidding 200, is answered with the first's acceptance replayed, and changes nothing, instead of
running its own placement. -/
theorem colliding_pairs_replay :
    ("u:x", "k") ≠ ("u", "x:k") ∧ storeKey "u:x" "k" = storeKey "u" "x:k" ∧
      (((placeBid (keyedRequest "u:x" "k" 100)).run Hooks.quiet).run Scenario.defaultHouse).1.result.map
        (·.status) = some .accepted ∧
      ((placeBid (keyedRequest "u" "x:k" 200)).run Hooks.quiet).run
          (((placeBid (keyedRequest "u:x" "k" 100)).run Hooks.quiet).run Scenario.defaultHouse).2 =
        (replay (storedText (((placeBid (keyedRequest "u:x" "k" 100)).run Hooks.quiet).run
            Scenario.defaultHouse).1),
          (((placeBid (keyedRequest "u:x" "k" 100)).run Hooks.quiet).run Scenario.defaultHouse).2) := by
  have hs : Scenario.defaultHouse.settings.store = some .inProcess := by decide
  have hkey : storeKey "u" "x:k" = storeKey "u:x" "k" := by decide
  have hfn₁ := Placement.run_keepsStore Hooks.quiet_keepsStore (keyedRequest "u:x" "k" 100)
  have hs₁ : (((execute (keyedRequest "u:x" "k" 100).bidderId
      (keyedRequest "u:x" "k" 100).idempotencyKey (Placement.run (keyedRequest "u:x" "k" 100))).run
      Hooks.quiet).run Scenario.defaultHouse).2.settings.store = some .inProcess := by
    rw [(execute_keeps_others hfn₁ hs).1]
    exact hs
  have haccepted : (((placeBid (keyedRequest "u:x" "k" 100)).run Hooks.quiet).run
      Scenario.defaultHouse).1.result.map (·.status) = some .accepted := by
    set_option maxRecDepth 20000 in
    decide +kernel
  have hdec : isDecided (((execute "u:x" "k" (Placement.run (keyedRequest "u:x" "k" 100))).run
      Hooks.quiet).run Scenario.defaultHouse).1 = true := by
    set_option maxRecDepth 20000 in
    decide +kernel
  refine ⟨by decide, hkey.symm, haccepted, ?_⟩
  rw [placeBid_run_of_store hs, placeBid_run_of_store hs₁]
  exact replays_of_storeKey_eq hkey (by decide) (by decide) hfn₁ hs (by decide) hdec (by decide)

end Guard

end Auction
