import Auction.Proofs.Ledger.Pool
import Auction.Proofs.Service.Commit
import Auction.Scenario.Setup
import Auction.Proofs.Server

/-!
# Closed books are frozen

Closing marks the book of an auction closed, and every change of the service looks at that
mark before anything else: a placement, a withdrawal and a registration refuse a closed book at
once, and pausing, resuming and cancelling refuse it through `Proxy.owned`. Closing itself keeps
a closed book as it is.

Two consequences are proved here.

* No operation commits on a closed book (`Committed.closed_eq_false`), so a run of committed
  operations that reaches a closed book stays at it (`eq_of_closed_of_reflTransGen`).
* An operation of the service run against a house whose ledger holds a closed book for its
  auction, in the process or on the shared server, never reaches a commit. Its one attempt
  loads the closed book and decides on it, so whatever the hooks of the commit would run, they
  never run, and the ledger, its keys on the server, the settings and the count of commits are
  as they were (`Unwritten`). The server may change meanwhile, but only under the keys of the
  idempotency store and the status cache, which never meet the ledger's: those start with `i`
  and `a`, the ledger's with `b`. What it returns is an error; for a placement, a refusal whose
  result, if any, is rejected, unless the idempotency store already held a decided outcome for
  the bidder's key, which is replayed as it was stored. Closing again succeeds.

`CommitsNothing h₀ m Q` is the small program logic the second part is proved in: `m`, run from
any house that is `h₀` as far as the ledger goes, leaves such a house and gives a result `Q`
holds of. It composes through `bind`, so each operation is checked step by step, one lemma per
step it is built from.
-/

namespace Auction

/-- An outcome that is an error and nothing else. -/
def Outcome.Failed {α : Type} (o : Outcome α) : Prop := o.result = none ∧ o.fault.isSome

/-- A placement outcome that refuses: an error, with at most a rejected result. -/
def Outcome.Rejected (o : Outcome BidResult) : Prop :=
  o.fault.isSome ∧ ∀ r ∈ o.result, r.status = .rejected

namespace House

variable {ε α β γ : Type}

/-! ### Runs that commit nothing -/

/-- `h` is `h₀` as far as the ledger goes: the same books and indexes, in the process and under
the ledger's keys on the shared server, the same settings, and no commit called in between. -/
structure Unwritten (h₀ h : House) : Prop where
  ledger : h.ledger = h₀.ledger
  ledgerKeys : ∀ r, h.server.lookup (SharedLedger.bookKey r) =
    h₀.server.lookup (SharedLedger.bookKey r)
  commits : h.commits = h₀.commits
  settings : h.settings = h₀.settings

/-- Every house is unwritten from itself. -/
theorem Unwritten.refl (h : House) : Unwritten h h := ⟨rfl, fun _ => rfl, rfl, rfl⟩

/-- Unwritten from an unwritten house is unwritten from where it started. -/
theorem Unwritten.trans {h₀ h₁ h₂ : House} (h₁₀ : Unwritten h₀ h₁) (h₂₁ : Unwritten h₁ h₂) :
    Unwritten h₀ h₂ :=
  ⟨h₂₁.ledger.trans h₁₀.ledger, fun r => (h₂₁.ledgerKeys r).trans (h₁₀.ledgerKeys r),
    h₂₁.commits.trans h₁₀.commits, h₂₁.settings.trans h₁₀.settings⟩

/-- The shared ledger reads the book of an auction off the book's key alone. -/
theorem SharedLedger.load_congr {s s' : KeyValue} {a : String}
    (hk : s.lookup (SharedLedger.bookKey a) = s'.lookup (SharedLedger.bookKey a)) :
    SharedLedger.load KeyValue.redis s a = SharedLedger.load KeyValue.redis s' a := by
  have hversion : KeyValue.redis.hget s (SharedLedger.bookKey a) "version" =
      KeyValue.redis.hget s' (SharedLedger.bookKey a) "version" := KeyValue.hget_congr hk _
  have hdata : KeyValue.redis.hget s (SharedLedger.bookKey a) "data" =
      KeyValue.redis.hget s' (SharedLedger.bookKey a) "data" := KeyValue.hget_congr hk _
  unfold SharedLedger.load SharedLedger.stored?
  rw [hversion, hdata]

/-- The shared ledger reads the auction of a bid off the key of the bid index alone. -/
theorem SharedLedger.findBidAuction_congr {s s' : KeyValue} {bidId : String}
    (hk : s.lookup SharedLedger.bidIndexKey = s'.lookup SharedLedger.bidIndexKey) :
    SharedLedger.findBidAuction KeyValue.redis s bidId =
      SharedLedger.findBidAuction KeyValue.redis s' bidId := by
  have hindex : KeyValue.redis.hget s SharedLedger.bidIndexKey bidId =
      KeyValue.redis.hget s' SharedLedger.bidIndexKey bidId := KeyValue.hget_congr hk _
  unfold SharedLedger.findBidAuction
  rw [hindex]

/-- The shared ledger reads the auction of an auto-bid off the key of the auto-bid index
alone. -/
theorem SharedLedger.findAutoBidAuction_congr {s s' : KeyValue} {autoBidId : String}
    (hk : s.lookup SharedLedger.autoBidIndexKey = s'.lookup SharedLedger.autoBidIndexKey) :
    SharedLedger.findAutoBidAuction KeyValue.redis s autoBidId =
      SharedLedger.findAutoBidAuction KeyValue.redis s' autoBidId := by
  have hindex : KeyValue.redis.hget s SharedLedger.autoBidIndexKey autoBidId =
      KeyValue.redis.hget s' SharedLedger.autoBidIndexKey autoBidId := KeyValue.hget_congr hk _
  unfold SharedLedger.findAutoBidAuction
  rw [hindex]

/-- A house unwritten since `h₀` holds the books `h₀` held. -/
theorem Unwritten.storedBook {h₀ h : House} (hh : Unwritten h₀ h) (a : String) :
    h.storedBook a = h₀.storedBook a := by
  unfold House.storedBook link
  rw [hh.settings, hh.ledger]
  split
  · rfl
  · split
    · exact SharedLedger.load_congr (hh.ledgerKeys a)
    · rfl

/-- A house unwritten since `h₀` finds the auction of a bid where `h₀` found it. -/
theorem Unwritten.bidAuction {h₀ h : House} (hh : Unwritten h₀ h) (bidId : String) :
    h.bidAuction bidId = h₀.bidAuction bidId := by
  unfold House.bidAuction link
  rw [hh.settings, hh.ledger]
  split
  · rfl
  · split
    · exact SharedLedger.findBidAuction_congr (hh.ledgerKeys "index:bids")
    · rfl

/-- A house unwritten since `h₀` finds the auction of an auto-bid where `h₀` found it. -/
theorem Unwritten.autoBidAuction {h₀ h : House} (hh : Unwritten h₀ h) (autoBidId : String) :
    h.autoBidAuction autoBidId = h₀.autoBidAuction autoBidId := by
  unfold House.autoBidAuction link
  rw [hh.settings, hh.ledger]
  split
  · rfl
  · split
    · exact SharedLedger.findAutoBidAuction_congr (hh.ledgerKeys "index:autobids")
    · rfl

/-- A change of the shared server that keeps every key of the ledger leaves the house
unwritten. -/
theorem Unwritten.onServer (h : House) {f : KeyValue → KeyValue}
    (hf : ∀ kv r, (f kv).lookup (SharedLedger.bookKey r) = kv.lookup (SharedLedger.bookKey r)) :
    Unwritten h (h.onServer f) := by
  unfold House.onServer
  split
  · exact ⟨rfl, hf h.server, rfl, rfl⟩
  · exact .refl h

/-- Run with any hooks from any house that is `h₀` as far as the ledger goes, `m` leaves such a
house, with a result that `Q` holds of. -/
def CommitsNothing (h₀ : House) (m : HouseM β) (Q : β → Prop) : Prop :=
  ∀ hooks h, Unwritten h₀ h → Unwritten h₀ ((m.run hooks).run h).2 ∧ Q ((m.run hooks).run h).1

namespace CommitsNothing

variable {h₀ : House} {m : HouseM β} {Q R : β → Prop}

/-- A value returned at once commits nothing. -/
theorem pure {x : β} (hx : Q x) : CommitsNothing h₀ (pure x) Q :=
  fun _ _ hh => ⟨hh, hx⟩

/-- Two steps that each commit nothing commit nothing in turn, the second from what the first gives.
-/
theorem bind {f : β → HouseM γ} {R : γ → Prop} (hm : CommitsNothing h₀ m Q)
    (hf : ∀ x, Q x → CommitsNothing h₀ (f x) R) : CommitsNothing h₀ (m >>= f) R := by
  intro hooks h hh
  obtain ⟨hh₁, hq⟩ := hm hooks h hh
  rw [run_bind]
  exact hf _ hq hooks _ hh₁

/-- What commits nothing with a result of `Q` commits nothing with a result of anything weaker. -/
theorem mono (hm : CommitsNothing h₀ m Q) (hQ : ∀ x, Q x → R x) : CommitsNothing h₀ m R :=
  fun hooks h hh => (hm hooks h hh).imp_right (hQ _)

/-- Reading the house gives a house that is `h₀` as far as the ledger goes. -/
theorem get : CommitsNothing h₀ get (Unwritten h₀) :=
  fun _ _ hh => ⟨hh, hh⟩

/-- A change of the house that leaves every house unwritten. -/
theorem modify {f : House → House} (hf : ∀ h, Unwritten h (f h)) :
    CommitsNothing h₀ (modify f) fun _ => True :=
  fun _ h hh => ⟨hh.trans (hf h), trivial⟩

end CommitsNothing

open CommitsNothing

variable {h₀ : House}

/-- Reading the clock commits nothing. -/
theorem clock_commitsNothing : CommitsNothing h₀ clock fun _ => True :=
  fun _ _ hh => ⟨hh, trivial⟩

/-- Drawing an id commits nothing. -/
theorem drawId_commitsNothing : CommitsNothing h₀ drawId fun _ => True :=
  fun _ _ hh => ⟨⟨hh.ledger, hh.ledgerKeys, hh.commits, hh.settings⟩, trivial⟩

/-- Publishing events commits nothing. -/
theorem publish_commitsNothing (events : List Event) :
    CommitsNothing h₀ (publish events) fun _ => True :=
  CommitsNothing.modify fun _ => ⟨rfl, fun _ => rfl, rfl, rfl⟩

/-- Asking whether an auction takes bids commits nothing. -/
theorem liveAuction_commitsNothing (auctionId : String) (now : Instant) :
    CommitsNothing h₀ (liveAuction auctionId now) fun _ => True :=
  fun hooks h hh => ⟨(liveAuction_run_snd auctionId now hooks h).symm ▸ hh, trivial⟩

/-! ### The compare-and-swap on a book it does not write -/

/-- A change that decides not to write the stored book `b`, keeping it or failing with
`d last`: `execute` then makes one attempt, which loads the book and returns that decision,
unless the attempts are none at all or an injected failure of the load comes first. -/
theorem execute_run_of_keeps {auctionId : String} {lift : Fault → ε} {init : α}
    {mutate : α → Book → HouseM (Except ε (Change α))} {d : α → Except ε α} {hooks : Hooks}
    {h : House} {b : Book} (hb : h.storedBook auctionId = .ok b)
    (hm : ∀ last, mutate last b = Pure.pure ((d last).map .keep)) :
    ((execute auctionId lift init mutate).run hooks).run h =
      if h.settings.maxAttempts = 0 then
        (.error (lift (.bid (BidError.standard .concurrencyConflict))), h)
      else if 0 < h.faults.loadErrors then
        (.error (lift (.wrap ("load auction book " ++ auctionId) (.injected "load"))),
          { h with faults := { h.faults with loadErrors := h.faults.loadErrors - 1 } })
      else ((d init).map (b, ·), h) := by
  rw [execute, run_get_bind]
  cases hn : h.settings.maxAttempts with
  | zero => rfl
  | succ n =>
    rw [retry, run_bind, surroundings_cancelled, run_pure, run_bind, surroundings_load, loadBook_run]
    simp only [Nat.add_one_ne_zero, if_false]
    by_cases he : 0 < h.faults.loadErrors
    · simp only [if_pos he]
      rfl
    · simp only [if_neg he]
      rw [hb, run_bind, hm]
      cases d init <;> rfl

/-- A change that refuses the stored book makes `execute` fail with nothing committed. -/
theorem execute_commitsNothing {auctionId : String} {lift : Fault → ε} {init : α}
    {mutate : α → Book → HouseM (Except ε (Change α))} {e : α → ε} {b : Book}
    (hb : h₀.storedBook auctionId = .ok b) (hm : ∀ last, mutate last b = Pure.pure (.error (e last))) :
    CommitsNothing h₀ (execute auctionId lift init mutate) fun r => ∃ err, r = .error err := by
  intro hooks h hh
  have hm' : ∀ last, mutate last b = Pure.pure ((Except.error (e last) : Except ε α).map .keep) :=
    hm
  rw [execute_run_of_keeps ((hh.storedBook auctionId).trans hb) hm']
  split_ifs
  · exact ⟨hh, _, rfl⟩
  · exact ⟨⟨hh.ledger, hh.ledgerKeys, hh.commits, hh.settings⟩, _, rfl⟩
  · exact ⟨hh, _, rfl⟩

/-- What runs after a refused compare-and-swap sees only its error. -/
theorem execute_bind_commitsNothing {auctionId : String} {lift : Fault → ε} {init : α}
    {mutate : α → Book → HouseM (Except ε (Change α))} {e : α → ε} {b : Book}
    {k : Except ε (Book × α) → HouseM β} {Q : β → Prop} (hb : h₀.storedBook auctionId = .ok b)
    (hm : ∀ last, mutate last b = Pure.pure (.error (e last)))
    (hk : ∀ err, CommitsNothing h₀ (k (.error err)) Q) :
    CommitsNothing h₀ (execute auctionId lift init mutate >>= k) Q :=
  (execute_commitsNothing hb hm).bind fun _ ⟨err, hr⟩ => hr ▸ hk err

end House

open House

/-! ### Changes of a closed book -/

/-- A placement on a closed book refuses the bid as not live and writes nothing. -/
theorem Placement.change_of_closed {req : PlaceRequest} {bid : Bid} {b : Book}
    (hc : b.closed = true) :
    Placement.change req bid b =
      pure (.error (.bid ⟨.auctionNotLive, "auction " ++ req.auctionId ++ " has finished"⟩, some b)) := by
  rw [Placement.change, if_pos hc]

/-- A withdrawal on a closed book is refused as not live. -/
theorem Withdrawal.change_of_closed {req : RetractRequest} {auctionId : String} {now : Instant}
    {window : Duration} {b : Book} (hc : b.closed = true) :
    Withdrawal.change req auctionId now window b =
      pure (.error (.bid ⟨.auctionNotLive, "auction " ++ auctionId ++ " has finished"⟩)) := by
  rw [Withdrawal.change, if_pos hc]

/-- A registration on a closed book is refused as not live. -/
theorem Proxy.register_of_closed {req : AutoBidRequest} {autoBidId : String} {now : Instant}
    {b : Book} (hc : b.closed = true) :
    Proxy.register req autoBidId now b =
      pure (.error (.bid ⟨.auctionNotLive, "auction " ++ req.auctionId ++ " has finished"⟩)) := by
  rw [Proxy.register, if_pos hc]

/-- Pausing, resuming and cancelling refuse a closed book before they look for the auto-bid;
their refusal names the auction the book records. -/
theorem Proxy.owned_of_closed {b : Book} {autoBidId userId : String} (hc : b.closed = true) :
    Proxy.owned b autoBidId userId =
      .error (.bid ⟨.auctionNotLive, "auction " ++ b.auctionId ++ " has finished"⟩) := by
  rw [Proxy.owned, if_pos hc]

/-- A pause or a resume on a closed book is refused as not live. -/
theorem Proxy.toggle_of_closed {autoBidId userId : String} {active : Bool} {now : Instant}
    {last : List Event} {b : Book} (hc : b.closed = true) :
    Proxy.toggle autoBidId userId active now last b =
      pure (.error (.bid ⟨.auctionNotLive, "auction " ++ b.auctionId ++ " has finished"⟩)) := by
  rw [Proxy.toggle, Proxy.owned_of_closed hc]

/-- A cancellation on a closed book is refused as not live. -/
theorem Proxy.cancel_of_closed {autoBidId userId : String} {now : Instant} {b : Book}
    (hc : b.closed = true) :
    Proxy.cancel autoBidId userId now b =
      pure (.error (.bid ⟨.auctionNotLive, "auction " ++ b.auctionId ++ " has finished"⟩)) := by
  rw [Proxy.cancel, Proxy.owned_of_closed hc]

/-- Closing a closed book keeps it. -/
theorem Book.closing_of_closed {closing : Instant} {u : Unit} {b : Book} (hc : b.closed = true) :
    Book.closing closing u b = pure (.ok (.keep ())) := by
  rw [Book.closing, if_pos hc]

/-! ### Placing a bid on a closed book -/

variable {h₀ : House}

/-- A rejected placement commits nothing and reports a refusal. -/
theorem Placement.reject_commitsNothing (bid : Bid) (book : Option Book) (f : Fault) :
    CommitsNothing h₀ (Placement.reject bid book f) Outcome.Rejected := by
  unfold Placement.reject
  split
  · exact .pure ⟨rfl, by simp⟩
  · split
    · exact .pure ⟨rfl, by simp⟩
    · refine drawId_commitsNothing.bind fun _ _ => ?_
      exact (publish_commitsNothing _).bind fun _ _ => .pure ⟨rfl, by simp⟩

/-- A placement on a closed book is refused, whichever check refuses it first. -/
theorem Placement.run_commitsNothing {req : PlaceRequest} {b : Book}
    (hb : h₀.storedBook req.auctionId = .ok b) (hc : b.closed = true) :
    CommitsNothing h₀ (Placement.run req) Outcome.Rejected := by
  unfold Placement.run
  refine clock_commitsNothing.bind fun now _ => ?_
  refine drawId_commitsNothing.bind fun id _ => ?_
  refine (liveAuction_commitsNothing _ _).bind fun check _ => ?_
  split
  · exact reject_commitsNothing _ _ _
  · exact reject_commitsNothing _ _ _
  · split
    · exact reject_commitsNothing _ _ _
    · refine execute_bind_commitsNothing hb (fun _ => change_of_closed hc) ?_
      rintro ⟨f, snapshot⟩
      dsimp only
      split
      · exact .pure ⟨rfl, by simp⟩
      · exact reject_commitsNothing _ _ _

/-! ### The idempotency guard -/

/-- A change of the shared server keeps the ledger in the process. -/
@[simp] theorem House.onServer_ledger (h : House) (f : KeyValue → KeyValue) :
    (h.onServer f).ledger = h.ledger := by
  unfold onServer; split <;> rfl

/-- A change of the shared server calls no commit. -/
@[simp] theorem House.onServer_commits (h : House) (f : KeyValue → KeyValue) :
    (h.onServer f).commits = h.commits := by
  unfold onServer; split <;> rfl

/-- A change of the shared server keeps the settings. -/
@[simp] theorem House.onServer_settings (h : House) (f : KeyValue → KeyValue) :
    (h.onServer f).settings = h.settings := by
  unfold onServer; split <;> rfl

/-- A store key starts with `i`, a key of the ledger with `b`. -/
theorem Guard.storeKey_ne_bookKey (bidderId key r : String) :
    Guard.storeKey bidderId key ≠ SharedLedger.bookKey r := fun h => by
  have hhead := congrArg (fun s : String => s.toList.head?) h
  simp [Guard.storeKey, SharedLedger.bookKey] at hhead

/-- A reservation on the shared server leaves it as its write under the key left it. -/
theorem SharedStore.reserve_state {σ : Type} {srv : RedisServer σ} {s s' : σ} {key : String}
    {lockTtl : Duration} {r : Reservation} (hr : SharedStore.reserve srv s key lockTtl = .ok (r, s')) :
    s' = (srv.setIfAbsent s key SharedStore.pendingMarker lockTtl).2 := by
  unfold SharedStore.reserve at hr
  rcases hw : srv.setIfAbsent s key SharedStore.pendingMarker lockTtl with ⟨wrote, s₁⟩
  rw [hw] at hr
  show s' = s₁
  cases wrote
  · simp only [Bool.false_eq_true, if_false] at hr
    split at hr
    · cases hr
    · cases hr
    · split at hr
      · cases hr
      · simp only [Except.ok.injEq, Prod.mk.injEq] at hr
        exact hr.2.symm
  · simp only [if_true, Except.ok.injEq, Prod.mk.injEq] at hr
    exact hr.2.symm

/-- A server that reads as before under every key of the ledger leaves the house unwritten. -/
theorem Unwritten.server (h : House) {kv : KeyValue}
    (hkv : ∀ r, kv.lookup (SharedLedger.bookKey r) = h.server.lookup (SharedLedger.bookKey r)) :
    Unwritten h { h with server := kv } :=
  ⟨rfl, hkv, rfl, rfl⟩

/-- Reserving a key other than the ledger's touches the store, in the process or on the server,
and nothing else. -/
theorem Guard.reserve_commitsNothing {key : String} (hkey : ∀ r, key ≠ SharedLedger.bookKey r) :
    CommitsNothing h₀ (Guard.reserve key) fun _ => True := by
  intro hooks h hh
  rw [Guard.reserve, run_get_bind]
  split
  · split
    · rename_i r kv hr
      refine ⟨hh.trans (Unwritten.server h fun r' => ?_), trivial⟩
      unfold link at hr
      split at hr
      · have hreserve : SharedStore.reserve KeyValue.redis h.server key h.settings.lockTtl =
            .ok (r, kv) := hr
        rw [SharedStore.reserve_state hreserve]
        exact KeyValue.lookup_setIfAbsent_of_ne (Ne.symm (hkey r')) _ _
      · cases hr
    · exact ⟨hh, trivial⟩
  · split
    · exact ⟨⟨hh.ledger, hh.ledgerKeys, hh.commits, hh.settings⟩, trivial⟩
    · exact ⟨hh, trivial⟩

/-- Storing a decided outcome under a key that is no book's key commits nothing. -/
theorem Guard.complete_commitsNothing {key : String} (hkey : ∀ r, key ≠ SharedLedger.bookKey r)
    (payload : String) : CommitsNothing h₀ (Guard.complete key payload) fun _ => True :=
  CommitsNothing.modify fun h => by
    split
    · exact Unwritten.onServer h fun _ r => KeyValue.lookup_set_of_ne (Ne.symm (hkey r)) _ _
    · exact ⟨rfl, fun _ => rfl, rfl, rfl⟩

/-- Freeing a key that is no book's key commits nothing. -/
theorem Guard.release_commitsNothing {key : String} (hkey : ∀ r, key ≠ SharedLedger.bookKey r) :
    CommitsNothing h₀ (Guard.release key) fun _ => True :=
  CommitsNothing.modify fun h => by
    split
    · refine Unwritten.onServer h fun kv r => ?_
      unfold SharedStore.release
      split
      · split
        · exact KeyValue.lookup_delete_of_ne (Ne.symm (hkey r))
        · rfl
      · rfl
    · exact ⟨rfl, fun _ => rfl, rfl, rfl⟩

/-- The guard around a computation that commits nothing commits nothing either. What it
returns is the computation's outcome, an error of the store, or, when the store held a decided
outcome for the key, that outcome replayed. -/
theorem Guard.execute_run {fn : HouseM (Outcome BidResult)} {Q : Outcome BidResult → Prop}
    (hfn : CommitsNothing h₀ fn Q) (hfail : ∀ f, Q ⟨none, some f⟩) (bidderId key : String)
    (hooks : Hooks) {h : House} (hh : Unwritten h₀ h) :
    Unwritten h₀ (((Guard.execute bidderId key fn).run hooks).run h).2 ∧
      (Q (((Guard.execute bidderId key fn).run hooks).run h).1 ∨
        ∃ text, (((Guard.reserve (Guard.storeKey bidderId key)).run hooks).run h).1 =
            .ok (.stored text) ∧
          (((Guard.execute bidderId key fn).run hooks).run h).1 = Guard.replay text) := by
  unfold Guard.execute
  by_cases hk : key.isEmpty
  · rw [if_pos hk]
    exact ((hfn.bind fun _ ho => .pure ho) hooks h hh).imp_right .inl
  · rw [if_neg hk, run_bind]
    have hh₁ : Unwritten h₀ _ :=
      (reserve_commitsNothing (storeKey_ne_bookKey bidderId key) hooks h hh).1
    rcases hr : ((Guard.reserve (storeKey bidderId key)).run hooks).run h with ⟨r, h₁⟩
    rw [hr] at hh₁
    rcases r with f | _ | text
    · refine ⟨hh₁, .inl ?_⟩
      dsimp only
      unfold refusal
      split
      · split
        · exact hfail _
        · exact hfail _
      · exact hfail _
    · dsimp only
      refine ((hfn.bind fun o ho => ?_) hooks h₁ hh₁).imp_right .inl
      unfold settle
      split
      · exact (complete_commitsNothing (storeKey_ne_bookKey bidderId key) _).bind fun _ _ =>
          .pure ho
      · exact (release_commitsNothing (storeKey_ne_bookKey bidderId key)).bind fun _ _ => .pure ho
    · exact ⟨hh₁, .inr ⟨text, rfl, rfl⟩⟩

/-- A placement on a closed book commits nothing; it is refused, unless the store held a decided
outcome for the bidder's key, which it replays. -/
theorem placeBid_of_closed {req : PlaceRequest} {h : House} {b : Book}
    (hb : h.storedBook req.auctionId = .ok b) (hc : b.closed = true) (hooks : Hooks) :
    Unwritten h (((placeBid req).run hooks).run h).2 ∧
      ((((placeBid req).run hooks).run h).1.Rejected ∨
        ∃ text, (((Guard.reserve (Guard.storeKey req.bidderId req.idempotencyKey)).run hooks).run
            h).1 = .ok (.stored text) ∧
          (((placeBid req).run hooks).run h).1 = Guard.replay text) := by
  rw [placeBid, run_get_bind]
  split
  · exact (Placement.run_commitsNothing hb hc hooks h (.refl h)).imp_right .inl
  · exact Guard.execute_run (Placement.run_commitsNothing hb hc) (fun _ => ⟨rfl, by simp⟩) _ _
      hooks (.refl h)

/-! ### Withdrawing, registering, pausing, resuming and cancelling on a closed book -/

/-- Finding the auction of a bid commits nothing and gives what the house's index holds. -/
theorem House.findBidAuction_commitsNothing (bidId : String) :
    CommitsNothing h₀ (findBidAuction bidId) (· = h₀.bidAuction bidId) :=
  fun _ _ hh => ⟨hh, hh.bidAuction bidId⟩

/-- Finding the auction of an auto-bid commits nothing and gives what the house's index holds. -/
theorem House.findAutoBidAuction_commitsNothing (autoBidId : String) :
    CommitsNothing h₀ (findAutoBidAuction autoBidId) (· = h₀.autoBidAuction autoBidId) :=
  fun _ _ hh => ⟨hh, hh.autoBidAuction autoBidId⟩

/-- A withdrawal of a bid of a closed auction fails and commits nothing. -/
theorem retractBid_commitsNothing {req : RetractRequest} {a : String} {b : Book}
    (hidx : h₀.bidAuction req.bidId = .ok a) (hb : h₀.storedBook a = .ok b)
    (hc : b.closed = true) :
    CommitsNothing h₀ (retractBid req) Outcome.Failed := by
  unfold retractBid
  refine (findBidAuction_commitsNothing _).bind ?_
  rintro _ rfl
  rw [hidx]
  refine clock_commitsNothing.bind fun now _ => ?_
  refine (liveAuction_commitsNothing _ _).bind fun check _ => ?_
  split
  · exact .pure ⟨rfl, rfl⟩
  · refine CommitsNothing.get.bind fun _ _ => ?_
    exact execute_bind_commitsNothing hb (fun _ => Withdrawal.change_of_closed hc) fun _ =>
      .pure ⟨rfl, rfl⟩

/-- A registration on a closed auction fails and commits nothing. -/
theorem createAutoBid_commitsNothing {req : AutoBidRequest} {b : Book}
    (hb : h₀.storedBook req.auctionId = .ok b) (hc : b.closed = true) :
    CommitsNothing h₀ (createAutoBid req) Outcome.Failed := by
  unfold createAutoBid
  split
  · exact .pure ⟨rfl, rfl⟩
  · refine clock_commitsNothing.bind fun now _ => ?_
    refine (liveAuction_commitsNothing _ _).bind fun check _ => ?_
    split
    · exact .pure ⟨rfl, rfl⟩
    · dsimp only
      split
      · exact .pure ⟨rfl, rfl⟩
      · refine drawId_commitsNothing.bind fun autoBidId _ => ?_
        exact execute_bind_commitsNothing hb (fun _ => Proxy.register_of_closed hc) fun _ =>
          .pure ⟨rfl, rfl⟩

/-- Pausing or resuming an auto-bid of a closed auction fails and commits nothing. -/
theorem toggleAutoBid_commitsNothing {autoBidId userId a : String} {active : Bool} {b : Book}
    (hidx : h₀.autoBidAuction autoBidId = .ok a) (hb : h₀.storedBook a = .ok b)
    (hc : b.closed = true) :
    CommitsNothing h₀ (toggleAutoBid autoBidId userId active) Outcome.Failed := by
  unfold toggleAutoBid
  refine (findAutoBidAuction_commitsNothing _).bind ?_
  rintro _ rfl
  rw [hidx]
  refine clock_commitsNothing.bind fun now _ => ?_
  dsimp only
  split
  · refine (liveAuction_commitsNothing _ _).bind fun check _ => ?_
    split
    · exact .pure ⟨rfl, rfl⟩
    · exact execute_bind_commitsNothing hb (fun _ => Proxy.toggle_of_closed hc) fun _ =>
        .pure ⟨rfl, rfl⟩
  · exact execute_bind_commitsNothing hb (fun _ => Proxy.toggle_of_closed hc) fun _ =>
      .pure ⟨rfl, rfl⟩

/-- Cancelling an auto-bid of a closed auction fails and commits nothing. -/
theorem cancelAutoBid_commitsNothing {autoBidId userId a : String} {b : Book}
    (hidx : h₀.autoBidAuction autoBidId = .ok a) (hb : h₀.storedBook a = .ok b)
    (hc : b.closed = true) :
    CommitsNothing h₀ (cancelAutoBid autoBidId userId) Outcome.Failed := by
  unfold cancelAutoBid
  refine (findAutoBidAuction_commitsNothing _).bind ?_
  rintro _ rfl
  rw [hidx]
  refine clock_commitsNothing.bind fun now _ => ?_
  exact execute_bind_commitsNothing hb (fun _ => Proxy.cancel_of_closed hc) fun _ =>
    .pure ⟨rfl, rfl⟩

/-! ### Closing a closed book again -/

/-- A status key starts with `a`, a key of the ledger with `b`. -/
theorem House.statusKey_ne_bookKey (auctionId r : String) :
    statusKey auctionId ≠ SharedLedger.bookKey r := fun h => by
  have hhead := congrArg (fun s : String => s.toList.head?) h
  simp [statusKey, SharedLedger.bookKey] at hhead

/-- Marking an auction finished commits nothing. -/
theorem House.markFinished_commitsNothing (auctionId : String) :
    CommitsNothing h₀ (markFinished auctionId) fun _ => True :=
  CommitsNothing.modify fun h => by
    split
    · unfold storeStatus
      split
      · exact .refl h
      · exact ⟨rfl, fun _ => rfl, rfl, rfl⟩
      · exact Unwritten.onServer h fun _ r =>
          KeyValue.lookup_set_of_ne (Ne.symm (statusKey_ne_bookKey auctionId r)) _ _
    · exact .refl h

/-- Reading the clock gives the house's time and changes nothing. -/
theorem House.clock_run (hooks : Hooks) (h : House) : ((clock.run hooks).run h) = (h.now, h) := rfl

/-- Closing a closed book again succeeds and commits nothing, when the house allows an attempt
and no failure of the load is injected. -/
theorem finishAuction_of_closed {auctionId : String} {finishedAt : Instant} {h : House} {b : Book}
    (hb : h.storedBook auctionId = .ok b) (hc : b.closed = true)
    (hatt : 0 < h.settings.maxAttempts) (hload : h.faults.loadErrors = 0) (hooks : Hooks) :
    Unwritten h (((finishAuction auctionId finishedAt).run hooks).run h).2 ∧
      (((finishAuction auctionId finishedAt).run hooks).run h).1 = none := by
  have hkeep : ∀ u, Book.closing (if finishedAt.isZero then h.now else finishedAt) u b =
      Pure.pure ((Except.ok () : Except Fault Unit).map .keep) :=
    fun _ => Book.closing_of_closed hc
  rw [finishAuction, run_bind, clock_run, run_bind, execute_run_of_keeps hb hkeep]
  simp only [Nat.pos_iff_ne_zero.mp hatt, hload, Nat.lt_irrefl, if_false]
  have hrest : CommitsNothing h (markFinished auctionId >>= fun _ => pure none)
      (· = (none : Option Fault)) :=
    (markFinished_commitsNothing _).bind fun _ _ => .pure rfl
  exact hrest hooks h (.refl h)

/-! ### Runs of committed operations -/

/-- No operation commits on a closed book: each change refuses it or keeps it. -/
theorem Committed.closed_eq_false {b b' : Book} (h : Committed b b') : b.closed = false := by
  cases h with
  | place _ _ _ _ _ _ hw => exact (Placement.change_writes hw).1
  | retract _ _ _ _ _ hw => exact (Withdrawal.change_writes hw).1
  | finish _ hw => exact (Book.closing_writes hw).1
  | register _ _ _ _ _ _ hw => exact (Proxy.register_writes hw).1
  | toggle _ _ _ _ _ _ hw =>
    obtain ⟨_, _, ho, -⟩ := Proxy.toggle_writes hw
    exact (Proxy.owned_eq_ok ho).1
  | cancel _ _ _ hw =>
    obtain ⟨_, _, ho, -⟩ := Proxy.cancel_writes hw
    exact (Proxy.owned_eq_ok ho).1

/-- A run of committed operations from a closed book never leaves it. -/
theorem eq_of_closed_of_reflTransGen {b b' : Book} (hc : b.closed = true)
    (hr : Relation.ReflTransGen Committed b b') : b' = b := by
  induction hr with
  | refl => rfl
  | tail _ hstep ih =>
    subst ih
    have := hstep.closed_eq_false
    simp_all

/-! ### A closed book is frozen -/

/-- What a closed book of the auction `a` in the ledger of `h` guarantees, whatever the hooks of
a commit would run. -/
structure House.Frozen (h : House) (a : String) (hooks : Hooks) : Prop where
  /-- No run of committed operations leaves the stored book. -/
  runs : ∀ b b', h.storedBook a = .ok b → Relation.ReflTransGen Committed b b' → b' = b
  /-- A placement commits nothing and is refused, unless it replays the decided outcome the
  store held for the bidder's key. -/
  place : ∀ req : PlaceRequest, req.auctionId = a →
    Unwritten h (((placeBid req).run hooks).run h).2 ∧
      ((((placeBid req).run hooks).run h).1.Rejected ∨
        ∃ text, (((Guard.reserve (Guard.storeKey req.bidderId req.idempotencyKey)).run hooks).run
            h).1 = .ok (.stored text) ∧
          (((placeBid req).run hooks).run h).1 = Guard.replay text)
  /-- A withdrawal of one of its bids commits nothing and fails. -/
  retract : ∀ req : RetractRequest, h.bidAuction req.bidId = .ok a →
    Unwritten h (((retractBid req).run hooks).run h).2 ∧
      (((retractBid req).run hooks).run h).1.Failed
  /-- A registration on it commits nothing and fails. -/
  register : ∀ req : AutoBidRequest, req.auctionId = a →
    Unwritten h (((createAutoBid req).run hooks).run h).2 ∧
      (((createAutoBid req).run hooks).run h).1.Failed
  /-- Pausing or resuming one of its auto-bids commits nothing and fails. -/
  toggle : ∀ autoBidId userId active, h.autoBidAuction autoBidId = .ok a →
    Unwritten h (((toggleAutoBid autoBidId userId active).run hooks).run h).2 ∧
      (((toggleAutoBid autoBidId userId active).run hooks).run h).1.Failed
  /-- Cancelling one of its auto-bids commits nothing and fails. -/
  cancel : ∀ autoBidId userId, h.autoBidAuction autoBidId = .ok a →
    Unwritten h (((cancelAutoBid autoBidId userId).run hooks).run h).2 ∧
      (((cancelAutoBid autoBidId userId).run hooks).run h).1.Failed
  /-- Closing it again commits nothing and succeeds, when the house allows an attempt and no
  failure of the load is injected. -/
  finish : ∀ finishedAt, 0 < h.settings.maxAttempts → h.faults.loadErrors = 0 →
    Unwritten h (((finishAuction a finishedAt).run hooks).run h).2 ∧
      (((finishAuction a finishedAt).run hooks).run h).1 = none

/-- Once the ledger, in the process or on the shared server, holds a closed book for an auction,
the book is frozen: nothing the service does on the auction commits, and everything but closing
it again fails. -/
theorem closed_books_stay_frozen {h : House} {a : String} {b : Book}
    (hb : h.storedBook a = .ok b) (hc : b.closed = true) (hooks : Hooks) : h.Frozen a hooks where
  runs _ _ hb₁ hr := by
    rw [hb] at hb₁
    cases hb₁
    exact eq_of_closed_of_reflTransGen hc hr
  place _ hreq := placeBid_of_closed (hreq ▸ hb) hc hooks
  retract _ hidx := retractBid_commitsNothing hidx hb hc hooks h (.refl h)
  register _ hreq := createAutoBid_commitsNothing (hreq ▸ hb) hc hooks h (.refl h)
  toggle _ _ _ hidx := toggleAutoBid_commitsNothing hidx hb hc hooks h (.refl h)
  cancel _ _ hidx := cancelAutoBid_commitsNothing hidx hb hc hooks h (.refl h)
  finish _ hatt hload := finishAuction_of_closed hb hc hatt hload hooks

/-- On the default scenario, `u` bids 100 on `a-1`, `w` registers an auto-bid up to 500, which
answers at once, and the auction is closed. -/
def closedWithBids : House :=
  let bid : PlaceRequest :=
    { auctionId := "a-1", bidderId := "u", bidderUsername := "u", amount := 100,
      idempotencyKey := "" }
  let proxy : AutoBidRequest := { auctionId := "a-1", userId := "w", username := "w", maxAmount := 500 }
  let afterBid := (((placeBid bid).run Hooks.quiet).run Scenario.defaultHouse).2
  let afterAutoBid := (((createAutoBid proxy).run Hooks.quiet).run afterBid).2
  (((finishAuction "a-1" Instant.zero).run Hooks.quiet).run afterAutoBid).2

/-- The closed book of `closedWithBids` holds the bid, the auto-bid and the auto-bid's answer,
and it is frozen. -/
theorem closed_books_stay_frozen_with_bids :
    closedWithBids.storedBook "a-1" = .ok (closedWithBids.ledger.load "a-1") ∧
      (closedWithBids.ledger.load "a-1").closed = true ∧
      (closedWithBids.ledger.load "a-1").bids.length = 2 ∧
      (closedWithBids.ledger.load "a-1").autoBids.length = 1 ∧
      closedWithBids.Frozen "a-1" Hooks.quiet := by
  have hl : closedWithBids.settings.ledger = .inProcess := by
    set_option maxRecDepth 20000 in
    decide +kernel
  have hc : (closedWithBids.ledger.load "a-1").closed = true := by
    set_option maxRecDepth 20000 in
    decide +kernel
  have hbids : (closedWithBids.ledger.load "a-1").bids.length = 2 := by
    set_option maxRecDepth 20000 in
    decide +kernel
  have hauto : (closedWithBids.ledger.load "a-1").autoBids.length = 1 := by
    set_option maxRecDepth 20000 in
    decide +kernel
  exact ⟨storedBook_of_inProcess hl "a-1", hc, hbids, hauto,
    closed_books_stay_frozen (storedBook_of_inProcess hl "a-1") hc Hooks.quiet⟩

/-- Bidder `u` bids 100 on `a-1` with the client key `k`. -/
def keyedBid : PlaceRequest :=
  { auctionId := "a-1", bidderId := "u", bidderUsername := "u-name", amount := 100,
    idempotencyKey := "k" }

/-- The house of a default scenario after `keyedBid` was accepted and `a-1` was closed. -/
def keyedBidThenClose : House :=
  let afterBid := (((placeBid keyedBid).run Hooks.quiet).run Scenario.defaultHouse).2
  (((finishAuction "a-1" Instant.zero).run Hooks.quiet).run afterBid).2

/-- Repeating an accepted placement with its key after the close returns the stored outcome:
no error, and an accepted result, although the book is closed. -/
theorem placeBid_replays_accepted_after_close :
    (keyedBidThenClose.ledger.load "a-1").closed = true ∧
      (((placeBid keyedBid).run Hooks.quiet).run keyedBidThenClose).1.fault = none ∧
      (((placeBid keyedBid).run Hooks.quiet).run keyedBidThenClose).1.result.map (·.status) =
        some .accepted := by
  set_option maxRecDepth 20000 in
  decide +kernel

end Auction
