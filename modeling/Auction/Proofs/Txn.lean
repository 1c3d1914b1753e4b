import Mathlib
import Auction.Proofs.Book

/-!
# Running a transaction

A transaction runs in `ExceptT Fault (StateM Txn)`; `m.run.run t` is the outcome and the state
it leaves. The lemmas here are what every later proof opens a transaction with: a bind runs its
first part and passes the state on (`run_bind`), and `accept` either refuses with the state
untouched (`accept_run_of_refusal`) or leaves the book `entered` made, with three more ids
drawn (`accept_run`). The acceptance rule itself is `refusal_eq_none_iff`: a bid enters exactly
when `isValidBidAmount` holds over the cached lead.

Ids are drawn from a count: the `n`-th is `idOf n`, and ids of different counts differ
(`idOf_injective`). `Book.FreshAbove b n` says the ids a transaction will draw after the count
`n` are new to the bids of `b`; with it, each bid the transaction accepts takes the lead
(`Txn.highestBid?_entered`).
-/

namespace Auction

namespace Txn

variable {α β : Type}

/-- Running two steps of a transaction runs the first, and the second from where it left off unless
the first failed. -/
theorem run_bind (x : TxnM α) (f : α → TxnM β) (t : Txn) :
    (x >>= f).run.run t = match x.run.run t with
      | (.ok a, t') => (f a).run.run t'
      | (.error e, t') => (.error e, t') := by
  simp only [ExceptT.run_bind, StateT.run_bind]
  rcases x.run.run t with ⟨_ | a, t'⟩ <;> rfl

/-- Reading the transaction hands it to what follows. -/
theorem run_get_bind (f : Txn → TxnM β) (t : Txn) :
    ((get : TxnM Txn) >>= f).run.run t = (f t).run.run t := rfl

/-- A value returned at once leaves the transaction. -/
@[simp] theorem run_pure (a : α) (t : Txn) : (pure a : TxnM α).run.run t = (.ok a, t) := rfl

/-- A handler runs only on a failure, from the state the failure left. -/
theorem run_tryCatch (x : TxnM α) (h : Fault → TxnM α) (t : Txn) :
    (tryCatch x h : TxnM α).run.run t = match x.run.run t with
      | (.ok a, t') => (.ok a, t')
      | (.error e, t') => (h e).run.run t' := by
  show (ExceptT.tryCatch x h).run.run t = _
  simp only [ExceptT.tryCatch, ExceptT.run_mk, StateT.run_bind]
  rw [show StateT.run x t = x.run.run t from rfl]
  rcases x.run.run t with ⟨_ | a, t'⟩ <;> rfl

/-- A bind that succeeded ran its first part to success, and the rest from there. -/
theorem run_bind_eq_ok {x : TxnM α} {f : α → TxnM β} {t t' : Txn} {b : β}
    (h : (x >>= f).run.run t = (.ok b, t')) :
    ∃ a t₁, x.run.run t = (.ok a, t₁) ∧ (f a).run.run t₁ = (.ok b, t') := by
  rw [run_bind] at h
  rcases hx : x.run.run t with ⟨e | a, t₁⟩
  · rw [hx] at h
    cases h
  · rw [hx] at h
    exact ⟨a, t₁, rfl, h⟩

/-- Modifying the transaction applies the change. -/
@[simp] theorem run_modify (f : Txn → Txn) (t : Txn) :
    (modify f : TxnM Unit).run.run t = (.ok (), f t) := rfl

/-- Emitting draws the next id and appends the event under it, about the book's auction, at the
transaction's time. -/
theorem run_emit (p : Payload) (t : Txn) :
    (emit p).run.run t =
      (.ok (), { t with
        drawn := t.drawn + 1
        events := t.events ++ [⟨idOf (t.drawn + 1), t.book.auctionId, t.now, p⟩] }) := rfl

/-- Drawing an id gives the next one and counts it. -/
@[simp] theorem run_drawId (t : Txn) :
    drawId.run.run t = (.ok (idOf (t.drawn + 1)), { t with drawn := t.drawn + 1 }) := rfl

/-- Changing the working book applies the change to it. -/
@[simp] theorem run_modifyBook (f : Book → Book) (t : Txn) :
    (modifyBook f).run.run t = (.ok (), { t with book := f t.book }) := rfl

/-- Distinct counts give distinct ids. -/
theorem idOf_injective : Function.Injective idOf := by
  intro m n h
  rw [idOf, idOf, String.append_right_inj] at h
  exact Nat.repr_inj.mp h

/-- No id is empty. -/
theorem idOf_ne_empty (n : Nat) : idOf n ≠ "" := by
  intro h
  have := congrArg String.length h
  simp [idOf] at this

/-- A bid is refused exactly when the acceptance rule fails over the cached lead. -/
theorem refusal_eq_none_iff (amount highest : Decimal) :
    refusal amount highest = none ↔ isValidBidAmount amount highest = true := by
  rw [refusal]
  by_cases hp : amount.isPos = true
  · by_cases hv : isValidBidAmount amount highest = true <;> simp [hp, hv]
  · have hv : isValidBidAmount amount highest = false := by
      simp [isValidBidAmount, hp]
    simp [hp, hv]

/-- A bid the acceptance rule refuses fails with the refusal and leaves the transaction. -/
theorem accept_run_of_refusal {t : Txn} {bid : Bid} {e : BidError}
    (h : refusal bid.amount t.book.highestAmount = some e) :
    (accept bid).run.run t = (.error (.bid e), t) := by
  rw [accept, run_get_bind]
  simp only [h]
  rfl

/-- An accepted bid leaves the book `entered` made, at the same moment, with its three events'
ids drawn. -/
theorem accept_run {t : Txn} {bid : Bid} (h : refusal bid.amount t.book.highestAmount = none) :
    ∃ t', (accept bid).run.run t = (.ok (), t') ∧ t'.book = (entered t.book bid t.now).1 ∧
      t'.now = t.now ∧ t'.drawn = t.drawn + 3 := by
  rw [accept, run_get_bind]
  simp only [h]
  exact ⟨_, rfl, rfl, rfl, rfl⟩

/-- An accepted bid passed the acceptance rule and left the book `entered` made. -/
theorem accept_eq_ok {t t' : Txn} {bid : Bid} (h : (accept bid).run.run t = (.ok (), t')) :
    refusal bid.amount t.book.highestAmount = none ∧ t'.book = (entered t.book bid t.now).1 ∧
      t'.now = t.now ∧ t'.drawn = t.drawn + 3 := by
  cases hr : refusal bid.amount t.book.highestAmount with
  | some e =>
    rw [accept_run_of_refusal hr] at h
    cases h
  | none =>
    obtain ⟨t₁, h₁, hb, hn, hd⟩ := accept_run hr
    rw [h₁, Prod.mk.injEq] at h
    obtain ⟨-, rfl⟩ := h
    exact ⟨rfl, hb, hn, hd⟩

end Txn

/-- The ids a transaction draws after the count `n` are new to the bids of `b`. -/
def Book.FreshAbove (b : Book) (n : Nat) : Prop := ∀ x ∈ b.bids, ∀ k, n < k → x.id ≠ Txn.idOf k

/-- Ids fresh above a count are fresh above every larger count. -/
theorem Book.FreshAbove.mono {b : Book} {m n : Nat} (h : b.FreshAbove m) (hmn : m ≤ n) :
    b.FreshAbove n :=
  fun x hx k hk => h x hx k (by omega)

/-- A book whose bids carry ids among the first `n` drawn is fresh above `n`. -/
theorem Book.freshAbove_of_ids {b : Book} {n : Nat}
    (h : b.bids.map (·.id) ⊆ (List.range (n + 1)).map Txn.idOf) : b.FreshAbove n := by
  intro x hx k hk hxk
  obtain ⟨m, hm, hmx⟩ := List.mem_map.mp (h (List.mem_map_of_mem hx))
  have hmk : m = k := Txn.idOf_injective (hmx.trans hxk)
  have hmn : m < n + 1 := List.mem_range.mp hm
  omega

/-- A bid entered under the `m`-th id keeps new the ids after any count past `m` and `n`. -/
theorem Book.FreshAbove.entered {b : Book} {n n' m : Nat} {bid : Bid} {now : Instant}
    (h : b.FreshAbove n) (hid : bid.id = Txn.idOf m) (hm : m ≤ n') (hn : n ≤ n') :
    (Txn.entered b bid now).1.FreshAbove n' := by
  intro x hx k hk
  have hmem : x.id ∈ b.bids.map (·.id) ++ [bid.id] :=
    Txn.entered_bid_ids b bid now ▸ List.mem_map_of_mem hx
  rcases List.mem_append.mp hmem with hold | hnew
  · obtain ⟨y, hy, hyid⟩ := List.mem_map.mp hold
    rw [← hyid]
    exact h y hy k (by omega)
  · rw [List.mem_singleton.mp hnew, hid]
    exact fun e => absurd (Txn.idOf_injective e) (by omega)

end Auction
