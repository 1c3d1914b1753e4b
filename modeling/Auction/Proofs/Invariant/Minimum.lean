import Auction.Proofs.Invariant.Lead

/-!
# The advertised minimum is the acceptance rule

Clients are told `Book.minimumNextBid`: zero while the cached lead has no id, and otherwise the
minimum next bid over the cached amount. It is what the state of an auction reports, and what a
placement reports beside its accepted or rejected bid. `Txn.accept`, the one door into the book
for manual and synthetic bids, decides by another test: `isValidBidAmount` over the cached
amount, which asks for no increment when that amount is zero.

The two tests for a leader, an empty id and a zero amount, agree on every book that holds the
invariant (`Book.Wf.highestBidId_eq_empty_iff`): a vacant book clears both, and a led book caches
its leader's non-empty id and positive amount. So the acceptance rule is exactly "positive and at
least the advertised minimum" (`Book.Wf.accept_iff`), on every reachable book
(`reachable_accept_iff_minimum`) and on every working book of a cascade, which holds the
invariant too.
-/

namespace Auction

namespace Book

variable {b : Book}

/-- On a book that holds the invariant the two tests for a leader agree: the cached id is empty
exactly when the cached amount is zero. -/
theorem Wf.highestBidId_eq_empty_iff (hw : b.Wf) :
    b.highestBidId = "" ↔ b.highestAmount.isZero = true := by
  rcases hw.lead with ⟨hid, hamt, -, -⟩ | ⟨pre, L, post, hL⟩
  · rw [hamt]
    exact iff_of_true hid rfl
  · have hLmem : L ∈ b.bids := hL.bids_eq ▸ by simp
    rw [hL.highestBidId_eq, hL.highestAmount_eq, Decimal.isZero_iff]
    exact iff_of_false (hw.ids_ne L hLmem) (hw.amount_pos L hLmem).ne'

/-- On a book that holds the invariant the acceptance rule over the cached amount asks for a
positive amount at least the advertised minimum. -/
theorem Wf.isValidBidAmount_iff (hw : b.Wf) (p : Decimal) :
    isValidBidAmount p b.highestAmount = true ↔ 0 < p ∧ b.minimumNextBid ≤ p := by
  rw [Auction.isValidBidAmount_iff, Decimal.lt_iff_toRat, Decimal.le_iff_toRat, minimumNextBid]
  by_cases hid : b.highestBidId = ""
  · have hzero := Decimal.isZero_iff.mp (hw.highestBidId_eq_empty_iff.mp hid)
    have hid' : b.highestBidId.isEmpty = true := String.isEmpty_iff.mpr hid
    simp only [hid', if_true, hzero, Decimal.toRat_ofNat, Nat.cast_zero, true_or, and_true]
    exact ⟨fun h => ⟨h, h.le⟩, fun h => h.1⟩
  · have hne : b.highestAmount.toRat ≠ 0 :=
      fun h0 => hid (hw.highestBidId_eq_empty_iff.mpr (Decimal.isZero_iff.mpr h0))
    have hid' : b.highestBidId.isEmpty = false :=
      Bool.eq_false_iff.mpr (mt String.isEmpty_iff.mp hid)
    simp only [hid', Bool.false_eq_true, if_false, hne, false_or, Decimal.toRat_ofNat,
      Nat.cast_zero]

/-- On a book that holds the invariant a bid enters exactly when its amount is positive and at
least the advertised minimum. -/
theorem Wf.accept_iff (hw : b.Wf) {t : Txn} (ht : t.book = b) (bid : Bid) :
    (∃ t', (Txn.accept bid).run.run t = (.ok (), t')) ↔
      0 < bid.amount ∧ b.minimumNextBid ≤ bid.amount := by
  subst ht
  rw [← hw.isValidBidAmount_iff, ← Txn.refusal_eq_none_iff]
  constructor
  · rintro ⟨t', h⟩
    exact (Txn.accept_eq_ok h).1
  · intro h
    obtain ⟨t', h', -⟩ := Txn.accept_run h
    exact ⟨t', h'⟩

end Book

/-- On every book committed operations reach, the test for a leader by its id and the test by
its amount agree, and a bid, manual or synthetic, enters exactly when its amount is positive
and at least the minimum next bid the book advertises. -/
theorem reachable_accept_iff_minimum {b : Book} (hb : Reachable b) :
    (b.highestBidId = "" ↔ b.highestAmount.isZero = true) ∧
      ∀ (t : Txn) (bid : Bid), t.book = b →
        ((∃ t', (Txn.accept bid).run.run t = (.ok (), t')) ↔
          0 < bid.amount ∧ b.minimumNextBid ≤ bid.amount) :=
  ⟨hb.wf.highestBidId_eq_empty_iff, fun _ bid ht => hb.wf.accept_iff ht bid⟩

/-- The book a withdrawal reached after a cascade of two auto-bids advertises the minimum its
transactions accept. -/
theorem reachable_accept_iff_minimum_withdrawn :
    Reachable withdrawnBook ∧
      withdrawnBook.bids.map (·.status) = [.outbid, .outbid, .accepted, .retracted] ∧
      withdrawnBook.autoBids.map (·.isActive) = [false, true] ∧
      (withdrawnBook.highestBidId = "" ↔ withdrawnBook.highestAmount.isZero = true) ∧
      ∀ (t : Txn) (bid : Bid), t.book = withdrawnBook →
        ((∃ t', (Txn.accept bid).run.run t = (.ok (), t')) ↔
          0 < bid.amount ∧ withdrawnBook.minimumNextBid ≤ bid.amount) :=
  ⟨withdrawnBook_reachable, withdrawnBook_shape.1, withdrawnBook_shape.2,
    reachable_accept_iff_minimum withdrawnBook_reachable⟩

end Auction
