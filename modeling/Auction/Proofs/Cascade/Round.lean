import Mathlib
import Auction.Proofs.Cascade.Responder

/-!
# One round of the cascade

A round reads the lead, picks the responder and the ceiling (`selectResponder`) and, while the
bound allows, enters the responder's bid of `answerAmount` through `Txn.accept` and records it
on the auto-bid. Here a round is a set of equations over `afterAnswer`, the book that one answer
leaves (`rounds_of_no_leader`, `rounds_of_no_responder`, `rounds_answer`). The rest says what
one answer does to the lead:

* its bid passes the acceptance rule whenever the cached lead agrees with the leading bid
  (`refusal_answerAmount`), so no round fails on its own bid;
* it either **spends** the responder, which then bids its whole maximum, or **clears** the
  ceiling (`answerAmount_spends_or_clears`); after a clearing answer no auto-bid can answer the
  new lead (`candidates_afterAnswer_of_clears`).

`Book.LeadAgrees` (the cached lead is the leading bid's, and positive) is what a round needs of
its book, and `Book.Quiet` is what a settled book offers: nobody else could still raise it.
-/

namespace Auction

/-- The cached lead agrees with the leading bid, and a lead is positive. -/
def Book.LeadAgrees (b : Book) : Prop :=
  ∀ L, b.highestBid? = some L → L.amount.toRat = b.highestAmount.toRat ∧ 0 < b.highestAmount.toRat

/-- No active auto-bid of another user than the leader reaches the minimum next bid. -/
def Book.Quiet (b : Book) : Prop :=
  ∀ L, b.highestBid? = some L → ∀ a ∈ b.autoBids, a.isActive = true → a.userId ≠ L.bidderId →
    a.maxAmount < Auction.minimumNextBid b.highestAmount

namespace Cascade

open Txn

/-- Recording an answer keeps the auto-bid's id. -/
@[simp] theorem recordBid_id (a : AutoBid) (amount : Decimal) (now : Instant) :
    (recordBid a amount now).id = a.id := rfl

/-- Recording an answer keeps the auto-bid's user. -/
@[simp] theorem recordBid_userId (a : AutoBid) (amount : Decimal) (now : Instant) :
    (recordBid a amount now).userId = a.userId := rfl

/-- Recording an answer keeps the auto-bid's maximum. -/
@[simp] theorem recordBid_maxAmount (a : AutoBid) (amount : Decimal) (now : Instant) :
    (recordBid a amount now).maxAmount = a.maxAmount := rfl

/-- Recording an answer keeps whether the auto-bid is active. -/
@[simp] theorem recordBid_isActive (a : AutoBid) (amount : Decimal) (now : Instant) :
    (recordBid a amount now).isActive = a.isActive := rfl

/-- Recording an answer keeps whether and when the auto-bid was cancelled. -/
@[simp] theorem recordBid_cancelledAt (a : AutoBid) (amount : Decimal) (now : Instant) :
    (recordBid a amount now).cancelledAt = a.cancelledAt := rfl

/-- Recording an answer makes its amount the auto-bid's current bid. -/
@[simp] theorem recordBid_currentBidAmount (a : AutoBid) (amount : Decimal) (now : Instant) :
    (recordBid a amount now).currentBidAmount = amount := rfl

/-- The book after the auto-bid `r` at position `i` answered the lead with `amount` under the
id `id`: the bid entered, and the auto-bid recorded it. -/
def afterAnswer (b : Book) (i : Nat) (r : AutoBid) (id : String) (amount : Decimal)
    (now : Instant) : Book :=
  (entered b (bidFor r b.auctionId id amount now) now).1.modifyAutoBid i (recordBid · amount now)

section AfterAnswer

variable {b : Book} {i : Nat} {r : AutoBid} {id : String} {amount : Decimal} {now : Instant}

/-- An answer records its amount on the answering auto-bid. -/
@[simp] theorem afterAnswer_autoBids :
    (afterAnswer b i r id amount now).autoBids = updateAt b.autoBids i (recordBid · amount now) := by
  simp [afterAnswer]

/-- An answer's amount is the lead's amount. -/
@[simp] theorem afterAnswer_highestAmount : (afterAnswer b i r id amount now).highestAmount = amount := by
  simp [afterAnswer, Book.modifyAutoBid, bidFor]

/-- An answer keeps the auction. -/
@[simp] theorem afterAnswer_auctionId : (afterAnswer b i r id amount now).auctionId = b.auctionId := by
  simp [afterAnswer, Book.modifyAutoBid]

/-- An answer enters its bid as a placed bid would be entered. -/
theorem afterAnswer_bids :
    (afterAnswer b i r id amount now).bids = (entered b (bidFor r b.auctionId id amount now) now).1.bids :=
  rfl

/-- An answer under a fresh id leads. -/
theorem highestBid?_afterAnswer (hne : id ≠ "") (hfresh : ∀ x ∈ b.bids, x.id ≠ id) :
    (afterAnswer b i r id amount now).highestBid? =
      some (entered b (bidFor r b.auctionId id amount now) now).2 := by
  rw [afterAnswer, Book.highestBid?_modifyAutoBid]
  exact highestBid?_entered hne hfresh

/-- An answer's user leads. -/
@[simp] theorem afterAnswer_highestBidderId :
    (afterAnswer b i r id amount now).highestBidderId = r.userId := by
  simp [afterAnswer, Book.modifyAutoBid, bidFor]

/-- After an answer under a fresh id the cached lead is the answer's, positive when its amount
is. -/
theorem leadAgrees_afterAnswer (hne : id ≠ "") (hfresh : ∀ x ∈ b.bids, x.id ≠ id)
    (hpos : 0 < amount.toRat) : (afterAnswer b i r id amount now).LeadAgrees := by
  intro L' hL'
  rw [highestBid?_afterAnswer hne hfresh, Option.some.injEq] at hL'
  subst hL'
  rw [afterAnswer_highestAmount]
  exact ⟨rfl, hpos⟩

/-- An answer under the next id keeps the ids after the three events' new. -/
theorem freshAbove_afterAnswer {n : Nat} (h : b.FreshAbove n) :
    (afterAnswer b i r (idOf (n + 1)) amount now).FreshAbove (n + 4) :=
  @Book.FreshAbove.entered b n (n + 4) (n + 1) _ now h rfl (by omega) (by omega)

/-- What an answer keeps of every auto-bid, the one that answered included. -/
theorem afterAnswer_autoBid {j : Nat} {a : AutoBid}
    (h : (afterAnswer b i r id amount now).autoBids[j]? = some a) :
    ∃ a₀, b.autoBids[j]? = some a₀ ∧ a.id = a₀.id ∧ a.userId = a₀.userId ∧
      a.maxAmount = a₀.maxAmount ∧ a.isActive = a₀.isActive ∧ a.cancelledAt = a₀.cancelledAt ∧
      (i ≠ j → a = a₀) := by
  rw [afterAnswer_autoBids, getElem?_updateAt] at h
  split at h
  · obtain ⟨a₀, h₀, rfl⟩ := Option.map_eq_some_iff.mp h
    exact ⟨a₀, h₀, rfl, rfl, rfl, rfl, rfl, fun hij => absurd ‹i = j› hij⟩
  · exact ⟨a, h, rfl, rfl, rfl, rfl, rfl, fun _ => rfl⟩

end AfterAnswer

/-! ### The round as equations -/

section Equations

variable {bound fuel done : Nat} {t : Txn}

/-- Without a leader the rounds end at once, with what they answered so far. -/
theorem rounds_of_no_leader (h : t.book.highestBid? = none) :
    (rounds bound (fuel + 1) done).run.run t = (.ok done, t) := by
  rw [rounds, run_get_bind]
  simp only [h]
  rfl

/-- With no auto-bid to answer the lead the rounds end at once, with what they answered so far. -/
theorem rounds_of_no_responder {L : Bid} (hL : t.book.highestBid? = some L)
    (h : selectResponder t.book L (minimumNextBid L.amount) = none) :
    (rounds bound (fuel + 1) done).run.run t = (.ok done, t) := by
  rw [rounds, run_get_bind]
  simp only [hL, h]
  rfl

/-- A round within the bound whose bid is accepted: the answer enters under the next id, the
three events take the three after it, and the next round starts from there. -/
theorem rounds_answer {L : Bid} {i : Nat} {r : AutoBid} {c : Decimal}
    (hL : t.book.highestBid? = some L)
    (hsel : selectResponder t.book L (minimumNextBid L.amount) = some (i, r, c))
    (hdone : done < bound)
    (hok : refusal (answerAmount (minimumNextBid L.amount) c r.maxAmount) t.book.highestAmount = none) :
    ∃ t', (rounds bound (fuel + 1) done).run.run t = (rounds bound fuel (done + 1)).run.run t' ∧
      t'.book = afterAnswer t.book i r (idOf (t.drawn + 1))
        (answerAmount (minimumNextBid L.amount) c r.maxAmount) t.now ∧
      t'.now = t.now ∧ t'.drawn = t.drawn + 4 := by
  rw [rounds, run_get_bind]
  simp only [hL, hsel, ge_iff_le, not_le.mpr hdone, if_false]
  rw [run_bind, run_drawId]
  dsimp only
  rw [run_bind, run_tryCatch]
  obtain ⟨t₁, h₁, hb, hn, hd⟩ := @accept_run { t with drawn := t.drawn + 1 }
    (bidFor r t.book.auctionId (idOf (t.drawn + 1))
      (answerAmount (minimumNextBid L.amount) c r.maxAmount) t.now) hok
  rw [h₁]
  dsimp only
  rw [run_bind, run_modifyBook]
  exact ⟨_, rfl, by simp [afterAnswer, hb], by simp [hn], by simp [hd]⟩

end Equations

/-! ### The amount of an answer -/

section Amount

variable {m c M : Decimal}

/-- An answer bids at least the minimum next bid, when the maximum reaches it. -/
theorem le_answerAmount (h : m ≤ M) : m.toRat ≤ (answerAmount m c M).toRat := by
  rw [Decimal.le_iff_toRat] at h
  simp only [toRat_answerAmount]
  exact le_inf le_sup_left h

/-- An answer bids at most the responder's maximum. -/
theorem answerAmount_le : (answerAmount m c M).toRat ≤ M.toRat := by
  simp only [toRat_answerAmount]
  exact inf_le_right

/-- An answer bids the responder's whole maximum, or enough to clear the ceiling. -/
theorem answerAmount_spends_or_clears :
    (answerAmount m c M).toRat = M.toRat ∨
      (minimumNextBid c).toRat ≤ (answerAmount m c M).toRat := by
  rw [toRat_answerAmount]
  rcases le_total M.toRat (m.toRat ⊔ (minimumNextBid c).toRat) with h | h
  · exact Or.inl (inf_eq_right.mpr h)
  · exact Or.inr (by rw [inf_eq_left.mpr h]; exact le_sup_right)

/-- Over a cached lead that agrees with the leader's and is positive, an answer that reaches
the minimum next bid is accepted. -/
theorem refusal_answerAmount {L : Bid} {H : Decimal} (hL : L.amount.toRat = H.toRat)
    (hpos : 0 < H.toRat) (hM : minimumNextBid L.amount ≤ M) :
    refusal (answerAmount (minimumNextBid L.amount) c M) H = none := by
  have hmin : (minimumNextBid H).toRat ≤ (answerAmount (minimumNextBid L.amount) c M).toRat :=
    minimumNextBid_congr hL ▸ le_answerAmount hM
  have hH := lt_minimumNextBid H
  rw [refusal_eq_none_iff, isValidBidAmount_iff]
  exact ⟨by linarith, Or.inr hmin⟩

end Amount

/-! ### After a clearing answer nobody answers -/

/-- An answer that clears the ceiling leaves no candidate against the new leader: the other
eligible maxima are under the ceiling, the ineligible ones under the old minimum next bid, and
the responder's own user now leads. -/
theorem candidates_afterAnswer_of_clears {b : Book} {L L' : Bid} {i : Nat} {r : AutoBid}
    {c : Decimal} {id : String} {amount : Decimal} {now : Instant}
    (hsel : selectResponder b L (minimumNextBid L.amount) = some (i, r, c))
    (hmin : (minimumNextBid L.amount).toRat ≤ amount.toRat)
    (hclear : (minimumNextBid c).toRat ≤ amount.toRat)
    (huser : L'.bidderId = r.userId) (hamount : L'.amount.toRat = amount.toRat) :
    candidates (afterAnswer b i r id amount now) L' (minimumNextBid L'.amount) = [] := by
  obtain ⟨hi, -, -, -⟩ := mem_candidates.mp (selectResponder_some hsel).1
  have hceil := (selectResponder_some hsel).2.2.2.1
  have hnext : amount.toRat < (minimumNextBid L'.amount).toRat := by
    rw [minimumNextBid_congr hamount]
    exact lt_minimumNextBid amount
  rw [candidates_eq_nil]
  intro a ha hact hmax
  rw [Decimal.le_iff_toRat] at hmax
  obtain ⟨j, hj⟩ := List.mem_iff_getElem?.mp ha
  obtain ⟨a₀, hj₀, -, hu, hm, hact₀, -, hother⟩ := afterAnswer_autoBid hj
  by_cases hij : i = j
  · subst hij
    rw [hi, Option.some.injEq] at hj₀
    rw [hu, ← hj₀, huser]
  · rw [hm] at hmax
    rw [hact₀] at hact
    by_cases helig : minimumNextBid L.amount ≤ a₀.maxAmount
    · have := hceil j a₀ hj₀ (Ne.symm hij) hact helig
      linarith [lt_minimumNextBid c]
    · rw [Decimal.le_iff_toRat, not_le] at helig
      linarith

end Cascade

end Auction
