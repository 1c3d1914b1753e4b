import Mathlib
import Auction.Proofs.Invariant.Lead

/-!
# The auto-bid invariant

Auto-bids are only ever appended, and every operation changes at most one of them in place:
an answer records its bid, a withdrawal pauses the withdrawing bidder's active one, a toggle
flips one, a cancellation pauses one for good. None of them changes the terms an auto-bid was
registered with (`AutoBid.terms`: id, user and maximum). `Book.ProxyWf` collects what follows:
ids are distinct, at most one auto-bid of each user is active (`OneActive`), a cancelled
auto-bid is inactive, maxima are positive and cover the last bid, and every bid an auto-bid
placed names an auto-bid of its bidder whose maximum covers it (`Book.Named`).

Every cascade ends on a quiet book (`Book.Quiet`), and the operations that run none only pause
auto-bids or close the book, so every committed book is quiet too. A cancelled auto-bid keeps
its position, id and cancellation along every run (`KeepsCancelled`), so it stays inactive.
-/

namespace Auction

/-- The terms an auto-bid is registered with, which no operation changes: its id, its user and
its maximum. -/
def AutoBid.terms (a : AutoBid) : String × String × Decimal := (a.id, a.userId, a.maxAmount)

/-- At most one auto-bid of each user is active: two active auto-bids of one user sit at one
position. -/
def OneActive (l : List AutoBid) : Prop :=
  ∀ (i j : Nat) (a a' : AutoBid), l[i]? = some a → l[j]? = some a' → a.isActive = true →
    a'.isActive = true → a.userId = a'.userId → i = j

/-- Every cancelled auto-bid of `l` is still at its position in `l'`, with its id and its
cancellation. -/
def KeepsCancelled (l l' : List AutoBid) : Prop :=
  ∀ (i : Nat) (a : AutoBid), l[i]? = some a → a.cancelledAt.isSome = true →
    ∃ a', l'[i]? = some a' ∧ a'.id = a.id ∧ a'.cancelledAt = a.cancelledAt

/-! ### Changing one entry of a list -/

section Lists

variable {α : Type} {l : List α} {i : Nat} {f : α → α}

/-- A property of every entry survives a change at one position that keeps it. -/
theorem forall_mem_updateAt {P : α → Prop} (hl : ∀ a ∈ l, P a)
    (hf : ∀ a, l[i]? = some a → P (f a)) : ∀ a ∈ updateAt l i f, P a := by
  intro a ha
  obtain ⟨j, hj⟩ := List.mem_iff_getElem?.mp ha
  rw [getElem?_updateAt] at hj
  split at hj
  · obtain ⟨a₀, h₀, rfl⟩ := Option.map_eq_some_iff.mp hj
    exact hf a₀ (‹i = j› ▸ h₀)
  · exact hl a (List.mem_of_getElem? hj)

/-- An entry of a list with one more element is an entry of the list, or the last element at its
length. -/
theorem getElem?_append_singleton {a c : α} {j : Nat} (h : (l ++ [a])[j]? = some c) :
    l[j]? = some c ∨ (j = l.length ∧ c = a) := by
  rw [List.getElem?_append] at h
  split at h
  · exact Or.inl h
  · rename_i hj
    rw [List.getElem?_singleton] at h
    split at h
    · exact Or.inr ⟨by omega, (Option.some.inj h).symm⟩
    · cases h

end Lists

section AutoBids

variable {l : List AutoBid} {i : Nat} {f : AutoBid → AutoBid}

/-- Auto-bids on the same terms have the same id. -/
theorem terms_id {a a' : AutoBid} (h : a'.terms = a.terms) : a'.id = a.id :=
  congrArg Prod.fst h

/-- Auto-bids on the same terms have the same user. -/
theorem terms_userId {a a' : AutoBid} (h : a'.terms = a.terms) : a'.userId = a.userId :=
  congrArg (·.2.1) h

/-- Auto-bids on the same terms have the same maximum. -/
theorem terms_maxAmount {a a' : AutoBid} (h : a'.terms = a.terms) : a'.maxAmount = a.maxAmount :=
  congrArg (·.2.2) h

/-- A change that keeps the user and activates nobody keeps one active auto-bid per user. -/
theorem OneActive.update (h : OneActive l) (huser : ∀ a, (f a).userId = a.userId)
    (hact : ∀ a, (f a).isActive = true → a.isActive = true) : OneActive (updateAt l i f) := by
  have back : ∀ {m : Nat} {c : AutoBid}, (updateAt l i f)[m]? = some c → c.isActive = true →
      ∃ c₀, l[m]? = some c₀ ∧ c₀.isActive = true ∧ c₀.userId = c.userId := by
    intro m c hm hc
    rw [getElem?_updateAt] at hm
    split at hm
    · obtain ⟨c₀, h₀, rfl⟩ := Option.map_eq_some_iff.mp hm
      exact ⟨c₀, h₀, hact c₀ hc, (huser c₀).symm⟩
    · exact ⟨c, hm, hc, rfl⟩
  intro j k a a' hj hk ha ha' hu
  obtain ⟨a₀, hj₀, ha₀, hu₀⟩ := back hj ha
  obtain ⟨a₀', hk₀, ha₀', hu₀'⟩ := back hk ha'
  exact h j k a₀ a₀' hj₀ hk₀ ha₀ ha₀' (by rw [hu₀, hu₀', hu])

/-- Activating the auto-bid of a user with no active one keeps one active auto-bid per user. -/
theorem OneActive.activate {a : AutoBid} (h : OneActive l) (hi : l[i]? = some a)
    (hnone : ∀ c ∈ l, c.isActive = true → c.userId ≠ a.userId)
    (huser : ∀ a, (f a).userId = a.userId) : OneActive (updateAt l i f) := by
  have hself : ∀ {j c}, i = j → (l[j]?).map f = some c → c.userId = a.userId := by
    intro j c hij hc
    rw [← hij, hi, Option.map_some, Option.some.injEq] at hc
    rw [← hc, huser]
  intro j k c c' hj hk hc hc' hu
  rw [getElem?_updateAt] at hj hk
  split at hj <;> split at hk
  · exact (‹i = j›).symm.trans ‹i = k›
  · exact absurd (hu.symm.trans (hself ‹i = j› hj)) (hnone c' (List.mem_of_getElem? hk) hc')
  · exact absurd (hu.trans (hself ‹i = k› hk)) (hnone c (List.mem_of_getElem? hj) hc)
  · exact h j k c c' hj hk hc hc' hu

/-- Appending an active auto-bid for a user with no active one keeps one active auto-bid per
user. -/
theorem OneActive.append {a : AutoBid} (h : OneActive l)
    (hnone : ∀ c ∈ l, c.isActive = true → c.userId ≠ a.userId) : OneActive (l ++ [a]) := by
  intro j k c c' hj hk hc hc' hu
  rcases getElem?_append_singleton hj with hj | ⟨hj, hca⟩ <;>
    rcases getElem?_append_singleton hk with hk | ⟨hk, hca'⟩
  · exact h j k c c' hj hk hc hc' hu
  · exact absurd (hca' ▸ hu) (hnone c (List.mem_of_getElem? hj) hc)
  · exact absurd (hca ▸ hu.symm) (hnone c' (List.mem_of_getElem? hk) hc')
  · exact hj.trans hk.symm

/-- A list keeps its own cancelled auto-bids. -/
theorem KeepsCancelled.refl (l : List AutoBid) : KeepsCancelled l l :=
  fun _ a h _ => ⟨a, h, rfl, rfl⟩

/-- Keeping the cancelled auto-bids twice keeps them. -/
theorem KeepsCancelled.trans {l₁ l₂ l₃ : List AutoBid} (h₁ : KeepsCancelled l₁ l₂)
    (h₂ : KeepsCancelled l₂ l₃) : KeepsCancelled l₁ l₃ := by
  intro i a ha hc
  obtain ⟨a₂, h₂a, hid₂, hc₂⟩ := h₁ i a ha hc
  obtain ⟨a₃, h₃a, hid₃, hc₃⟩ := h₂ i a₂ h₂a (hc₂ ▸ hc)
  exact ⟨a₃, h₃a, hid₃.trans hid₂, hc₃.trans hc₂⟩

/-- A change at one position keeps the cancelled auto-bids if it keeps them there. -/
theorem KeepsCancelled.update
    (hf : ∀ a, l[i]? = some a → a.cancelledAt.isSome = true →
      (f a).id = a.id ∧ (f a).cancelledAt = a.cancelledAt) :
    KeepsCancelled l (updateAt l i f) := by
  intro j a ha hc
  rw [getElem?_updateAt]
  split
  · rename_i hij
    rw [ha]
    exact ⟨f a, rfl, hf a (hij ▸ ha) hc⟩
  · exact ⟨a, ha, rfl, rfl⟩

/-- Appending auto-bids keeps the cancelled ones. -/
theorem KeepsCancelled.append (l new : List AutoBid) : KeepsCancelled l (l ++ new) := by
  intro j a ha _
  refine ⟨a, ?_, rfl, rfl⟩
  rw [List.getElem?_append_left (List.getElem?_eq_some_iff.mp ha).1, ha]

end AutoBids

namespace Book

/-- Every bid an auto-bid placed names an auto-bid of the book, of the bid's bidder, whose
maximum covers the bid. -/
def Named (b : Book) : Prop :=
  ∀ x ∈ b.bids, x.isAutoBid = true →
    ∃ a ∈ b.autoBids, a.id = x.autoBidId ∧ a.userId = x.bidderId ∧ x.amount ≤ a.maxAmount

/-- The auto-bid invariant: distinct ids, one active auto-bid per user, cancelled ones
inactive, positive maxima covering the last bid, and bids that name the auto-bid that placed
them. -/
structure ProxyWf (b : Book) : Prop where
  ids_nodup : (b.autoBids.map (·.id)).Nodup
  one_active : OneActive b.autoBids
  cancelled_inactive : ∀ a ∈ b.autoBids, a.cancelledAt.isSome = true → a.isActive = false
  amounts : ∀ a ∈ b.autoBids,
    0 < a.maxAmount ∧ 0 ≤ a.currentBidAmount ∧ a.currentBidAmount ≤ a.maxAmount
  named : b.Named

variable {b b' : Book}

/-- Bids that are the old ones as placed, with new ones named by old auto-bids, stay named
while the auto-bids keep their terms. -/
theorem Named.of_bids (h : b.Named) (new : List Bid)
    (hbids : b'.bids.map Bid.asPlaced = b.bids.map Bid.asPlaced ++ new.map Bid.asPlaced)
    (hnew : ∀ x ∈ new, x.isAutoBid = true →
      ∃ a ∈ b.autoBids, a.id = x.autoBidId ∧ a.userId = x.bidderId ∧ x.amount ≤ a.maxAmount)
    (hterms : b.autoBids.map AutoBid.terms ⊆ b'.autoBids.map AutoBid.terms) : b'.Named := by
  intro x hx hauto
  have hmap : b'.bids.map Bid.asPlaced = (b.bids ++ new).map Bid.asPlaced := by
    rw [hbids, List.map_append]
  obtain ⟨y, hy, hyx⟩ := List.mem_map.mp (hmap ▸ List.mem_map_of_mem (f := Bid.asPlaced) hx)
  have hauto' : y.asPlaced.isAutoBid = x.asPlaced.isAutoBid := congrArg Bid.isAutoBid hyx
  have hid : y.asPlaced.autoBidId = x.asPlaced.autoBidId := congrArg Bid.autoBidId hyx
  have hbidder : y.asPlaced.bidderId = x.asPlaced.bidderId := congrArg Bid.bidderId hyx
  have hamount : y.asPlaced.amount = x.asPlaced.amount := congrArg Bid.amount hyx
  obtain ⟨a, ha, haid, hauser, hle⟩ : ∃ a ∈ b.autoBids, a.id = y.autoBidId ∧
      a.userId = y.bidderId ∧ y.amount ≤ a.maxAmount := by
    rcases List.mem_append.mp hy with hy | hy
    · exact h y hy (hauto'.trans hauto)
    · exact hnew y hy (hauto'.trans hauto)
  obtain ⟨a', ha', hterm⟩ := List.mem_map.mp (hterms (List.mem_map_of_mem ha))
  refine ⟨a', ha', ?_, ?_, ?_⟩
  · exact (terms_id hterm).trans (haid.trans hid)
  · exact (terms_userId hterm).trans (hauser.trans hbidder)
  · rw [terms_maxAmount hterm]
    exact hamount ▸ hle

/-- A book with the same bids and auto-bids keeps the invariant. -/
theorem ProxyWf.of_same (hp : b.ProxyWf) (hbids : b'.bids = b.bids)
    (hauto : b'.autoBids = b.autoBids) : b'.ProxyWf := by
  refine ⟨hauto ▸ hp.ids_nodup, hauto ▸ hp.one_active, hauto ▸ hp.cancelled_inactive,
    hauto ▸ hp.amounts, ?_⟩
  intro x hx
  rw [hauto]
  exact hp.named x (hbids ▸ hx)

/-- Pausing one auto-bid, for a while or for good, keeps the invariant while the bids stay
the same as placed. -/
theorem ProxyWf.pause {i : Nat} {f : AutoBid → AutoBid} (hp : b.ProxyWf)
    (hbids : b'.bids.map Bid.asPlaced = b.bids.map Bid.asPlaced)
    (hauto : b'.autoBids = updateAt b.autoBids i f) (hterms : ∀ a, (f a).terms = a.terms)
    (hcur : ∀ a, (f a).currentBidAmount = a.currentBidAmount) (hoff : ∀ a, (f a).isActive = false) :
    b'.ProxyWf := by
  have hmap : b'.autoBids.map AutoBid.terms = b.autoBids.map AutoBid.terms := by
    rw [hauto, map_updateAt _ _ _ _ hterms]
  refine ⟨?_, ?_, ?_, ?_, ?_⟩
  · rw [hauto, map_updateAt _ _ _ _ fun a => terms_id (hterms a)]
    exact hp.ids_nodup
  · rw [hauto]
    exact hp.one_active.update (fun a => terms_userId (hterms a)) fun a h => absurd h (by simp [hoff])
  · rw [hauto]
    exact forall_mem_updateAt hp.cancelled_inactive fun a _ _ => hoff a
  · rw [hauto]
    refine forall_mem_updateAt hp.amounts fun a ha => ?_
    rw [terms_maxAmount (hterms a), hcur a]
    exact hp.amounts a (List.mem_of_getElem? ha)
  · exact hp.named.of_bids [] (by simpa using hbids) (by simp) (hmap ▸ fun _ h => h)

/-- Bids appended under the same auto-bids keep the invariant when the new ones are named. -/
theorem ProxyWf.of_bids (hp : b.ProxyWf) (hauto : b'.autoBids = b.autoBids) (new : List Bid)
    (hbids : b'.bids.map Bid.asPlaced = b.bids.map Bid.asPlaced ++ new.map Bid.asPlaced)
    (hnew : ∀ x ∈ new, x.isAutoBid = true →
      ∃ a ∈ b.autoBids, a.id = x.autoBidId ∧ a.userId = x.bidderId ∧ x.amount ≤ a.maxAmount) :
    b'.ProxyWf :=
  ⟨hauto ▸ hp.ids_nodup, hauto ▸ hp.one_active, hauto ▸ hp.cancelled_inactive, hauto ▸ hp.amounts,
    hp.named.of_bids new hbids hnew (hauto ▸ fun _ h => h)⟩

/-- A bid placed by hand enters without touching the auto-bids. -/
theorem ProxyWf.entered {bid : Bid} {now : Instant} (hp : b.ProxyWf) (hbid : bid.isAutoBid = false) :
    (Txn.entered b bid now).1.ProxyWf :=
  hp.of_bids (Txn.entered_autoBids b bid now) [bid] (by simp [Txn.entered_bids_asPlaced])
    fun x hx hauto => by
      rw [List.mem_singleton.mp hx, hbid] at hauto
      cases hauto

/-- An amount the acceptance rule lets in is not negative. -/
theorem nonneg_of_refusal_eq_none {p H : Decimal} (h : Txn.refusal p H = none) : (0 : Decimal) ≤ p := by
  rw [Decimal.le_iff_toRat]
  simpa using (pos_of_refusal_eq_none h).le

/-- An answer of the auto-bid at `i` records its bid there, within the maximum, and the new
bid names it. -/
theorem ProxyWf.afterAnswer {i : Nat} {r : AutoBid} {id : String} {amount : Decimal}
    {now : Instant} (hp : b.ProxyWf) (hi : b.autoBids[i]? = some r) (hpos : (0 : Decimal) ≤ amount)
    (hmax : amount ≤ r.maxAmount) : (Cascade.afterAnswer b i r id amount now).ProxyWf := by
  have hterms : ∀ a, (Cascade.recordBid a amount now).terms = a.terms := fun _ => rfl
  have hauto := @Cascade.afterAnswer_autoBids b i r id amount now
  have hr : r ∈ b.autoBids := List.mem_of_getElem? hi
  refine ⟨?_, ?_, ?_, ?_, ?_⟩
  · rw [hauto, map_updateAt _ _ _ _ fun a => terms_id (hterms a)]
    exact hp.ids_nodup
  · rw [hauto]
    exact hp.one_active.update (fun _ => rfl) fun _ h => h
  · rw [hauto]
    exact forall_mem_updateAt hp.cancelled_inactive fun a ha =>
      hp.cancelled_inactive a (List.mem_of_getElem? ha)
  · rw [hauto]
    refine forall_mem_updateAt hp.amounts fun a ha => ?_
    rw [hi, Option.some.injEq] at ha
    subst ha
    exact ⟨(hp.amounts r hr).1, hpos, hmax⟩
  · refine hp.named.of_bids [Cascade.bidFor r b.auctionId id amount now] ?_ ?_ ?_
    · rw [Cascade.afterAnswer_bids, Txn.entered_bids_asPlaced]
      rfl
    · intro x hx _
      rw [List.mem_singleton.mp hx]
      exact ⟨r, hr, rfl, rfl, hmax⟩
    · rw [hauto, map_updateAt _ _ _ _ hterms]
      exact fun _ h => h

/-- An answer keeps every auto-bid's id and cancellation at its position. -/
theorem keepsCancelled_afterAnswer {i : Nat} {r : AutoBid} {id : String} {amount : Decimal}
    {now : Instant} : KeepsCancelled b.autoBids (Cascade.afterAnswer b i r id amount now).autoBids := by
  rw [Cascade.afterAnswer_autoBids]
  exact KeepsCancelled.update fun _ _ _ => ⟨rfl, rfl⟩

end Book

namespace Cascade

variable {b b' : Book} {l : List (Nat × Bid)}

/-- A whole cascade keeps the auto-bid invariant, one answer at a time. -/
theorem Answers.proxyWf (h : Answers b l b') (hp : b.ProxyWf) : b'.ProxyWf := by
  induction h with
  | nil => exact hp
  | cons _ hi _ _ _ hmax hok _ _ _ ih =>
    exact ih (hp.afterAnswer hi (Book.nonneg_of_refusal_eq_none hok) hmax)

/-- A whole cascade keeps the cancelled auto-bids, one answer at a time. -/
theorem Answers.keepsCancelled (h : Answers b l b') : KeepsCancelled b.autoBids b'.autoBids := by
  induction h with
  | nil => exact KeepsCancelled.refl _
  | cons _ _ _ _ _ _ _ _ _ _ ih => exact Book.keepsCancelled_afterAnswer.trans ih

end Cascade

namespace Book

variable {b b' : Book}

/-! ### Operations -/

open Withdrawal

/-- A user with no active auto-bid found has none among the auto-bids. -/
theorem no_active_of_activeAutoBidFor?_eq_none {u : String} (h : b.activeAutoBidFor? u = none) :
    ∀ c ∈ b.autoBids, c.isActive = true → c.userId ≠ u := by
  intro c hc hact hu
  have := List.find?_eq_none.mp h c hc
  simp [hu, hact] at this

/-- Handing the lead back keeps the auto-bids. -/
theorem handedBack_autoBids (b : Book) : (handedBack b).autoBids = b.autoBids := by
  unfold handedBack
  split <;> simp

/-- Withdrawing a bid pauses at most the withdrawing bidder's active auto-bid. -/
theorem ProxyWf.withdrawn {i : Nat} {u : String} {now : Instant} (hp : b.ProxyWf) :
    (withdrawn b i u now).ProxyWf := by
  have hbids : (updateAt b.bids i fun x => { x with status := .retracted }).map Bid.asPlaced =
      b.bids.map Bid.asPlaced :=
    map_updateAt b.bids _ _ Bid.asPlaced fun _ => rfl
  dsimp only [Withdrawal.withdrawn]
  split
  · exact hp.pause hbids rfl (fun _ => rfl) (fun _ => rfl) (fun _ => rfl)
  · exact hp.of_bids rfl [] (by simpa using hbids) (by simp)

/-- Withdrawing a bid keeps the cancelled auto-bids: it only pauses one. -/
theorem keepsCancelled_withdrawn {i : Nat} {u : String} {now : Instant} :
    KeepsCancelled b.autoBids (withdrawn b i u now).autoBids := by
  dsimp only [Withdrawal.withdrawn]
  split
  · exact KeepsCancelled.update fun _ _ _ => ⟨rfl, rfl⟩
  · exact KeepsCancelled.refl _

/-- Handing the lead back keeps the auto-bid invariant. -/
theorem ProxyWf.handedBack (hp : b.ProxyWf) : (handedBack b).ProxyWf :=
  hp.of_bids (handedBack_autoBids b) [] (by simpa using handedBack_bids_asPlaced b) (by simp)

/-- Withdrawing a bid, and handing the lead back when it led, keeps the auto-bid invariant and
every cancelled auto-bid. -/
theorem ProxyWf.withdrawn_book (c : Prop) [Decidable c] {i : Nat} {u : String} {now : Instant}
    (hp : b.ProxyWf) :
    (if c then Withdrawal.handedBack (Withdrawal.withdrawn b i u now)
      else Withdrawal.withdrawn b i u now).ProxyWf ∧
    KeepsCancelled b.autoBids (if c then Withdrawal.handedBack (Withdrawal.withdrawn b i u now)
      else Withdrawal.withdrawn b i u now).autoBids := by
  split
  · rw [handedBack_autoBids]
    exact ⟨hp.withdrawn.handedBack, keepsCancelled_withdrawn⟩
  · exact ⟨hp.withdrawn, keepsCancelled_withdrawn⟩

/-- A registration appends an active auto-bid under a new id, with a positive maximum, for a
user with no active one. -/
theorem ProxyWf.register {req : AutoBidRequest} {id : String} {now : Instant} (hp : b.ProxyWf)
    (hpos : req.maxAmount.isPos = true) (hfresh : ∀ a ∈ b.autoBids, a.id ≠ id)
    (hnone : b.activeAutoBidFor? req.userId = none) :
    ({ b with autoBids := b.autoBids ++ [req.autoBid id now], updatedAt := now } : Book).ProxyWf := by
  have hmax : 0 < req.maxAmount.toRat := Decimal.isPos_iff.mp hpos
  refine ⟨?_, ?_, ?_, ?_, ?_⟩
  · rw [List.map_append, List.nodup_append]
    refine ⟨hp.ids_nodup, List.nodup_singleton _, fun x hx y hy => ?_⟩
    obtain ⟨a, ha, rfl⟩ := List.mem_map.mp hx
    rw [List.mem_singleton.mp hy]
    exact hfresh a ha
  · exact hp.one_active.append (no_active_of_activeAutoBidFor?_eq_none hnone)
  · intro a ha hc
    rcases List.mem_append.mp ha with ha | ha
    · exact hp.cancelled_inactive a ha hc
    · rw [List.mem_singleton.mp ha] at hc
      cases hc
  · intro a ha
    rcases List.mem_append.mp ha with ha | ha
    · exact hp.amounts a ha
    · rw [List.mem_singleton.mp ha]
      refine ⟨Decimal.lt_iff_toRat.mpr (by simpa [AutoBidRequest.autoBid] using hmax),
        Decimal.le_iff_toRat.mpr ?_,
        Decimal.le_iff_toRat.mpr ?_⟩
      · simp [AutoBidRequest.autoBid]
      · simpa [AutoBidRequest.autoBid] using hmax.le
  · exact hp.named.of_bids [] (by simp) (by simp) (by simp)

/-- Resuming an auto-bid that was not cancelled, for a user with no active one. -/
theorem ProxyWf.resume {i : Nat} {ab : AutoBid} {now : Instant} (hp : b.ProxyWf)
    (hi : b.autoBids[i]? = some ab) (hcan : ab.isCancelled = false)
    (hnone : b.activeAutoBidFor? ab.userId = none) :
    ({ (b.modifyAutoBid i fun a => { a with isActive := true }) with updatedAt := now } : Book).ProxyWf := by
  refine ⟨?_, ?_, ?_, ?_, ?_⟩
  · rw [modifyAutoBid_autoBids,
      map_updateAt b.autoBids i (fun a => { a with isActive := true }) (·.id) fun _ => rfl]
    exact hp.ids_nodup
  · exact hp.one_active.activate hi (no_active_of_activeAutoBidFor?_eq_none hnone) fun _ => rfl
  · refine forall_mem_updateAt hp.cancelled_inactive fun a ha hc => ?_
    rw [hi, Option.some.injEq] at ha
    subst ha
    rw [AutoBid.isCancelled] at hcan
    exact absurd hc (by simpa using hcan)
  · exact forall_mem_updateAt hp.amounts fun a ha => hp.amounts a (List.mem_of_getElem? ha)
  · refine hp.named.of_bids [] (by simp) (by simp) ?_
    rw [modifyAutoBid_autoBids,
      map_updateAt b.autoBids i (fun a => { a with isActive := true }) AutoBid.terms fun _ => rfl]
    exact fun _ h => h

/-- A cascade from a book that holds both invariants ends on a quiet book that keeps the
auto-bid invariant and every cancelled auto-bid. -/
theorem ProxyWf.resolve {t t' : Txn} {n : Nat} (hp : t.book.ProxyWf) (hw : t.book.Wf)
    (hfresh : t.book.FreshAbove t.drawn) (h : Cascade.resolve.run.run t = (.ok n, t')) :
    t'.book.ProxyWf ∧ t'.book.Quiet ∧ KeepsCancelled t.book.autoBids t'.book.autoBids := by
  obtain ⟨l, hl, hquiet⟩ := Cascade.resolve_eq_ok h hw.leadAgrees hfresh
  exact ⟨hl.proxyWf hp, hquiet, hl.keepsCancelled⟩

/-- Under the same lead, a book whose active auto-bids were all active before, with their
users and maxima, stays quiet. -/
theorem Quiet.of_active (hq : b.Quiet) (hlead : b'.highestBid? = b.highestBid?)
    (hamount : b'.highestAmount = b.highestAmount)
    (hact : ∀ a ∈ b'.autoBids, a.isActive = true → ∃ a₀ ∈ b.autoBids, a₀.isActive = true ∧
      a₀.userId = a.userId ∧ a₀.maxAmount = a.maxAmount) : b'.Quiet := by
  intro L hL a ha hon huser
  obtain ⟨a₀, ha₀, hon₀, hu₀, hm₀⟩ := hact a ha hon
  rw [hamount, ← hm₀]
  exact hq L (hlead ▸ hL) a₀ ha₀ hon₀ (hu₀ ▸ huser)

/-- Pausing an auto-bid under the same lead keeps a book quiet. -/
theorem Quiet.pause {i : Nat} {f : AutoBid → AutoBid} (hq : b.Quiet)
    (hlead : b'.highestBid? = b.highestBid?) (hamount : b'.highestAmount = b.highestAmount)
    (hauto : b'.autoBids = updateAt b.autoBids i f) (hoff : ∀ a, (f a).isActive = false) :
    b'.Quiet := by
  refine hq.of_active hlead hamount ?_
  rw [hauto]
  exact forall_mem_updateAt (fun a ha hon => ⟨a, ha, hon, rfl, rfl⟩)
    fun a _ hon => absurd hon (by simp [hoff])

/-- Every committed operation keeps the auto-bid invariant and leaves a quiet book, and every
cancelled auto-bid stays where it was, cancelled. -/
theorem ProxyWf.committed (hw : b.Wf) (hp : b.ProxyWf) (hq : b.Quiet) (h : Committed b b') :
    b'.ProxyWf ∧ b'.Quiet ∧ KeepsCancelled b.autoBids b'.autoBids := by
  cases h with
  | place req k now hk hnew hfresh hwr =>
    obtain ⟨-, hok, t, n, t', ht, hd, hres, rfl⟩ := Placement.change_writes hwr
    have hw₁ : t.book.Wf := ht ▸ hw.entered (Txn.idOf_ne_empty k) hnew hok
    have hfresh₁ : t.book.FreshAbove t.drawn := ht ▸ hd ▸ hfresh.entered rfl (by omega) (by omega)
    obtain ⟨hp', hq', hkeep⟩ := (ht ▸ hp.entered rfl : t.book.ProxyWf).resolve hw₁ hfresh₁ hres
    rw [ht, Txn.entered_autoBids] at hkeep
    exact ⟨hp'.of_same rfl rfl, hq', hkeep⟩
  | retract req auctionId now window hfresh hwr =>
    obtain ⟨-, i, bid, hi, hf, hr, t, n, t', ht, hd, hres, rfl⟩ := Withdrawal.change_writes hwr
    have hw₁ : t.book.Wf := ht ▸ hw.withdrawn_book hi hf hr
    have hmap : t.book.bids.map Bid.asPlaced = b.bids.map Bid.asPlaced :=
      ht ▸ withdrawal_bids_asPlaced _ _ _ _
    obtain ⟨hp₁, hkeep₁⟩ : t.book.ProxyWf ∧ KeepsCancelled b.autoBids t.book.autoBids := by
      rw [ht]
      exact hp.withdrawn_book _
    obtain ⟨hp', hq', hkeep⟩ := hp₁.resolve hw₁ ((hfresh.of_asPlaced hmap).mono hd) hres
    exact ⟨hp'.of_same rfl rfl, hq', hkeep₁.trans hkeep⟩
  | finish closing hwr =>
    obtain ⟨-, rfl⟩ := closing_writes hwr
    exact ⟨hp.of_same rfl rfl, hq, KeepsCancelled.refl _⟩
  | register req k now hpos hnew hfresh hwr =>
    obtain ⟨-, hnone, -, n, t', hres, rfl⟩ := Proxy.register_writes hwr
    obtain ⟨hp', hq', hkeep⟩ := ProxyWf.resolve (hp.register hpos hnew hnone)
      (by exact hw.of_same rfl rfl rfl rfl) (by exact hfresh) hres
    exact ⟨hp'.of_same rfl rfl, hq', (KeepsCancelled.append _ _).trans hkeep⟩
  | toggle autoBidId userId active now last hfresh hwr =>
    obtain ⟨i, ab, hown, hcan, -, hon, hoff⟩ := Proxy.toggle_writes hwr
    obtain ⟨-, hi, -, huser⟩ := Proxy.owned_eq_ok hown
    have hkeep₁ : ∀ on : Bool, KeepsCancelled b.autoBids
        (updateAt b.autoBids i fun a => { a with isActive := on }) :=
      fun _ => KeepsCancelled.update fun _ _ _ => ⟨rfl, rfl⟩
    cases active with
    | true =>
      obtain ⟨hnone, -, n, t', hres, rfl⟩ := hon rfl
      obtain ⟨hp', hq', hkeep⟩ := ProxyWf.resolve (hp.resume hi hcan (huser ▸ hnone))
        (by exact hw.of_same rfl rfl rfl rfl) (by exact hfresh) hres
      exact ⟨hp'.of_same rfl rfl, hq', (hkeep₁ true).trans hkeep⟩
    | false =>
      obtain rfl := hoff rfl
      refine ⟨hp.pause rfl rfl (fun _ => rfl) (fun _ => rfl) (fun _ => rfl),
        hq.pause rfl rfl rfl (fun _ => rfl), hkeep₁ false⟩
  | cancel autoBidId userId now hwr =>
    obtain ⟨i, ab, hown, hcan, rfl⟩ := Proxy.cancel_writes hwr
    obtain ⟨-, hi, -, -⟩ := Proxy.owned_eq_ok hown
    have hkeep : KeepsCancelled b.autoBids
        (updateAt b.autoBids i fun a => { a with isActive := false, cancelledAt := some now }) := by
      refine KeepsCancelled.update fun a ha hc => ?_
      rw [hi, Option.some.injEq] at ha
      subst ha
      rw [AutoBid.isCancelled, hc] at hcan
      cases hcan
    exact ⟨hp.pause rfl rfl (fun _ => rfl) (fun _ => rfl) (fun _ => rfl),
      hq.pause rfl rfl rfl (fun _ => rfl), hkeep⟩

/-- The empty book holds the auto-bid invariant and is quiet. -/
theorem empty_proxyWf (auctionId : String) :
    (Book.empty auctionId).ProxyWf ∧ (Book.empty auctionId).Quiet := by
  have hauto : (Book.empty auctionId).autoBids = [] := rfl
  have hbids : (Book.empty auctionId).bids = [] := rfl
  refine ⟨⟨List.nodup_nil, ?_, by simp [hauto], by simp [hauto], by simp [Named, hbids]⟩, ?_⟩
  · intro i j a a' ha
    simp [hauto] at ha
  · intro L hL
    rw [highestBid?_of_empty rfl] at hL
    cases hL

/-! ### What the invariant says -/

/-- With distinct ids, an auto-bid is the one its id names. -/
theorem ProxyWf.findAutoBid? (hp : b.ProxyWf) {a : AutoBid} (ha : a ∈ b.autoBids) :
    b.findAutoBid? a.id = some a := by
  unfold Book.findAutoBid?
  cases hf : b.autoBids.find? (·.id == a.id) with
  | none => exact absurd (List.find?_eq_none.mp hf a ha) (by simp)
  | some x =>
    have hx := List.mem_of_find?_eq_some hf
    have hid : x.id = a.id := by simpa using List.find?_some hf
    rw [List.inj_on_of_nodup_map hp.ids_nodup hx ha hid]

/-- A quiet book that keeps the lead invariant: no active auto-bid of another user than the
cached bidder reaches the minimum next bid over the cached amount. -/
theorem Quiet.of_cached (hq : b.Quiet) (hw : b.Wf) (hne : b.highestBidId ≠ "") :
    ∀ a ∈ b.autoBids, a.isActive = true → a.userId ≠ b.highestBidderId →
      a.maxAmount < Auction.minimumNextBid b.highestAmount := by
  rcases hw.lead with hv | ⟨pre, L, post, hL⟩
  · exact absurd hv.1 hne
  · intro a ha hon huser
    exact hq L (hL.highestBid? hw) a ha hon (hL.highestBidderId_eq ▸ huser)

end Book

/-- Every book a run of committed operations reaches keeps the auto-bid invariant and is
quiet. -/
theorem Reachable.proxyWf {b : Book} (h : Reachable b) : b.ProxyWf ∧ b.Quiet := by
  obtain ⟨auctionId, hrun⟩ := h
  induction hrun with
  | refl => exact Book.empty_proxyWf auctionId
  | tail hrun hstep ih =>
    obtain ⟨hp, hq, -⟩ := ih.1.committed (Reachable.wf ⟨auctionId, hrun⟩) ih.2 hstep
    exact ⟨hp, hq⟩

/-- A book committed operations reach from a reachable book is reachable. -/
theorem Reachable.tail {b b' : Book} (h : Reachable b) (hrun : Relation.ReflTransGen Committed b b') :
    Reachable b' := by
  obtain ⟨auctionId, h⟩ := h
  exact ⟨auctionId, h.trans hrun⟩

/-- Along every run from a reachable book, each cancelled auto-bid stays at its position with
its id and its cancellation. -/
theorem Reachable.keepsCancelled {b b' : Book} (h : Reachable b)
    (hrun : Relation.ReflTransGen Committed b b') : KeepsCancelled b.autoBids b'.autoBids := by
  induction hrun with
  | refl => exact KeepsCancelled.refl _
  | tail hrun hstep ih =>
    have hr := h.tail hrun
    exact ih.trans (hr.proxyWf.1.committed hr.wf hr.proxyWf.2 hstep).2.2

/-- Every book that committed operations reach from the empty book keeps its auto-bids
consistent: at most one active auto-bid per user; a cancelled auto-bid is inactive, and along
every later run stays at its position, cancelled and inactive; maxima are positive and cover
the last bid; every bid an auto-bid placed names, by its id, an auto-bid of its bidder whose
maximum covers it; and while somebody leads, no active auto-bid of another user reaches the
minimum next bid. -/
theorem reachable_proxies_consistent {b : Book} (h : Reachable b) :
    (∀ (i j : Nat) (a a' : AutoBid), b.autoBids[i]? = some a → b.autoBids[j]? = some a' →
      a.isActive = true → a'.isActive = true → a.userId = a'.userId → i = j) ∧
    (∀ a ∈ b.autoBids, a.cancelledAt.isSome = true → a.isActive = false) ∧
    (∀ b', Relation.ReflTransGen Committed b b' → ∀ (i : Nat) (a : AutoBid),
      b.autoBids[i]? = some a → a.cancelledAt.isSome = true →
      ∃ a', b'.autoBids[i]? = some a' ∧ a'.id = a.id ∧ a'.cancelledAt = a.cancelledAt ∧
        a'.isActive = false) ∧
    (∀ a ∈ b.autoBids, 0 < a.maxAmount ∧ 0 ≤ a.currentBidAmount ∧ a.currentBidAmount ≤ a.maxAmount) ∧
    (∀ x ∈ b.bids, x.isAutoBid = true → ∃ a, b.findAutoBid? x.autoBidId = some a ∧
      a.userId = x.bidderId ∧ x.amount ≤ a.maxAmount) ∧
    (b.highestBidId ≠ "" → ∀ a ∈ b.autoBids, a.isActive = true → a.userId ≠ b.highestBidderId →
      a.maxAmount < minimumNextBid b.highestAmount) := by
  obtain ⟨hp, hq⟩ := h.proxyWf
  refine ⟨hp.one_active, hp.cancelled_inactive, ?_, hp.amounts, ?_, hq.of_cached h.wf⟩
  · intro b' hrun i a ha hc
    obtain ⟨a', ha', hid, hc'⟩ := h.keepsCancelled hrun i a ha hc
    have hp' := (h.tail hrun).proxyWf.1
    exact ⟨a', ha', hid, hc', hp'.cancelled_inactive a' (List.mem_of_getElem? ha') (hc' ▸ hc)⟩
  · intro x hx hauto
    obtain ⟨a, ha, hid, huser, hle⟩ := hp.named x hx hauto
    exact ⟨a, hid ▸ hp.findAutoBid? ha, huser, hle⟩

/-- The book a withdrawal reached after a cascade of two auto-bids, one of them paused by the
withdrawal, keeps its auto-bids consistent. -/
theorem reachable_proxies_consistent_withdrawn :
    Reachable withdrawnBook ∧
    withdrawnBook.bids.map (·.status) = [.outbid, .outbid, .accepted, .retracted] ∧
    withdrawnBook.autoBids.map (·.isActive) = [false, true] ∧
    (∀ (i j : Nat) (a a' : AutoBid), withdrawnBook.autoBids[i]? = some a →
      withdrawnBook.autoBids[j]? = some a' → a.isActive = true → a'.isActive = true →
      a.userId = a'.userId → i = j) ∧
    (∀ a ∈ withdrawnBook.autoBids, a.cancelledAt.isSome = true → a.isActive = false) ∧
    (∀ b', Relation.ReflTransGen Committed withdrawnBook b' → ∀ (i : Nat) (a : AutoBid),
      withdrawnBook.autoBids[i]? = some a → a.cancelledAt.isSome = true →
      ∃ a', b'.autoBids[i]? = some a' ∧ a'.id = a.id ∧ a'.cancelledAt = a.cancelledAt ∧
        a'.isActive = false) ∧
    (∀ a ∈ withdrawnBook.autoBids,
      0 < a.maxAmount ∧ 0 ≤ a.currentBidAmount ∧ a.currentBidAmount ≤ a.maxAmount) ∧
    (∀ x ∈ withdrawnBook.bids, x.isAutoBid = true → ∃ a, withdrawnBook.findAutoBid? x.autoBidId = some a ∧
      a.userId = x.bidderId ∧ x.amount ≤ a.maxAmount) ∧
    (withdrawnBook.highestBidId ≠ "" → ∀ a ∈ withdrawnBook.autoBids, a.isActive = true →
      a.userId ≠ withdrawnBook.highestBidderId →
      a.maxAmount < minimumNextBid withdrawnBook.highestAmount) :=
  ⟨withdrawnBook_reachable, withdrawnBook_shape.1, withdrawnBook_shape.2,
    reachable_proxies_consistent withdrawnBook_reachable⟩

end Auction
