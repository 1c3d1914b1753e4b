import Mathlib
import Auction.Proofs.Service.Commit

/-!
# The book invariant: one leader on top of a rising stack

A book a run of the service reaches has bids with distinct, non-empty ids and positive
amounts, and one of two shapes (`Book.Wf`): nobody leads and every bid is retracted
(`Book.Vacant`), or one accepted bid `L` leads (`Book.LedBy pre L post`), the cached lead is
`L`'s, the standing bids before it are outbid and rise below it, and every bid after it is
retracted. The standing bids form a stack whose top is the only accepted bid; only an accepted
bid can be withdrawn, so a withdrawal takes the top, and the best standing bid that takes the
lead back is the next one down.

Every change of the bids keeps the shape: a bid entering over the lead (`Wf.entered`), each
answer of the cascade (`Answers.wf`), the withdrawal of the leader with the lead handed back
(`Wf.handedBack_withdrawn`), and every change that leaves the bids and the lead alone.
-/

namespace Auction

namespace Book

/-- Nobody leads: the cached lead is cleared and every bid is retracted. -/
def Vacant (b : Book) : Prop :=
  b.highestBidId = "" ∧ b.highestAmount = 0 ∧ b.highestBidderId = "" ∧
    ∀ x ∈ b.bids, x.status = .retracted

/-- `L` leads `b`, between the bids `pre` before it and `post` after it: the cached lead is
`L`'s, `L` is accepted, the bids before it are outbid or retracted and those standing rise
below `L`, and every bid after it is retracted. -/
structure LedBy (b : Book) (pre : List Bid) (L : Bid) (post : List Bid) : Prop where
  bids_eq : b.bids = pre ++ L :: post
  highestBidId_eq : b.highestBidId = L.id
  highestAmount_eq : b.highestAmount = L.amount
  highestBidderId_eq : b.highestBidderId = L.bidderId
  accepted : L.status = .accepted
  pre_status : ∀ x ∈ pre, x.status = .outbid ∨ x.status = .retracted
  rising : (pre.filter (·.status.isStanding)).Pairwise (·.amount < ·.amount)
  below : ∀ x ∈ pre, x.status.isStanding = true → x.amount < L.amount
  post_retracted : ∀ x ∈ post, x.status = .retracted

/-- The book invariant: distinct, non-empty ids and positive amounts, and either nobody leads
or one bid leads the stack of standing bids. -/
structure Wf (b : Book) : Prop where
  ids_nodup : (b.bids.map (·.id)).Nodup
  ids_ne : ∀ x ∈ b.bids, x.id ≠ ""
  amount_pos : ∀ x ∈ b.bids, 0 < x.amount.toRat
  lead : b.Vacant ∨ ∃ pre L post, b.LedBy pre L post

end Book

/-! ### Standing bids -/

/-- A retracted bid does not stand. -/
theorem not_isStanding_of_retracted {x : Bid} (h : x.status = .retracted) :
    x.status.isStanding = false := by
  rw [h]
  rfl

/-- A standing bid followed only by bids that do not stand is the last standing bid. -/
theorem filter_standing_append_cons (pre : List Bid) {post : List Bid} {x : Bid}
    (hx : x.status.isStanding = true) (hpost : ∀ y ∈ post, y.status.isStanding = false) :
    (pre ++ x :: post).filter (·.status.isStanding) = pre.filter (·.status.isStanding) ++ [x] := by
  have hnil : post.filter (·.status.isStanding) = [] :=
    List.filter_eq_nil_iff.mpr fun y hy => by simp [hpost y hy]
  rw [List.filter_append, List.filter_cons_of_pos (p := fun y : Bid => y.status.isStanding) hx, hnil]

/-- A list with a standing element splits at its last standing element. -/
theorem exists_last_standing :
    ∀ {l : List Bid}, l.filter (·.status.isStanding) ≠ [] →
      ∃ A x mid, l = A ++ x :: mid ∧ x.status.isStanding = true ∧
        ∀ y ∈ mid, y.status.isStanding = false
  | [], h => absurd rfl h
  | y :: l, h => by
    by_cases hl : l.filter (·.status.isStanding) = []
    · have hy : y.status.isStanding = true := by
        by_contra hy
        rw [List.filter_cons_of_neg (p := fun y : Bid => y.status.isStanding) hy, hl] at h
        exact h rfl
      refine ⟨[], y, l, rfl, hy, fun z hz => ?_⟩
      simpa using List.filter_eq_nil_iff.mp hl z hz
    · obtain ⟨A, x, mid, rfl, hx, hmid⟩ := exists_last_standing hl
      exact ⟨y :: A, x, mid, rfl, hx, hmid⟩

/-- The search returns the best so far, or a bid of the list at its position. -/
theorem bestStandingFrom_eq_some :
    ∀ {i : Nat} {l : List Bid} {best : Option (Nat × Bid)} {j : Nat} {x : Bid},
      Book.bestStandingFrom i l best = some (j, x) → best = some (j, x) ∨ ∃ k, l[k]? = some x ∧ j = i + k
  | _, [], _, _, _, h => Or.inl h
  | i, y :: l, best, j, x, h => by
    simp only [Book.bestStandingFrom] at h
    rcases bestStandingFrom_eq_some h with h | ⟨k, hk, rfl⟩
    · have : best = some (j, x) ∨ (j, x) = (i, y) := by
        split at h
        · split at h
          · exact Or.inr (Option.some.inj h).symm
          · split at h
            · exact Or.inr (Option.some.inj h).symm
            · exact Or.inl h
        · exact Or.inl h
      rcases this with h | h
      · exact Or.inl h
      · obtain ⟨rfl, rfl⟩ := Prod.mk.inj h
        exact Or.inr ⟨0, rfl, rfl⟩
    · exact Or.inr ⟨k + 1, hk, by omega⟩
namespace Book

open Txn

variable {b b' : Book}

/-! ### Reading the invariant -/

/-- The leader is the bid the cached id names. -/
theorem LedBy.highestBid? {pre post : List Bid} {L : Bid} (hL : b.LedBy pre L post) (hw : b.Wf) :
    b.highestBid? = some L := by
  have hne : L.id ≠ "" := hw.ids_ne L (hL.bids_eq ▸ by simp)
  have hpre := (ne_of_nodup_map_append_cons (hL.bids_eq ▸ hw.ids_nodup)).1
  exact highestBid?_of_id hL.highestBidId_eq hne (findBid?_of_bids_eq hL.bids_eq hpre)

/-- The leader's position is where the cached id points. -/
theorem LedBy.highestIndex? {pre post : List Bid} {L : Bid} (hL : b.LedBy pre L post) (hw : b.Wf) :
    b.highestIndex? = some pre.length := by
  have hne : L.id ≠ "" := hw.ids_ne L (hL.bids_eq ▸ by simp)
  have hpre := (ne_of_nodup_map_append_cons (hL.bids_eq ▸ hw.ids_nodup)).1
  exact highestIndex?_of_id hL.highestBidId_eq hne (bidIndex?_of_bids_eq hL.bids_eq hpre)

/-- In a book of the invariant the cached lead agrees with the bid it names. -/
theorem Wf.leadAgrees (hw : b.Wf) : b.LeadAgrees := by
  intro L' hL'
  rcases hw.lead with ⟨hid, -, -, -⟩ | ⟨pre, L, post, hL⟩
  · rw [highestBid?_of_empty hid] at hL'
    cases hL'
  · rw [hL.highestBid? hw, Option.some.injEq] at hL'
    subst hL'
    rw [hL.highestAmount_eq]
    exact ⟨rfl, hw.amount_pos L (hL.bids_eq ▸ by simp)⟩

/-- The invariant only reads the bids and the cached lead. -/
theorem Wf.of_same (hw : b.Wf) (hbids : b'.bids = b.bids) (hid : b'.highestBidId = b.highestBidId)
    (hamount : b'.highestAmount = b.highestAmount)
    (hbidder : b'.highestBidderId = b.highestBidderId) : b'.Wf := by
  refine ⟨hbids ▸ hw.ids_nodup, hbids ▸ hw.ids_ne, hbids ▸ hw.amount_pos, ?_⟩
  rcases hw.lead with ⟨h₁, h₂, h₃, h₄⟩ | ⟨pre, L, post, hL⟩
  · exact Or.inl ⟨hid ▸ h₁, hamount ▸ h₂, hbidder ▸ h₃, hbids ▸ h₄⟩
  · exact Or.inr ⟨pre, L, post, { hL with
      bids_eq := hbids ▸ hL.bids_eq, highestBidId_eq := hid ▸ hL.highestBidId_eq,
      highestAmount_eq := hamount ▸ hL.highestAmount_eq,
      highestBidderId_eq := hbidder ▸ hL.highestBidderId_eq }⟩

/-- A bid among bids that are the same as placed has the id and the amount of one of them. -/
theorem exists_of_map_asPlaced {l l' : List Bid} (h : l'.map Bid.asPlaced = l.map Bid.asPlaced)
    {x : Bid} (hx : x ∈ l') : ∃ y ∈ l, x.id = y.id ∧ x.amount = y.amount := by
  obtain ⟨y, hy, hxy⟩ := List.mem_map.mp (h ▸ List.mem_map_of_mem (f := Bid.asPlaced) hx)
  have hid : x.asPlaced.id = y.asPlaced.id := congrArg Bid.id hxy.symm
  have hamt : x.asPlaced.amount = y.asPlaced.amount := congrArg Bid.amount hxy.symm
  exact ⟨y, hy, hid, hamt⟩

/-- Ids, their distinctness and the amounts depend only on the bids as placed. -/
theorem Wf.of_asPlaced (hw : b.Wf) (h : b'.bids.map Bid.asPlaced = b.bids.map Bid.asPlaced)
    (hlead : b'.Vacant ∨ ∃ pre L post, b'.LedBy pre L post) : b'.Wf := by
  have hids : b'.bids.map (·.id) = b.bids.map (·.id) := by
    have := congrArg (List.map (·.id)) h
    simpa [List.map_map, Function.comp_def, Bid.asPlaced] using this
  refine ⟨hids ▸ hw.ids_nodup, fun x hx => ?_, fun x hx => ?_, hlead⟩
  · obtain ⟨y, hy, hid, -⟩ := exists_of_map_asPlaced h hx
    exact hid ▸ hw.ids_ne y hy
  · obtain ⟨y, hy, -, hamt⟩ := exists_of_map_asPlaced h hx
    exact hamt ▸ hw.amount_pos y hy

/-! ### A bid entering over the lead -/

/-- A bid the acceptance rule lets in has a positive amount. -/
theorem pos_of_refusal_eq_none {p H : Decimal} (h : refusal p H = none) : 0 < p.toRat :=
  ((isValidBidAmount_iff p H).mp ((refusal_eq_none_iff p H).mp h)).1

/-- An accepted amount is above a positive lead. -/
theorem lt_of_refusal_eq_none {p H : Decimal} (h : refusal p H = none) (hH : 0 < H.toRat) :
    H < p := by
  obtain ⟨-, hzero | hmin⟩ := (isValidBidAmount_iff p H).mp ((refusal_eq_none_iff p H).mp h)
  · exact absurd hzero hH.ne'
  · rw [Decimal.lt_iff_toRat]
    exact lt_of_lt_of_le (lt_minimumNextBid H) hmin

section Entered

variable {bid : Bid} {now : Instant}

/-- Over a vacant book the entering bid leads every retracted bid. -/
theorem Vacant.ledBy_entered (hv : b.Vacant) :
    (entered b bid now).1.LedBy b.bids (entered b bid now).2 [] := by
  obtain ⟨hid, -, -, hret⟩ := hv
  have hbids : (entered b bid now).1.bids = b.bids ++ [(entered b bid now).2] := by
    rw [entered_bids, highestIndex?_of_empty hid]
  have hnone : b.bids.filter (·.status.isStanding) = [] :=
    List.filter_eq_nil_iff.mpr fun x hx => by simp [not_isStanding_of_retracted (hret x hx)]
  refine ⟨hbids, by simp, by simp, by simp, rfl, fun x hx => Or.inr (hret x hx), ?_, ?_, by simp⟩
  · rw [hnone]
    exact List.Pairwise.nil
  · intro x hx hs
    rw [not_isStanding_of_retracted (hret x hx)] at hs
    cases hs

/-- The entering bid leads, the old leader joins the stack outbid, and the bids after it stay
retracted under it. -/
theorem LedBy.ledBy_entered {pre post : List Bid} {L : Bid} (hL : b.LedBy pre L post) (hw : b.Wf)
    (hlt : L.amount < bid.amount) :
    (entered b bid now).1.LedBy (pre ++ { L with status := .outbid } :: post)
      (entered b bid now).2 [] := by
  have hbids : (entered b bid now).1.bids =
      (pre ++ { L with status := .outbid } :: post) ++ [(entered b bid now).2] := by
    rw [entered_bids, hL.highestIndex? hw, hL.bids_eq]
    exact congrArg (· ++ [_]) (updateAt_append_cons pre post L _)
  have hLo : ({ L with status := .outbid } : Bid).status.isStanding = true := rfl
  have hfilter := filter_standing_append_cons pre hLo
    fun y hy => not_isStanding_of_retracted (hL.post_retracted y hy)
  refine ⟨hbids, by simp, by simp, by simp, rfl, ?_, ?_, ?_, by simp⟩
  · intro x hx
    rcases List.mem_append.mp hx with hx | hx
    · exact hL.pre_status x hx
    · rcases List.mem_cons.mp hx with rfl | hx
      · exact Or.inl rfl
      · exact Or.inr (hL.post_retracted x hx)
  · rw [hfilter, List.pairwise_append]
    refine ⟨hL.rising, List.pairwise_singleton _ _, fun x hx y hy => ?_⟩
    rw [List.mem_singleton] at hy
    subst hy
    obtain ⟨hxpre, hxs⟩ := List.mem_filter.mp hx
    exact hL.below x hxpre hxs
  · intro x hx hs
    rw [Decimal.lt_iff_toRat] at hlt ⊢
    rcases List.mem_append.mp hx with hx | hx
    · have := Decimal.lt_iff_toRat.mp (hL.below x hx hs)
      simp only [entered_snd]
      linarith
    · rcases List.mem_cons.mp hx with rfl | hx
      · simpa using hlt
      · rw [not_isStanding_of_retracted (hL.post_retracted x hx)] at hs
        cases hs

/-- An accepted bid under a fresh, non-empty id keeps the invariant. -/
theorem Wf.entered (hw : b.Wf) (hne : bid.id ≠ "") (hfresh : ∀ x ∈ b.bids, x.id ≠ bid.id)
    (hok : refusal bid.amount b.highestAmount = none) : (Txn.entered b bid now).1.Wf := by
  have hmap : (Txn.entered b bid now).1.bids.map Bid.asPlaced = (b.bids ++ [bid]).map Bid.asPlaced := by
    rw [entered_bids_asPlaced, List.map_append, List.map_singleton]
  have hmem : ∀ x ∈ (Txn.entered b bid now).1.bids, x.id ≠ "" ∧ 0 < x.amount.toRat := by
    intro x hx
    obtain ⟨y, hy, hid, hamt⟩ := exists_of_map_asPlaced hmap hx
    rw [hid, hamt]
    rcases List.mem_append.mp hy with hy | hy
    · exact ⟨hw.ids_ne y hy, hw.amount_pos y hy⟩
    · rw [List.mem_singleton.mp hy]
      exact ⟨hne, pos_of_refusal_eq_none hok⟩
  have hnodup : ((Txn.entered b bid now).1.bids.map (·.id)).Nodup := by
    rw [entered_bid_ids, List.nodup_append]
    refine ⟨hw.ids_nodup, List.nodup_singleton _, fun a ha c hc => ?_⟩
    obtain ⟨x, hx, rfl⟩ := List.mem_map.mp ha
    rw [List.mem_singleton.mp hc]
    exact hfresh x hx
  refine ⟨hnodup, fun x hx => (hmem x hx).1, fun x hx => (hmem x hx).2, Or.inr ?_⟩
  rcases hw.lead with hv | ⟨pre, L, post, hL⟩
  · exact ⟨_, _, _, hv.ledBy_entered⟩
  · have hpos : 0 < b.highestAmount.toRat := hL.highestAmount_eq ▸ hw.amount_pos L (hL.bids_eq ▸ by simp)
    have hlt := lt_of_refusal_eq_none hok hpos
    rw [hL.highestAmount_eq] at hlt
    exact ⟨_, _, _, hL.ledBy_entered hw hlt⟩

/-- An answer of the cascade enters over the lead and touches only the auto-bids besides. -/
theorem Wf.afterAnswer {i : Nat} {r : AutoBid} {id : String} {amount : Decimal}
    (hw : b.Wf) (hne : id ≠ "") (hfresh : ∀ x ∈ b.bids, x.id ≠ id)
    (hok : refusal amount b.highestAmount = none) : (Cascade.afterAnswer b i r id amount now).Wf :=
  Wf.of_same (b := (Txn.entered b (Cascade.bidFor r b.auctionId id amount now) now).1)
    (hw.entered hne hfresh hok) rfl rfl rfl rfl

end Entered

/-! ### Withdrawing the leader -/

section Withdrawal

open Withdrawal

/-- An outbid or retracted bid that does not stand is retracted. -/
theorem retracted_of_status {x : Bid} (h : x.status = .outbid ∨ x.status = .retracted)
    (hs : x.status.isStanding = false) : x.status = .retracted := by
  rcases h with h | h
  · rw [h] at hs
    cases hs
  · exact h

/-- Without a leader no bid is accepted. -/
theorem Vacant.not_accepted (hv : b.Vacant) {x : Bid} (hx : x ∈ b.bids) :
    x.status ≠ .accepted := by
  rw [hv.2.2.2 x hx]
  decide

/-- The leader is the only accepted bid. -/
theorem LedBy.eq_of_accepted {pre post : List Bid} {L : Bid} (hL : b.LedBy pre L post) {x : Bid}
    (hx : x ∈ b.bids) (hacc : x.status = .accepted) : x = L := by
  rw [hL.bids_eq] at hx
  rcases List.mem_append.mp hx with hx | hx
  · rcases hL.pre_status x hx with h | h <;> rw [h] at hacc <;> cases hacc
  · rcases List.mem_cons.mp hx with rfl | hx
    · rfl
    · rw [hL.post_retracted x hx] at hacc
      cases hacc

/-- A bid that may be withdrawn is accepted. -/
theorem accepted_of_refusal_eq_none {bid : Bid} {bidderId : String} {now : Instant}
    {window : Duration} (h : Withdrawal.refusal bid bidderId now window = none) :
    bid.status = .accepted := by
  by_contra hs
  unfold Withdrawal.refusal at h
  split at h
  · cases h
  · rw [if_pos (by simpa using hs)] at h
    cases h

/-- Withdrawing marks the bid at its position retracted. -/
@[simp] theorem withdrawn_bids (i : Nat) (bidderId : String) (now : Instant) :
    (withdrawn b i bidderId now).bids = updateAt b.bids i fun x => { x with status := .retracted } := by
  dsimp only [withdrawn]
  split <;> rfl

/-- Withdrawing keeps the cached lead's id, until the lead is handed on. -/
@[simp] theorem withdrawn_highestBidId (i : Nat) (bidderId : String) (now : Instant) :
    (withdrawn b i bidderId now).highestBidId = b.highestBidId := by
  dsimp only [withdrawn]
  split <;> rfl

/-- Withdrawing keeps the cached lead's amount, until the lead is handed on. -/
@[simp] theorem withdrawn_highestAmount (i : Nat) (bidderId : String) (now : Instant) :
    (withdrawn b i bidderId now).highestAmount = b.highestAmount := by
  dsimp only [withdrawn]
  split <;> rfl

/-- Withdrawing keeps the cached leader, until the lead is handed on. -/
@[simp] theorem withdrawn_highestBidderId (i : Nat) (bidderId : String) (now : Instant) :
    (withdrawn b i bidderId now).highestBidderId = b.highestBidderId := by
  dsimp only [withdrawn]
  split <;> rfl

/-- With no standing bid under a withdrawn leader, nobody leads. -/
theorem LedBy.vacant_handedBack {pre post : List Bid} {L : Bid} (hL : b.LedBy pre L post)
    (hs : pre.filter (·.status.isStanding) = []) (bidderId : String) (now : Instant) :
    (handedBack (withdrawn b pre.length bidderId now)).Vacant := by
  have hbids : (withdrawn b pre.length bidderId now).bids =
      pre ++ { L with status := .retracted } :: post := by
    rw [withdrawn_bids, hL.bids_eq, updateAt_append_cons]
  have hret : ∀ x ∈ (withdrawn b pre.length bidderId now).bids, x.status = .retracted := by
    rw [hbids]
    intro x hx
    rcases List.mem_append.mp hx with hx | hx
    · exact retracted_of_status (hL.pre_status x hx) (by simpa using List.filter_eq_nil_iff.mp hs x hx)
    · rcases List.mem_cons.mp hx with rfl | hx
      · rfl
      · exact hL.post_retracted x hx
  have hnone : (withdrawn b pre.length bidderId now).bestStanding? = none :=
    bestStandingFrom_of_none_standing _ 0 none fun x hx => not_isStanding_of_retracted (hret x hx)
  unfold handedBack
  rw [hnone]
  exact ⟨rfl, rfl, rfl, by simpa using hret⟩

/-- Under a withdrawn leader the last standing bid takes the lead back, accepted again. -/
theorem LedBy.ledBy_handedBack {pre post A mid : List Bid} {L x : Bid} (hL : b.LedBy pre L post)
    (hpre : pre = A ++ x :: mid) (hx : x.status.isStanding = true)
    (hmid : ∀ y ∈ mid, y.status.isStanding = false) (bidderId : String) (now : Instant) :
    (handedBack (withdrawn b pre.length bidderId now)).LedBy A { x with status := .accepted }
      (mid ++ { L with status := .retracted } :: post) := by
  have hbids : (withdrawn b pre.length bidderId now).bids =
      A ++ x :: (mid ++ { L with status := .retracted } :: post) := by
    rw [withdrawn_bids, hL.bids_eq, updateAt_append_cons, hpre]
    simp
  have hrest : ∀ y ∈ mid ++ { L with status := .retracted } :: post, y.status = .retracted := by
    intro y hy
    rcases List.mem_append.mp hy with hy | hy
    · exact retracted_of_status (hL.pre_status y (by simp [hpre, hy])) (hmid y hy)
    · rcases List.mem_cons.mp hy with rfl | hy
      · rfl
      · exact hL.post_retracted y hy
  have hfilter := filter_standing_append_cons A hx hmid
  have hrise := hL.rising
  rw [hpre, hfilter, List.pairwise_append] at hrise
  obtain ⟨hA, -, hAx⟩ := hrise
  have hstand : ∀ y ∈ mid ++ { L with status := .retracted } :: post,
      y.status.isStanding = false := fun y hy => not_isStanding_of_retracted (hrest y hy)
  have hrise' : ((A ++ x :: (mid ++ { L with status := .retracted } :: post)).filter
      (·.status.isStanding)).Pairwise (·.amount < ·.amount) := by
    rw [filter_standing_append_cons A hx hstand, List.pairwise_append]
    exact ⟨hA, List.pairwise_singleton _ _, hAx⟩
  have hbest : (withdrawn b pre.length bidderId now).bestStanding? = some (A.length, x) := by
    have := bestStandingFrom_of_last A x _ 0 none hx hstand hrise' (by simp)
    rwa [zero_add, ← hbids] at this
  unfold handedBack
  rw [hbest]
  refine ⟨?_, rfl, rfl, rfl, rfl, fun y hy => hL.pre_status y (by simp [hpre, hy]), hA, ?_, hrest⟩
  · rw [setHighest_bids, modifyBid_bids, hbids, updateAt_append_cons]
  · intro y hy hs
    exact hAx y (List.mem_filter.mpr ⟨hy, hs⟩) x (List.mem_singleton_self x)

/-- Handing the lead back changes a status and nothing else of the bids. -/
theorem handedBack_bids_asPlaced (b : Book) :
    (handedBack b).bids.map Bid.asPlaced = b.bids.map Bid.asPlaced := by
  unfold handedBack
  split
  · rfl
  · rename_i j next hs
    obtain h | ⟨k, hk, rfl⟩ := bestStandingFrom_eq_some hs
    · cases h
    · rw [setHighest_bids, modifyBid_bids, zero_add]
      apply List.ext_getElem?
      intro n
      rw [List.getElem?_map, List.getElem?_map, getElem?_updateAt]
      split
      · subst_vars
        rw [hk]
        rfl
      · rfl

/-- Withdrawing the leader and handing the lead back keeps the invariant. -/
theorem LedBy.wf_handedBack_withdrawn {pre post : List Bid} {L : Bid} (hL : b.LedBy pre L post)
    (hw : b.Wf) (bidderId : String) (now : Instant) :
    (handedBack (withdrawn b pre.length bidderId now)).Wf := by
  have hmap : (handedBack (withdrawn b pre.length bidderId now)).bids.map Bid.asPlaced =
      b.bids.map Bid.asPlaced := by
    rw [handedBack_bids_asPlaced, withdrawn_bids,
      map_updateAt b.bids _ (fun x => { x with status := .retracted }) Bid.asPlaced fun _ => rfl]
  refine hw.of_asPlaced hmap ?_
  by_cases hs : pre.filter (·.status.isStanding) = []
  · exact Or.inl (hL.vacant_handedBack hs bidderId now)
  · obtain ⟨A, x, mid, hpre, hx, hmid⟩ := exists_last_standing hs
    exact Or.inr ⟨_, _, _, hL.ledBy_handedBack hpre hx hmid bidderId now⟩

end Withdrawal

end Book

namespace Cascade

variable {b b' : Book}

/-- A whole cascade keeps the invariant, one answer at a time. -/
theorem Answers.wf {l : List (Nat × Bid)} (h : Answers b l b') (hw : b.Wf) : b'.Wf := by
  induction h with
  | nil => exact hw
  | cons _ _ _ _ _ _ hok hne hfresh _ ih => exact ih (hw.afterAnswer hne hfresh hok)

end Cascade

namespace Book

open Txn Withdrawal

variable {b b' : Book}

/-! ### Committed operations -/

section Committed

/-- Bids that read the same as placed carry the same ids, so the same ids are fresh for them. -/
theorem FreshAbove.of_asPlaced {n : Nat} (h : b.FreshAbove n)
    (hmap : b'.bids.map Bid.asPlaced = b.bids.map Bid.asPlaced) : b'.FreshAbove n := by
  intro x hx k hk
  obtain ⟨y, hy, hid, -⟩ := exists_of_map_asPlaced hmap hx
  exact hid ▸ h y hy k hk

/-- A cascade run from a book that holds the invariant, with its ids ahead, keeps it. -/
theorem Wf.resolve {t t' : Txn} {n : Nat} (hw : t.book.Wf) (hfresh : t.book.FreshAbove t.drawn)
    (h : Cascade.resolve.run.run t = (.ok n, t')) : t'.book.Wf := by
  obtain ⟨l, hl, -⟩ := Cascade.resolve_eq_ok h hw.leadAgrees hfresh
  exact hl.wf hw

/-- Withdrawing keeps the bids as placed, whether the lead is handed back or not. -/
theorem withdrawal_bids_asPlaced (c : Prop) [Decidable c] (i : Nat) (u : String) (now : Instant) :
    (if c then handedBack (withdrawn b i u now) else withdrawn b i u now).bids.map Bid.asPlaced =
      b.bids.map Bid.asPlaced := by
  have hmap : (withdrawn b i u now).bids.map Bid.asPlaced = b.bids.map Bid.asPlaced := by
    rw [withdrawn_bids,
      map_updateAt b.bids _ (fun x => { x with status := .retracted }) Bid.asPlaced fun _ => rfl]
  split
  · rw [handedBack_bids_asPlaced, hmap]
  · exact hmap

/-- A bid that may be withdrawn is the leader, the only accepted bid, at its position. -/
theorem Wf.ledBy_of_withdrawable {bidId : String} {i : Nat} {bid : Bid} {u : String}
    {now : Instant} {window : Duration} (hw : b.Wf) (hi : b.bidIndex? bidId = some i)
    (hf : b.findBid? bidId = some bid) (hr : Withdrawal.refusal bid u now window = none) :
    ∃ pre post, b.LedBy pre bid post ∧ i = pre.length := by
  have hacc := accepted_of_refusal_eq_none hr
  have hmem := List.mem_of_find?_eq_some hf
  rcases hw.lead with hv | ⟨pre, L, post, hL⟩
  · exact absurd hacc (hv.not_accepted hmem)
  · obtain rfl := hL.eq_of_accepted hmem hacc
    have hid : bid.id = bidId := by simpa using List.find?_some hf
    have hpre := (ne_of_nodup_map_append_cons (hL.bids_eq ▸ hw.ids_nodup)).1
    have hidx := bidIndex?_of_bids_eq hL.bids_eq hpre
    rw [hid, hi] at hidx
    exact ⟨pre, post, hL, Option.some.inj hidx⟩

/-- A bid that may be withdrawn is the leader, so withdrawing it and handing the lead back keeps
the invariant. -/
theorem Wf.withdrawn_book {bidId : String} {i : Nat} {bid : Bid} {u : String} {now now' : Instant}
    {window : Duration} (hw : b.Wf) (hi : b.bidIndex? bidId = some i)
    (hf : b.findBid? bidId = some bid) (hr : Withdrawal.refusal bid u now window = none) :
    (if b.highestBidId = bid.id then handedBack (withdrawn b i bid.bidderId now')
      else withdrawn b i bid.bidderId now').Wf := by
  obtain ⟨pre, post, hL, rfl⟩ := hw.ledBy_of_withdrawable hi hf hr
  rw [if_pos hL.highestBidId_eq]
  exact hL.wf_handedBack_withdrawn hw _ _

/-- A withdrawal that writes took the leader and handed the lead back before its cascade. -/
theorem Wf.withdrawal {req : RetractRequest} {auctionId : String} {now : Instant}
    {window : Duration} {w : Book} {h : House} (hw : b.Wf) (hfresh : b.FreshAbove h.drawn)
    (hwr : House.Writes (Withdrawal.change req auctionId now window) b w h) : w.Wf := by
  obtain ⟨-, i, bid, hi, hf, hr, t, n, t', ht, hd, hres, rfl⟩ := Withdrawal.change_writes hwr
  have hw₁ : t.book.Wf := ht ▸ hw.withdrawn_book hi hf hr
  have hmap : t.book.bids.map Bid.asPlaced = b.bids.map Bid.asPlaced :=
    ht ▸ withdrawal_bids_asPlaced _ _ _ _
  exact hw₁.resolve ((hfresh.of_asPlaced hmap).mono hd) hres

/-- Storing a written book at the next version keeps the invariant. -/
theorem Wf.version (hw : b.Wf) (v : Int) : ({ b with version := v } : Book).Wf :=
  hw.of_same rfl rfl rfl rfl

/-- Every committed operation keeps the invariant. -/
theorem Wf.committed (hw : b.Wf) (h : Committed b b') : b'.Wf := by
  cases h with
  | place req k now hk hnew hfresh hwr =>
    obtain ⟨-, hok, t, n, t', ht, hd, hres, rfl⟩ := Placement.change_writes hwr
    have hw₁ : t.book.Wf := ht ▸ hw.entered (idOf_ne_empty k) hnew hok
    have hfresh₁ : t.book.FreshAbove t.drawn := ht ▸ hd ▸ hfresh.entered rfl (by omega) (by omega)
    exact (hw₁.resolve hfresh₁ hres).version _
  | retract req auctionId now window hfresh hwr => exact (hw.withdrawal hfresh hwr).version _
  | finish closing hwr =>
    obtain ⟨-, rfl⟩ := closing_writes hwr
    exact hw.of_same rfl rfl rfl rfl
  | register req k now hpos hnew hfresh hwr =>
    obtain ⟨-, -, -, n, t', hres, rfl⟩ := Proxy.register_writes hwr
    exact (Wf.resolve (by exact hw.of_same rfl rfl rfl rfl) (by exact hfresh) hres).version _
  | toggle autoBidId userId active now last hfresh hwr =>
    obtain ⟨i, ab, -, -, -, hon, hoff⟩ := Proxy.toggle_writes hwr
    cases active with
    | true =>
      obtain ⟨-, -, n, t', hres, rfl⟩ := hon rfl
      exact (Wf.resolve (by exact hw.of_same rfl rfl rfl rfl) (by exact hfresh) hres).version _
    | false =>
      obtain rfl := hoff rfl
      exact hw.of_same rfl rfl rfl rfl
  | cancel autoBidId userId now hwr =>
    obtain ⟨i, ab, -, -, rfl⟩ := Proxy.cancel_writes hwr
    exact hw.of_same rfl rfl rfl rfl

/-- The empty book holds the invariant. -/
theorem empty_wf (auctionId : String) : (Book.empty auctionId).Wf := by
  have hbids : (Book.empty auctionId).bids = [] := rfl
  exact ⟨List.nodup_nil, by simp [hbids], by simp [hbids], Or.inl ⟨rfl, rfl, rfl, by simp [hbids]⟩⟩

end Committed

/-! ### What the invariant says -/

section Reading

variable {x : Bid}

/-- The standing bids of a led book are those before the leader, then the leader. -/
theorem LedBy.filter_standing {pre post : List Bid} {L : Bid} (hL : b.LedBy pre L post) :
    b.bids.filter (·.status.isStanding) = pre.filter (·.status.isStanding) ++ [L] := by
  rw [hL.bids_eq]
  have hacc : L.status.isStanding = true := by rw [hL.accepted]; rfl
  exact filter_standing_append_cons pre hacc fun y hy =>
    not_isStanding_of_retracted (hL.post_retracted y hy)

/-- A book without a leader has no standing bid. -/
theorem Vacant.filter_standing (hv : b.Vacant) : b.bids.filter (·.status.isStanding) = [] :=
  List.filter_eq_nil_iff.mpr fun y hy => by simp [not_isStanding_of_retracted (hv.2.2.2 y hy)]

/-- The leader is the last standing bid; with nobody leading no bid stands. -/
theorem Wf.getLast?_standing (hw : b.Wf) :
    (b.bids.filter (·.status.isStanding)).getLast? = b.highestBid? := by
  rcases hw.lead with hv | ⟨pre, L, post, hL⟩
  · rw [hv.filter_standing, highestBid?_of_empty hv.1]
    rfl
  · rw [hL.filter_standing, hL.highestBid? hw, List.getLast?_concat]

/-- The standing bids rise in book order. -/
theorem Wf.rising (hw : b.Wf) : (b.bids.filter (·.status.isStanding)).Pairwise (·.amount < ·.amount) := by
  rcases hw.lead with hv | ⟨pre, L, post, hL⟩
  · rw [hv.filter_standing]
    exact List.Pairwise.nil
  · rw [hL.filter_standing, List.pairwise_append]
    refine ⟨hL.rising, List.pairwise_singleton _ _, fun y hy z hz => ?_⟩
    rw [List.mem_singleton.mp hz]
    obtain ⟨hy, hs⟩ := List.mem_filter.mp hy
    exact hL.below y hy hs

/-- Every bid of a book of the invariant is accepted, outbid or retracted. -/
theorem Wf.status (hw : b.Wf) (hx : x ∈ b.bids) :
    x.status = .accepted ∨ x.status = .outbid ∨ x.status = .retracted := by
  rcases hw.lead with hv | ⟨pre, L, post, hL⟩
  · exact Or.inr (Or.inr (hv.2.2.2 x hx))
  · rw [hL.bids_eq] at hx
    rcases List.mem_append.mp hx with hx | hx
    · exact Or.inr (hL.pre_status x hx)
    · rcases List.mem_cons.mp hx with rfl | hx
      · exact Or.inl hL.accepted
      · exact Or.inr (Or.inr (hL.post_retracted x hx))

/-- The accepted bids are exactly the one the cached id names. -/
theorem Wf.accepted_iff (hw : b.Wf) (hx : x ∈ b.bids) :
    x.status = .accepted ↔ b.highestBidId ≠ "" ∧ x.id = b.highestBidId := by
  rcases hw.lead with hv | ⟨pre, L, post, hL⟩
  · rw [hv.1]
    exact ⟨fun h => absurd h (hv.not_accepted hx), fun h => absurd rfl h.1⟩
  · have hLmem : L ∈ b.bids := hL.bids_eq ▸ by simp
    rw [hL.highestBidId_eq]
    constructor
    · intro hacc
      obtain rfl := hL.eq_of_accepted hx hacc
      exact ⟨hw.ids_ne x hx, rfl⟩
    · rintro ⟨-, hid⟩
      rw [List.inj_on_of_nodup_map hw.ids_nodup hx hLmem hid]
      exact hL.accepted

/-- The cached lead is cleared exactly when nobody leads, and otherwise names a bid of the
book with the cached amount and bidder. -/
theorem Wf.cached (hw : b.Wf) :
    (b.highestBidId = "" → b.highestAmount = 0 ∧ b.highestBidderId = "") ∧
      (b.highestBidId ≠ "" → ∃ L ∈ b.bids, L.id = b.highestBidId ∧
        L.amount = b.highestAmount ∧ L.bidderId = b.highestBidderId) := by
  rcases hw.lead with ⟨hid, hamt, hbidder, -⟩ | ⟨pre, L, post, hL⟩
  · exact ⟨fun _ => ⟨hamt, hbidder⟩, fun h => absurd hid h⟩
  · have hLmem : L ∈ b.bids := hL.bids_eq ▸ by simp
    refine ⟨fun h => absurd (hL.highestBidId_eq ▸ h) (hw.ids_ne L hLmem), fun _ => ?_⟩
    exact ⟨L, hLmem, hL.highestBidId_eq.symm, hL.highestAmount_eq.symm, hL.highestBidderId_eq.symm⟩

end Reading

end Book

/-- Every book a run of committed operations reaches holds the invariant. -/
theorem Reachable.wf {b : Book} (h : Reachable b) : b.Wf := by
  obtain ⟨auctionId, hrun⟩ := h
  induction hrun with
  | refl => exact Book.empty_wf auctionId
  | tail _ hstep ih => exact ih.committed hstep

/-- Every book that committed operations reach from the empty book keeps a consistent lead:
(a) the cached lead is cleared exactly when nobody leads, and otherwise names a bid with the
cached amount and bidder; (b) bids have distinct ids, positive amounts and a status among
accepted, outbid and retracted, and the accepted bid is the leader alone; (c) the standing bids
rise in book order and the leader is the last of them. -/
theorem reachable_lead_consistent {b : Book} (h : Reachable b) :
    (b.highestBidId = "" → b.highestAmount = 0 ∧ b.highestBidderId = "") ∧
    (b.highestBidId ≠ "" → ∃ L ∈ b.bids, L.id = b.highestBidId ∧ L.amount = b.highestAmount ∧
      L.bidderId = b.highestBidderId) ∧
    (b.bids.map (·.id)).Nodup ∧
    (∀ x ∈ b.bids, 0 < x.amount.toRat ∧
      (x.status = .accepted ∨ x.status = .outbid ∨ x.status = .retracted) ∧
      (x.status = .accepted ↔ b.highestBidId ≠ "" ∧ x.id = b.highestBidId)) ∧
    (b.bids.filter (·.status.isStanding)).Pairwise (·.amount < ·.amount) ∧
    (b.bids.filter (·.status.isStanding)).getLast? = b.highestBid? := by
  have hw := h.wf
  obtain ⟨hempty, hlead⟩ := hw.cached
  refine ⟨hempty, hlead, hw.ids_nodup, fun x hx => ?_, hw.rising, hw.getLast?_standing⟩
  exact ⟨hw.amount_pos x hx, hw.status hx, hw.accepted_iff hx⟩

/-- A first bid of 100 on an empty auction, under the first id. -/
def openingRequest : PlaceRequest :=
  { auctionId := "a-1", bidderId := "u1", bidderUsername := "ann", amount := 100, idempotencyKey := "" }

/-- A default house that drew one id. -/
def openingHouse : House := { (default : House) with drawn := 1 }

/-- The book the opening bid commits. -/
def openedBook : Book :=
  { (Txn.run
      (do Txn.accept (openingRequest.bid (Txn.idOf 1) openingHouse.now); let _ ← Cascade.resolve; pure ())
      (Book.empty "a-1") openingHouse.now openingHouse.drawn).2.book with version := 1 }

/-- The opening bid commits the opened book on the empty book. -/
theorem opening_committed : Committed (Book.empty "a-1") openedBook :=
  Committed.place openingRequest 1 openingHouse.now (by decide) nofun nofun ⟨⟨pure ()⟩, _, _, rfl⟩

/-- A registration of `req` under the `k`-th id over the book `b`, in the default house once
`k` ids were drawn: the cascade over `b` with the new auto-bid. -/
def registrationRun (req : AutoBidRequest) (k : Nat) (b : Book) : Txn :=
  (Txn.run Cascade.resolve
    { b with autoBids := b.autoBids ++ [req.autoBid (Txn.idOf k) (default : House).now],
             updatedAt := (default : House).now }
    (default : House).now k).2

/-- A registration that passes its checks on `b`, and whose cascade succeeds, commits the book
the cascade leaves. -/
theorem Committed.registration (req : AutoBidRequest) (k : Nat) (b : Book)
    (hpos : req.maxAmount.isPos = true) (hnew : ∀ a ∈ b.autoBids, a.id ≠ Txn.idOf k)
    (hfresh : b.bids.map (·.id) ⊆ (List.range (k + 1)).map Txn.idOf) (hc : b.closed = false)
    (ha : b.activeAutoBidFor? req.userId = none)
    (hm : Proxy.maxRefusal b req.userId req.maxAmount = none)
    (hok : (Txn.run Cascade.resolve
      { b with autoBids := b.autoBids ++ [req.autoBid (Txn.idOf k) (default : House).now],
               updatedAt := (default : House).now }
      (default : House).now k).1.isOk = true) :
    Committed b { (registrationRun req k b).book with version := b.version + 1 } :=
  Committed.register (h := { (default : House) with drawn := k }) req k (default : House).now hpos
    hnew (Book.freshAbove_of_ids hfresh) (Proxy.register_writes_of_checks hc ha hm hok)

/-- A withdrawal by `req` over the book `b`, in the default house once `k` ids were drawn: the
transaction on the bid it names. -/
def withdrawalRun (req : RetractRequest) (k : Nat) (b : Book) : Txn :=
  (Txn.run (Withdrawal.apply ((b.bidIndex? req.bidId).getD 0) ((b.findBid? req.bidId).getD default)
    req.reason) b (default : House).now k).2

/-- A withdrawal of a bid of the book `b` that passes the refusals, and whose transaction
succeeds, commits the book the transaction leaves. -/
theorem Committed.withdrawal (req : RetractRequest) (k : Nat) (b : Book) (hc : b.closed = false)
    (hi : (b.bidIndex? req.bidId).isSome = true) (hf : (b.findBid? req.bidId).isSome = true)
    (hr : Withdrawal.refusal ((b.findBid? req.bidId).getD default) req.bidderId
      (default : House).now ⟨0⟩ = none)
    (hok : (Txn.run (Withdrawal.apply ((b.bidIndex? req.bidId).getD 0)
      ((b.findBid? req.bidId).getD default) req.reason) b (default : House).now k).1.isOk = true)
    (hfresh : b.bids.map (·.id) ⊆ (List.range (k + 1)).map Txn.idOf) :
    Committed b { (withdrawalRun req k b).book with version := b.version + 1 } := by
  obtain ⟨i, hi⟩ := Option.isSome_iff_exists.mp hi
  obtain ⟨bid, hf⟩ := Option.isSome_iff_exists.mp hf
  rw [hi, hf, Option.getD_some, Option.getD_some] at hok
  rw [hf, Option.getD_some] at hr
  unfold withdrawalRun
  rw [hi, hf, Option.getD_some, Option.getD_some]
  exact Committed.retract req b.auctionId (default : House).now ⟨0⟩ (Book.freshAbove_of_ids hfresh)
    (Withdrawal.change_writes_of_checks (h := { (default : House) with drawn := k }) hc hi hf hr hok)

/-- `u2` registers an auto-bid of up to 300, under the fifth id. -/
def proxyRequest : AutoBidRequest := ⟨"a-1", "u2", "bob", 300⟩

/-- `u3` registers an auto-bid of up to 200, under the ninth id. -/
def rivalRequest : AutoBidRequest := ⟨"a-1", "u3", "cy", 200⟩

/-- The opened book once `u2`'s auto-bid answered the opening bid with 110. -/
def proxiedBook : Book :=
  { (registrationRun proxyRequest 5 openedBook).book with version := openedBook.version + 1 }

/-- The book once `u3`'s auto-bid ran a cascade against `u2`'s: `u3` bid 200, and `u2`'s
auto-bid answered with 210. -/
def contestedBook : Book :=
  { (registrationRun rivalRequest 9 proxiedBook).book with version := proxiedBook.version + 1 }

/-- The book once `u2` withdrew the leading 210: their auto-bid is paused, and the lead goes
back to `u3`'s 200. -/
def withdrawnBook : Book :=
  { (withdrawalRun ⟨"id-14", "u2", "typo"⟩ 17 contestedBook).book with
    version := contestedBook.version + 1 }

set_option maxRecDepth 20000 in
/-- The withdrawn book is reached from the empty book by the opening bid, the two registrations and
the withdrawal. -/
theorem withdrawnBook_reachable : Reachable withdrawnBook := by
  have hproxied : Committed openedBook proxiedBook :=
    Committed.registration proxyRequest 5 openedBook rfl (by decide +kernel) (by decide +kernel)
      (by decide +kernel) (by decide +kernel) (by decide +kernel) (by decide +kernel)
  have hcontested : Committed proxiedBook contestedBook :=
    Committed.registration rivalRequest 9 proxiedBook rfl (by decide +kernel) (by decide +kernel)
      (by decide +kernel) (by decide +kernel) (by decide +kernel) (by decide +kernel)
  have hwithdrawn : Committed contestedBook withdrawnBook :=
    Committed.withdrawal ⟨"id-14", "u2", "typo"⟩ 17 contestedBook (by decide +kernel)
      (by decide +kernel) (by decide +kernel) (by decide +kernel) (by decide +kernel)
      (by decide +kernel)
  exact ⟨"a-1", ((Relation.ReflTransGen.single opening_committed).tail hproxied).tail hcontested
    |>.tail hwithdrawn⟩

set_option maxRecDepth 20000 in
/-- The book the chain reaches holds two auto-bids, `u2`'s paused by the withdrawal, and four
bids: the opening 100 and `u2`'s answer of 110 outbid, `u3`'s 200 leading again, and `u2`'s 210
withdrawn. -/
theorem withdrawnBook_shape :
    withdrawnBook.bids.map (·.status) = [.outbid, .outbid, .accepted, .retracted] ∧
      withdrawnBook.autoBids.map (·.isActive) = [false, true] := by
  decide +kernel

/-- The book a withdrawal reached after a cascade of two auto-bids keeps a consistent lead. -/
theorem reachable_lead_consistent_withdrawn :
    Reachable withdrawnBook ∧
    withdrawnBook.bids.map (·.status) = [.outbid, .outbid, .accepted, .retracted] ∧
    withdrawnBook.autoBids.map (·.isActive) = [false, true] ∧
    (withdrawnBook.highestBidId = "" →
      withdrawnBook.highestAmount = 0 ∧ withdrawnBook.highestBidderId = "") ∧
    (withdrawnBook.highestBidId ≠ "" → ∃ L ∈ withdrawnBook.bids, L.id = withdrawnBook.highestBidId ∧
      L.amount = withdrawnBook.highestAmount ∧ L.bidderId = withdrawnBook.highestBidderId) ∧
    (withdrawnBook.bids.map (·.id)).Nodup ∧
    (∀ x ∈ withdrawnBook.bids, 0 < x.amount.toRat ∧
      (x.status = .accepted ∨ x.status = .outbid ∨ x.status = .retracted) ∧
      (x.status = .accepted ↔ withdrawnBook.highestBidId ≠ "" ∧ x.id = withdrawnBook.highestBidId)) ∧
    (withdrawnBook.bids.filter (·.status.isStanding)).Pairwise (·.amount < ·.amount) ∧
    (withdrawnBook.bids.filter (·.status.isStanding)).getLast? = withdrawnBook.highestBid? :=
  ⟨withdrawnBook_reachable, withdrawnBook_shape.1, withdrawnBook_shape.2,
    reachable_lead_consistent withdrawnBook_reachable⟩

end Auction
