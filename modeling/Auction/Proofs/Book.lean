import Mathlib
import Auction.Book.Txn
import Auction.Proofs.Amount

/-!
# Look-ups and updates of a book

The book addresses its entries by position (`updateAt`) and finds them by id, first match
first (`firstIndex?`, `List.find?`). On a list split as `pre ++ x :: post` with no match in
`pre`, both land on `x`, at position `pre.length` (`firstIndex?_append_cons`,
`find?_append_cons`); with distinct ids every entry splits its book that way. Changing the
entry at that position changes `x` alone (`updateAt_append_cons`).

The two book operations the later proofs go through:

* `Txn.entered` appends the accepted bid, demotes the entry the cached lead names, and points
  the lead at the new bid; with a fresh, non-empty id the new bid is then the leading bid
  (`Txn.highestBid?_entered`).
* `Book.bestStanding?`, over bids whose standing ones rise in amount, is the last standing bid
  with its position (`bestStandingFrom_of_last`), and nothing when no bid stands
  (`bestStandingFrom_of_none_standing`).
-/

namespace Auction

variable {α : Type}

/-! ### One position of a list -/

/-- Updating one position is the library's `List.modify`. -/
theorem updateAt_eq_modify (l : List α) (i : Nat) (f : α → α) : updateAt l i f = l.modify i f := by
  unfold updateAt
  split
  · rename_i x hx
    apply List.ext_getElem?
    intro j
    rw [List.getElem?_set, List.getElem?_modify]
    by_cases hij : i = j
    · subst hij
      obtain ⟨hi, hxi⟩ := List.getElem?_eq_some_iff.mp hx
      simp [hi, hxi]
    · simp [hij]
  · rename_i hx
    exact (List.modify_eq_self (List.getElem?_eq_none_iff.mp hx)).symm

/-- Updating one position keeps the length. -/
@[simp] theorem length_updateAt (l : List α) (i : Nat) (f : α → α) :
    (updateAt l i f).length = l.length := by
  rw [updateAt_eq_modify, List.length_modify]

/-- Updating position `i` changes the element there and no other. -/
theorem getElem?_updateAt (l : List α) (i j : Nat) (f : α → α) :
    (updateAt l i f)[j]? = if i = j then l[j]?.map f else l[j]? := by
  rw [updateAt_eq_modify, List.getElem?_modify]
  by_cases h : i = j <;> simp [h]

/-- Changing the entry at the position of `x` changes `x` alone. -/
theorem updateAt_append_cons (pre post : List α) (x : α) (f : α → α) :
    updateAt (pre ++ x :: post) pre.length f = pre ++ f x :: post := by
  rw [updateAt_eq_modify]
  induction pre with
  | nil => rfl
  | cons a pre ih => simp [List.modify_succ_cons, ih]

/-- An element after an update was there before, or is the image of one that was. -/
theorem mem_updateAt {l : List α} {i : Nat} {f : α → α} {x : α} (h : x ∈ updateAt l i f) :
    x ∈ l ∨ ∃ y ∈ l, x = f y := by
  unfold updateAt at h
  split at h
  · rename_i y hy
    rcases List.mem_or_eq_of_mem_set h with h | rfl
    · exact .inl h
    · exact .inr ⟨y, List.mem_of_getElem? hy, rfl⟩
  · exact .inl h

/-- A view of the entries that the change does not touch is unchanged. -/
theorem map_updateAt {β : Type} (l : List α) (i : Nat) (f : α → α) (g : α → β)
    (h : ∀ x, g (f x) = g x) : (updateAt l i f).map g = l.map g := by
  apply List.ext_getElem?
  intro j
  rw [List.getElem?_map, List.getElem?_map, getElem?_updateAt]
  split
  · cases l[j]? <;> simp [h]
  · rfl

/-! ### First matches -/

/-- The first position where `p` holds is that of the first element it holds of. -/
theorem firstIndex?_append_cons {p : α → Bool} {pre post : List α} {x : α}
    (hpre : ∀ y ∈ pre, p y = false) (hx : p x = true) :
    firstIndex? (pre ++ x :: post) p = some pre.length := by
  rw [firstIndex?, List.findIdx?_append, List.findIdx?_eq_none_iff.mpr hpre, List.findIdx?_cons,
    if_pos hx]
  simp

/-- The first element `p` holds of is found, whatever follows it. -/
theorem find?_append_cons {p : α → Bool} {pre post : List α} {x : α}
    (hpre : ∀ y ∈ pre, p y = false) (hx : p x = true) : (pre ++ x :: post).find? p = some x := by
  rw [List.find?_append, List.find?_eq_none.mpr (by simpa using hpre), List.find?_cons, hx]
  rfl

/-- The first position matching `p` holds the first element matching `p`. -/
theorem getElem?_of_firstIndex?_find? {p : α → Bool} {l : List α} {i : Nat} {x : α}
    (hi : firstIndex? l p = some i) (hx : l.find? p = some x) : l[i]? = some x := by
  obtain ⟨hlt, hpi, hbefore⟩ := List.findIdx?_eq_some_iff_getElem.mp hi
  obtain ⟨-, k, hk, hkx, hfirst⟩ := List.find?_eq_some_iff_getElem.mp hx
  have hik : i = k := by
    rcases Nat.lt_trichotomy i k with h | h | h
    · simpa [hpi] using hfirst i h
    · exact h
    · exact absurd (hkx ▸ List.find?_some hx) (hbefore k h)
  subst hik
  rw [List.getElem?_eq_getElem hlt, hkx]

/-- With distinct keys, no entry before or after `x` has the key of `x`. -/
theorem ne_of_nodup_map_append_cons {β : Type} {f : α → β} {pre post : List α} {x : α}
    (h : ((pre ++ x :: post).map f).Nodup) :
    (∀ y ∈ pre, f y ≠ f x) ∧ ∀ y ∈ post, f y ≠ f x := by
  rw [List.map_append, List.map_cons, List.nodup_append, List.nodup_cons] at h
  refine ⟨fun y hy hyx => ?_, fun y hy hyx => h.2.1.1 (hyx ▸ List.mem_map_of_mem hy)⟩
  exact h.2.2 (f y) (List.mem_map_of_mem hy) (f x) List.mem_cons_self hyx

/-! ### Look-ups of a book -/

namespace Book

/-- A bid whose id no earlier bid has is the one found under its id. -/
theorem findBid?_of_bids_eq {b : Book} {pre post : List Bid} {x : Bid}
    (hb : b.bids = pre ++ x :: post) (hpre : ∀ y ∈ pre, y.id ≠ x.id) : b.findBid? x.id = some x := by
  rw [findBid?, hb]
  exact find?_append_cons (by simpa using hpre) (by simp)

/-- A bid whose id no earlier bid has is found at its own position. -/
theorem bidIndex?_of_bids_eq {b : Book} {pre post : List Bid} {x : Bid}
    (hb : b.bids = pre ++ x :: post) (hpre : ∀ y ∈ pre, y.id ≠ x.id) :
    b.bidIndex? x.id = some pre.length := by
  rw [bidIndex?, hb]
  exact firstIndex?_append_cons (by simpa using hpre) (by simp)

/-- An id no bid has finds nothing. -/
theorem findBid?_eq_none {b : Book} {id : String} (h : ∀ x ∈ b.bids, x.id ≠ id) :
    b.findBid? id = none := by
  rw [findBid?, List.find?_eq_none]
  simpa using h

/-- A book whose lead has no id has no leading bid. -/
theorem highestBid?_of_empty {b : Book} (h : b.highestBidId = "") : b.highestBid? = none := by
  simp [highestBid?, h]

/-- A book whose lead has no id has no position of a leader. -/
theorem highestIndex?_of_empty {b : Book} (h : b.highestBidId = "") : b.highestIndex? = none := by
  simp [highestIndex?, h]

/-- A book whose lead names the non-empty id of a bid it holds is led by that bid. -/
theorem highestBid?_of_id {b : Book} {x : Bid} (hid : b.highestBidId = x.id) (hne : x.id ≠ "")
    (hfind : b.findBid? x.id = some x) : b.highestBid? = some x := by
  rw [highestBid?, hid, if_neg (by simpa using hne), hfind]

/-- A book whose lead names the non-empty id of a bid at position `i` is led from position `i`. -/
theorem highestIndex?_of_id {b : Book} {x : Bid} {i : Nat} (hid : b.highestBidId = x.id)
    (hne : x.id ≠ "") (hidx : b.bidIndex? x.id = some i) : b.highestIndex? = some i := by
  rw [highestIndex?, hid, if_neg (by simpa using hne), hidx]

/-- The leading bid is a bid of the book with the cached id. -/
theorem highestBid?_spec {b : Book} {x : Bid} (h : b.highestBid? = some x) :
    x ∈ b.bids ∧ x.id = b.highestBidId := by
  rw [highestBid?] at h
  split at h
  · cases h
  · exact ⟨List.mem_of_find?_eq_some h, by simpa using List.find?_some h⟩

/-- Setting the lead keeps the bids. -/
@[simp] theorem setHighest_bids (b : Book) (x : Option Bid) : (b.setHighest x).bids = b.bids := by
  cases x <;> rfl

/-- Setting the lead keeps the auto-bids. -/
@[simp] theorem setHighest_autoBids (b : Book) (x : Option Bid) :
    (b.setHighest x).autoBids = b.autoBids := by
  cases x <;> rfl

/-- Setting the lead keeps whether the book is closed. -/
@[simp] theorem setHighest_closed (b : Book) (x : Option Bid) :
    (b.setHighest x).closed = b.closed := by
  cases x <;> rfl

/-- Changing a bid updates the bids at its position. -/
@[simp] theorem modifyBid_bids (b : Book) (i : Nat) (f : Bid → Bid) :
    (b.modifyBid i f).bids = updateAt b.bids i f := rfl

/-- Changing a bid keeps the auto-bids. -/
@[simp] theorem modifyBid_autoBids (b : Book) (i : Nat) (f : Bid → Bid) :
    (b.modifyBid i f).autoBids = b.autoBids := rfl

/-- Changing an auto-bid updates the auto-bids at its position. -/
@[simp] theorem modifyAutoBid_autoBids (b : Book) (i : Nat) (f : AutoBid → AutoBid) :
    (b.modifyAutoBid i f).autoBids = updateAt b.autoBids i f := rfl

/-- Changing an auto-bid keeps the bids. -/
@[simp] theorem modifyAutoBid_bids (b : Book) (i : Nat) (f : AutoBid → AutoBid) :
    (b.modifyAutoBid i f).bids = b.bids := rfl

/-- The auto-bids changed at a position: the look-ups by bid stay. -/
@[simp] theorem highestBid?_modifyAutoBid (b : Book) (i : Nat) (f : AutoBid → AutoBid) :
    (b.modifyAutoBid i f).highestBid? = b.highestBid? := rfl

end Book

/-! ### A bid entering the book -/

namespace Txn

/-- The bid entered is the one given, accepted at the book's next version. -/
@[simp] theorem entered_snd (b : Book) (bid : Bid) (now : Instant) :
    (entered b bid now).2 = { bid with status := .accepted, version := b.version + 1 } := rfl

/-- Entering a bid marks the old leader outbid, if there was one, and appends the accepted bid. -/
theorem entered_bids (b : Book) (bid : Bid) (now : Instant) :
    (entered b bid now).1.bids =
      (match b.highestIndex? with
        | some i => updateAt b.bids i fun p => { p with status := .outbid }
        | none => b.bids) ++ [(entered b bid now).2] := by
  unfold entered
  cases b.highestIndex? <;> rfl

/-- Entering a bid keeps the auto-bids. -/
@[simp] theorem entered_autoBids (b : Book) (bid : Bid) (now : Instant) :
    (entered b bid now).1.autoBids = b.autoBids := by
  unfold entered; split <;> rfl

/-- The entered bid leads by its id. -/
@[simp] theorem entered_highestBidId (b : Book) (bid : Bid) (now : Instant) :
    (entered b bid now).1.highestBidId = bid.id := by
  unfold entered; split <;> rfl

/-- The entered bid's amount is the lead's amount. -/
@[simp] theorem entered_highestAmount (b : Book) (bid : Bid) (now : Instant) :
    (entered b bid now).1.highestAmount = bid.amount := by
  unfold entered; split <;> rfl

/-- The entered bid's bidder is the leader. -/
@[simp] theorem entered_highestBidderId (b : Book) (bid : Bid) (now : Instant) :
    (entered b bid now).1.highestBidderId = bid.bidderId := by
  unfold entered; split <;> rfl

/-- Entering a bid keeps the auction. -/
@[simp] theorem entered_auctionId (b : Book) (bid : Bid) (now : Instant) :
    (entered b bid now).1.auctionId = b.auctionId := by
  unfold entered; split <;> rfl

/-- Entering a bid keeps whether the book is closed. -/
@[simp] theorem entered_closed (b : Book) (bid : Bid) (now : Instant) :
    (entered b bid now).1.closed = b.closed := by
  unfold entered; split <;> rfl

/-- Demoting the leader keeps every id. -/
theorem entered_bid_ids (b : Book) (bid : Bid) (now : Instant) :
    (entered b bid now).1.bids.map (·.id) = b.bids.map (·.id) ++ [bid.id] := by
  rw [entered_bids]
  split <;> simp [map_updateAt]

/-- A bid under a fresh, non-empty id leads once it entered. -/
theorem highestBid?_entered {b : Book} {bid : Bid} {now : Instant} (hne : bid.id ≠ "")
    (hfresh : ∀ x ∈ b.bids, x.id ≠ bid.id) :
    (entered b bid now).1.highestBid? = some (entered b bid now).2 := by
  have hids := entered_bid_ids b bid now
  obtain ⟨pre, hpre⟩ : ∃ pre, (entered b bid now).1.bids = pre ++ [(entered b bid now).2] ∧
      pre.map (·.id) = b.bids.map (·.id) := by
    rw [entered_bids]
    split
    · exact ⟨_, rfl, map_updateAt _ _ _ _ fun _ => rfl⟩
    · exact ⟨_, rfl, rfl⟩
  apply Book.highestBid?_of_id (by simp) (by simpa using hne)
  apply Book.findBid?_of_bids_eq hpre.1
  intro y hy hyid
  have : y.id ∈ b.bids.map (·.id) := hpre.2 ▸ List.mem_map_of_mem hy
  obtain ⟨x, hx, hxid⟩ := List.mem_map.mp this
  exact hfresh x hx (hxid.trans hyid)

end Txn

/-! ### The best standing bid -/

/-- A higher bid beats a lower one, whatever their times. -/
theorem beats_of_lt {x c : Bid} (h : c.amount < x.amount) : Book.beats x c = true := by
  simp [Book.beats, h]

/-- A standing bid above the best so far becomes the best, at its position. -/
theorem bestStandingFrom_cons_of_standing {i : Nat} {y : Bid} {l : List Bid}
    {best : Option (Nat × Bid)} (hy : y.status.isStanding = true)
    (hbeat : ∀ c ∈ best, c.2.amount < y.amount) :
    Book.bestStandingFrom i (y :: l) best = Book.bestStandingFrom (i + 1) l (some (i, y)) := by
  rcases best with _ | ⟨j, c⟩
  · simp [Book.bestStandingFrom, hy]
  · simp [Book.bestStandingFrom, hy, beats_of_lt (hbeat (j, c) rfl)]

/-- A bid that does not stand leaves the best so far. -/
theorem bestStandingFrom_cons_of_not_standing {i : Nat} {y : Bid} {l : List Bid}
    {best : Option (Nat × Bid)} (hy : y.status.isStanding = false) :
    Book.bestStandingFrom i (y :: l) best = Book.bestStandingFrom (i + 1) l best := by
  simp [Book.bestStandingFrom, hy]

/-- With no standing bid left, the search keeps what it had. -/
theorem bestStandingFrom_of_none_standing :
    ∀ (l : List Bid) (i : Nat) (best : Option (Nat × Bid)),
      (∀ y ∈ l, y.status.isStanding = false) → Book.bestStandingFrom i l best = best
  | [], _, _, _ => rfl
  | y :: l, i, best, h => by
    rw [bestStandingFrom_cons_of_not_standing (h y List.mem_cons_self)]
    exact bestStandingFrom_of_none_standing l (i + 1) best fun z hz => h z (List.mem_cons_of_mem _ hz)

/-- Over bids whose standing ones rise, and all above the best so far, the search ends on the
last standing bid, at its position. -/
theorem bestStandingFrom_of_last :
    ∀ (pre : List Bid) (x : Bid) (mid : List Bid) (i : Nat) (best : Option (Nat × Bid)),
      x.status.isStanding = true → (∀ y ∈ mid, y.status.isStanding = false) →
      ((pre ++ x :: mid).filter (·.status.isStanding)).Pairwise (·.amount < ·.amount) →
      (∀ c ∈ best, ∀ y ∈ pre ++ x :: mid, y.status.isStanding = true → c.2.amount < y.amount) →
      Book.bestStandingFrom i (pre ++ x :: mid) best = some (i + pre.length, x)
  | [], x, mid, i, best, hx, hmid, _, hbest => by
    rw [List.nil_append, bestStandingFrom_cons_of_standing hx
      (fun c hc => hbest c hc x List.mem_cons_self hx)]
    exact bestStandingFrom_of_none_standing mid (i + 1) _ hmid
  | y :: pre, x, mid, i, best, hx, hmid, hrise, hbest => by
    rw [List.cons_append]
    by_cases hy : y.status.isStanding = true
    · rw [List.cons_append, List.filter_cons_of_pos (p := fun z : Bid => z.status.isStanding) hy,
        List.pairwise_cons] at hrise
      rw [bestStandingFrom_cons_of_standing hy (fun c hc => hbest c hc y List.mem_cons_self hy),
        bestStandingFrom_of_last pre x mid (i + 1) (some (i, y)) hx hmid hrise.2
          (fun c hc z hz hzs => by
            cases hc
            exact hrise.1 z (List.mem_filter.mpr ⟨hz, hzs⟩))]
      simp only [List.length_cons, Option.some.injEq, Prod.mk.injEq, and_true]
      omega
    · have hy' : y.status.isStanding = false := by simpa using hy
      rw [List.cons_append,
        List.filter_cons_of_neg (p := fun z : Bid => z.status.isStanding) (by simp [hy'])] at hrise
      rw [bestStandingFrom_cons_of_not_standing hy', bestStandingFrom_of_last pre x mid (i + 1) best
        hx hmid hrise (fun c hc z hz hzs => hbest c hc z (List.mem_cons_of_mem _ hz) hzs)]
      simp only [List.length_cons, Option.some.injEq, Prod.mk.injEq, and_true]
      omega

end Auction
