import Mathlib
import Auction.Proofs.Invariant.Proxy

/-!
# Who wins the cascade, and at what price

Take a lead `L` of `H` by bidder `B`, and the **eligible** auto-bids `E`: the active ones whose
maximum reaches the minimum next bid over `H`, `B`'s own included (`eligible`). Let `e` be the
first of `E` in the candidates' order, with maximum `M₁`, and `M₂` the largest other maximum of
`E`, or `H` (`othersMax`). The English price is `min(M₁, max(mnb H, mnb M₂))` (`englishPrice`).

**Theorem** (`resolve_english_outcome_iff`): when `E` holds an auto-bid of a rival of `B`, the
cascade ends with `e`'s owner leading at the English price exactly unless `e` is `B`'s own and
its maximum is below the minimum next bid over some rival's maximum in `E`.

The proof follows the rounds.

* (`e` is a rival's) The first round's responder is `e` itself and its ceiling is `M₂`, so it
  bids the English price; whether it clears the ceiling or spends its maximum, nobody can answer
  it (`resolve_of_first_rival`).
* (`e` is `B`'s own) The first round's responder is the best rival `f`, whose ceiling includes
  `M₁ ≥` its own maximum, so it spends its maximum `R₁`. If `M₁ < mnb R₁`, nobody answers and
  `f`'s owner keeps the lead (`resolve_of_own_first_short`). Otherwise `e` is the only candidate
  left, as `B` has one active auto-bid; it bids `mnb R₁`, which no rival reaches
  (`resolve_of_own_first_clears`), and `mnb R₁` is the English price since `M₂ = R₁`.

Ids must be distinct for "the first of `E`" to name one auto-bid, and at most one auto-bid of
each user is active; both hold of every book the service runs a cascade on.
-/

namespace Auction

namespace Cascade

open Txn

/-- The auto-bids that could raise a lead of `H`, with their positions: the active ones whose
maximum reaches the minimum next bid, of any user. -/
def eligible (b : Book) (H : Decimal) : List (Nat × AutoBid) :=
  (b.autoBids.zipIdx.map fun (a, i) => (i, a)).filter fun (_, a) =>
    a.isActive && decide (minimumNextBid H ≤ a.maxAmount)

/-- The largest maximum among the eligible auto-bids away from position `i`, or `H` when there
is none. -/
def othersMax (b : Book) (H : Decimal) (i : Nat) : Decimal :=
  ((eligible b H).filter (·.1 != i)).foldl (fun c x => c.max x.2.maxAmount) H

/-- The English price of a lead of `H` taken by a maximum `M₁` against a best other maximum
`M₂`: one increment over `M₂`, at least the minimum next bid, at most `M₁`. -/
def englishPrice (H M₁ M₂ : Decimal) : Decimal :=
  M₁.min ((minimumNextBid H).max (minimumNextBid M₂))

section Eligible

variable {b : Book} {H : Decimal} {i j : Nat} {a a' : AutoBid}

/-- An auto-bid is eligible against a lead exactly when it is at its position, active, and its
maximum reaches the minimum next bid. -/
theorem mem_eligible :
    (i, a) ∈ eligible b H ↔
      b.autoBids[i]? = some a ∧ a.isActive = true ∧ minimumNextBid H ≤ a.maxAmount := by
  simp only [eligible, List.mem_filter, List.mem_map, Prod.mk.injEq, Bool.and_eq_true,
    decide_eq_true_eq]
  constructor
  · rintro ⟨⟨⟨a', i'⟩, hmem, rfl, rfl⟩, hact, hmax⟩
    exact ⟨List.mem_zipIdx_iff_getElem?.mp hmem, hact, hmax⟩
  · rintro ⟨hget, hact, hmax⟩
    exact ⟨⟨(a, i), List.mem_zipIdx_iff_getElem?.mpr hget, rfl, rfl⟩, hact, hmax⟩

/-- The candidates against a lead are its eligible auto-bids of other users. -/
theorem mem_candidates_iff_eligible {L : Bid} :
    (i, a) ∈ candidates b L (minimumNextBid L.amount) ↔
      (i, a) ∈ eligible b L.amount ∧ a.userId ≠ L.bidderId := by
  rw [mem_candidates, mem_eligible, and_assoc, and_assoc]

/-- Two auto-bids neither of which precedes the other have the same rank, so the same id; with
distinct ids they are one auto-bid at one position. -/
theorem eq_of_not_precedes (hids : (b.autoBids.map (·.id)).Nodup) (hi : b.autoBids[i]? = some a)
    (hj : b.autoBids[j]? = some a') (h : precedes a a' = false) (h' : precedes a' a = false) :
    i = j ∧ a = a' := by
  have hrank : rank a = rank a' := by
    rw [← Bool.not_eq_true, precedes_iff_rank] at h h'
    exact le_antisymm (not_lt.mp h') (not_lt.mp h)
  have hid : a.id = a'.id := by
    simp only [rank, toLex_inj, Prod.mk.injEq] at hrank
    exact hrank.2.2
  have hij : i = j := by
    by_contra hne
    have hmi : (b.autoBids.map (·.id))[i]? = some a.id := by simp [hi]
    have hmj : (b.autoBids.map (·.id))[j]? = some a.id := by simp [hj, hid]
    rcases Nat.lt_or_gt_of_ne hne with hlt | hlt
    · exact List.nodup_iff_getElem?_ne_getElem?.mp hids i j hlt
        (by simpa using (List.getElem?_eq_some_iff.mp hj).1) (hmi.trans hmj.symm)
    · exact List.nodup_iff_getElem?_ne_getElem?.mp hids j i hlt
        (by simpa using (List.getElem?_eq_some_iff.mp hi).1) (hmj.trans hmi.symm)
  subst hij
  rw [hi, Option.some.injEq] at hj
  exact ⟨rfl, hj⟩

/-- An auto-bid that does not precede `e` has at most `e`'s maximum. -/
theorem maxAmount_le_of_not_precedes (h : precedes a a' = false) :
    a.maxAmount.toRat ≤ a'.maxAmount.toRat := by
  rw [← Bool.not_eq_true, precedes_iff_rank, not_lt] at h
  simp only [rank, Prod.Lex.toLex_le_toLex, neg_lt_neg_iff, neg_inj] at h
  rcases h with h | ⟨h, -⟩
  · exact h.le
  · exact h.ge

/-- `othersMax` is `H` or one of the other eligible maxima, and at least each of them. -/
theorem othersMax_spec :
    H.toRat ≤ (othersMax b H i).toRat ∧
      (∀ j a, (j, a) ∈ eligible b H → j ≠ i → a.maxAmount.toRat ≤ (othersMax b H i).toRat) ∧
      ((othersMax b H i).toRat = H.toRat ∨
        ∃ j a, (j, a) ∈ eligible b H ∧ j ≠ i ∧ (othersMax b H i).toRat = a.maxAmount.toRat) := by
  obtain ⟨h0, hall, hwhich⟩ := foldl_max_spec (·.2.maxAmount) ((eligible b H).filter (·.1 != i)) H
  refine ⟨h0, fun j a hja hji => hall (j, a) (List.mem_filter.mpr ⟨hja, by simpa using hji⟩), ?_⟩
  rcases hwhich with h | ⟨⟨j, a⟩, hja, h⟩
  · exact .inl h
  · obtain ⟨hja, hji⟩ := List.mem_filter.mp hja
    exact .inr ⟨j, a, hja, by simpa using hji, h⟩

/-- With one active auto-bid per user, two eligible auto-bids of one user are one. -/
theorem eligible_eq_of_userId {H' : Decimal} (hone : OneActive b.autoBids)
    (hi : (i, a) ∈ eligible b H) (hj : (j, a') ∈ eligible b H') (hu : a.userId = a'.userId) :
    i = j ∧ a = a' := by
  obtain ⟨hai, hact, -⟩ := mem_eligible.mp hi
  obtain ⟨haj, hact', -⟩ := mem_eligible.mp hj
  have hij := hone i j a a' hai haj hact hact' hu
  subst hij
  rw [hai, Option.some.injEq] at haj
  exact ⟨rfl, haj⟩

/-- An answer keeps the eligible auto-bids, with their users and maxima, at their positions. -/
theorem eligible_afterAnswer {H' : Decimal} {k : Nat} {r : AutoBid} {id : String}
    {amount : Decimal} {now : Instant}
    (h : (j, a) ∈ eligible (afterAnswer b k r id amount now) H') :
    ∃ a₀, (j, a₀) ∈ eligible b H' ∧ a.userId = a₀.userId ∧ a.maxAmount = a₀.maxAmount := by
  obtain ⟨hj, hact, hmax⟩ := mem_eligible.mp h
  obtain ⟨a₀, hj₀, -, hu, hm, hact₀, -, -⟩ := afterAnswer_autoBid hj
  exact ⟨a₀, mem_eligible.mpr ⟨hj₀, hact₀ ▸ hact, hm ▸ hmax⟩, hu, hm⟩

/-- An eligible maximum is above the price it could raise. -/
theorem lt_maxAmount_of_mem_eligible (h : (i, a) ∈ eligible b H) :
    H.toRat < a.maxAmount.toRat := by
  have hmax := (mem_eligible.mp h).2.2
  rw [Decimal.le_iff_toRat] at hmax
  linarith [lt_minimumNextBid H]

/-- When `e` at `i` is the auto-bid of `B` and `f` at `j` has the largest eligible maximum among
the other users', the largest eligible maximum away from `i` is `f`'s: `B` has no other. -/
theorem othersMax_eq_best {B : String} {e f : AutoBid} (hone : OneActive b.autoBids)
    (he : (i, e) ∈ eligible b H) (hown : e.userId = B) (hf : (j, f) ∈ eligible b H) (hji : j ≠ i)
    (hbest : ∀ p ∈ eligible b H, p.2.userId ≠ B → p.2.maxAmount.toRat ≤ f.maxAmount.toRat) :
    (othersMax b H i).toRat = f.maxAmount.toRat := by
  obtain ⟨-, hall, hwhich⟩ := othersMax_spec (b := b) (H := H) (i := i)
  refine le_antisymm ?_ (hall j f hf hji)
  rcases hwhich with h | ⟨k, a, hka, hki, h⟩
  · rw [h]
    exact (lt_maxAmount_of_mem_eligible hf).le
  · rw [h]
    by_cases hB : a.userId = B
    · exact absurd (eligible_eq_of_userId hone hka he (hB.trans hown.symm)).1 hki
    · exact hbest _ hka hB

/-- Over a lead at the maximum of `f`, the best eligible auto-bid of the users other than `B`,
only `B`'s own eligible auto-bid `e` is eligible, at its position. -/
theorem eligible_over_best {B : String} {H' : Decimal} {e f : AutoBid}
    (hone : OneActive b.autoBids) (he : (i, e) ∈ eligible b H) (hown : e.userId = B)
    (hf : (j, f) ∈ eligible b H)
    (hbest : ∀ p ∈ eligible b H, p.2.userId ≠ B → p.2.maxAmount.toRat ≤ f.maxAmount.toRat)
    (hH' : H'.toRat = f.maxAmount.toRat) {k : Nat} (hka : (k, a) ∈ eligible b H') :
    k = i ∧ a = e := by
  obtain ⟨hk, hact, hmax⟩ := mem_eligible.mp hka
  rw [Decimal.le_iff_toRat, minimumNextBid_congr hH'] at hmax
  have hold : (k, a) ∈ eligible b H := by
    refine mem_eligible.mpr ⟨hk, hact, ?_⟩
    have hfmax := (mem_eligible.mp hf).2.2
    rw [Decimal.le_iff_toRat] at hfmax ⊢
    linarith [lt_minimumNextBid f.maxAmount]
  have hB : a.userId = B := by
    by_contra hB
    linarith [hbest _ hold hB, lt_minimumNextBid f.maxAmount]
  exact eligible_eq_of_userId hone hold he (hB.trans hown.symm)

/-- The English price is the highest maximum, capped at the larger of the minimum next bids over the
lead and over the second maximum. -/
@[simp] theorem toRat_englishPrice (H M₁ M₂ : Decimal) :
    (englishPrice H M₁ M₂).toRat =
      M₁.toRat ⊓ ((minimumNextBid H).toRat ⊔ (minimumNextBid M₂).toRat) := by
  simp [englishPrice]

end Eligible

/-! ### Rounds -/

section Rounds

variable {t : Txn} {L : Bid}

/-- The cascade is its rounds, bounded by the active auto-bids at the start. -/
theorem resolve_eq_rounds (t : Txn) :
    resolve.run.run t = (rounds t.book.activeAutoBids.length
      (t.book.activeAutoBids.length + 1) 0).run.run t := by
  rw [resolve, run_get_bind]

/-- One answer within the bound, as the next round sees it: the responder's user leads at the
answer's amount, the cached lead agrees, and the ids to come are still new. -/
theorem rounds_answer_step {bound fuel done i : Nat} {r : AutoBid} {c : Decimal}
    (hlead : t.book.LeadAgrees) (hfresh : t.book.FreshAbove t.drawn)
    (hL : t.book.highestBid? = some L)
    (hsel : selectResponder t.book L (minimumNextBid L.amount) = some (i, r, c))
    (hdone : done < bound) :
    ∃ t' L', (rounds bound (fuel + 1) done).run.run t = (rounds bound fuel (done + 1)).run.run t' ∧
      t'.book = afterAnswer t.book i r (idOf (t.drawn + 1))
        (answerAmount (minimumNextBid L.amount) c r.maxAmount) t.now ∧
      t'.book.highestBid? = some L' ∧ L'.bidderId = r.userId ∧
      L'.amount = answerAmount (minimumNextBid L.amount) c r.maxAmount ∧
      t'.book.LeadAgrees ∧ t'.book.FreshAbove t'.drawn := by
  obtain ⟨-, -, hmax, -⟩ := mem_candidates.mp (selectResponder_some hsel).1
  obtain ⟨hLH, hpos⟩ := hlead L hL
  obtain ⟨t', hrun, hb, -, hd⟩ := @rounds_answer bound fuel done t L i r c hL hsel hdone
    (refusal_answerAmount hLH hpos hmax)
  have hfr : ∀ x ∈ t.book.bids, x.id ≠ idOf (t.drawn + 1) := fun x hx => hfresh x hx _ (by omega)
  have hamount : 0 < (answerAmount (minimumNextBid L.amount) c r.maxAmount).toRat := by
    linarith [le_answerAmount (c := c) hmax, lt_minimumNextBid L.amount]
  refine ⟨t', (entered t.book (bidFor r t.book.auctionId (idOf (t.drawn + 1))
    (answerAmount (minimumNextBid L.amount) c r.maxAmount) t.now) t.now).2, hrun, hb, ?_, rfl, rfl,
    ?_, ?_⟩
  · rw [hb]
    exact highestBid?_afterAnswer (idOf_ne_empty _) hfr
  · rw [hb]
    exact leadAgrees_afterAnswer (idOf_ne_empty _) hfr hamount
  · rw [hb, hd]
    exact freshAbove_afterAnswer hfresh

/-- Below the minimum next bid over the ceiling, a responder bids its whole maximum. -/
theorem answerAmount_spends {m c M : Decimal} (h : M.toRat < (minimumNextBid c).toRat) :
    (answerAmount m c M).toRat = M.toRat := by
  rw [toRat_answerAmount]
  exact inf_eq_right.mpr (le_sup_of_le_right h.le)

/-- After `r` answered with `amount`, at least the minimum next bid over `H`, nobody answers
when every eligible auto-bid of another user stays below the minimum next bid over `amount`. -/
theorem candidates_afterAnswer_eq_nil {b : Book} {H : Decimal} {L' : Bid} {i : Nat}
    {r : AutoBid} {id : String} {amount : Decimal} {now : Instant}
    (hmin : (minimumNextBid H).toRat ≤ amount.toRat)
    (hall : ∀ p ∈ eligible b H, p.2.userId ≠ r.userId →
      p.2.maxAmount.toRat < (minimumNextBid amount).toRat)
    (huser : L'.bidderId = r.userId) (hamount : L'.amount = amount) :
    candidates (afterAnswer b i r id amount now) L' (minimumNextBid L'.amount) = [] := by
  rw [candidates_eq_nil]
  intro a ha hact hmax
  rw [Decimal.le_iff_toRat, hamount] at hmax
  obtain ⟨j, hj⟩ := List.mem_iff_getElem?.mp ha
  obtain ⟨a₀, hj₀, -, hu, hm, hact₀, -, -⟩ := afterAnswer_autoBid hj
  rw [huser, hu]
  by_contra hne
  rw [hm] at hmax
  have helig : (j, a₀) ∈ eligible b H := by
    refine mem_eligible.mpr ⟨hj₀, hact₀ ▸ hact, ?_⟩
    rw [Decimal.le_iff_toRat]
    linarith [lt_minimumNextBid amount]
  exact absurd hmax (not_le.mpr (hall (j, a₀) helig hne))

end Rounds

/-! ### The first round -/

section FirstRound

variable {b : Book} {L : Bid} {i : Nat} {e : AutoBid}

/-- Against a lead with a candidate, the selection picks a responder. -/
theorem selectResponder_of_mem {m : Decimal} {a : AutoBid} (h : (i, a) ∈ candidates b L m) :
    ∃ j r c, selectResponder b L m = some (j, r, c) := by
  cases hs : selectResponder b L m with
  | none =>
    rw [selectResponder_eq_none.mp hs] at h
    cases h
  | some p =>
    obtain ⟨j, r, c⟩ := p
    exact ⟨j, r, c, rfl⟩

/-- The first eligible auto-bid, when it is a rival's, is the first round's responder, and its
ceiling is the largest other eligible maximum. -/
theorem selectResponder_of_first_rival (hids : (b.autoBids.map (·.id)).Nodup)
    (he : (i, e) ∈ eligible b L.amount)
    (hfirst : ∀ x ∈ eligible b L.amount, precedes x.2 e = false) (hrival : e.userId ≠ L.bidderId) :
    ∃ c, selectResponder b L (minimumNextBid L.amount) = some (i, e, c) ∧
      c.toRat = (othersMax b L.amount i).toRat := by
  have hcand : (i, e) ∈ candidates b L (minimumNextBid L.amount) :=
    mem_candidates_iff_eligible.mpr ⟨he, hrival⟩
  obtain ⟨j, r, c, hsel⟩ := selectResponder_of_mem hcand
  obtain ⟨hr, hbest, hc0, hcall, hcw⟩ := selectResponder_some hsel
  have hre : (j, r) ∈ eligible b L.amount := (mem_candidates_iff_eligible.mp hr).1
  obtain ⟨hji, hreq⟩ := eq_of_not_precedes hids (mem_eligible.mp hre).1 (mem_eligible.mp he).1
    (hfirst _ hre) (hbest _ hcand)
  subst hji hreq
  obtain ⟨hm0, hmall, hmw⟩ := othersMax_spec (b := b) (H := L.amount) (i := j)
  refine ⟨c, hsel, le_antisymm ?_ ?_⟩
  · rcases hcw with hcw | ⟨k, a, hk, hkj, hact, hmax, hcw⟩
    · exact hcw ▸ hm0
    · exact hcw ▸ hmall k a (mem_eligible.mpr ⟨hk, hact, hmax⟩) hkj
  · rcases hmw with hmw | ⟨k, a, hka, hkj, hmw⟩
    · exact hmw ▸ hc0
    · obtain ⟨hk, hact, hmax⟩ := mem_eligible.mp hka
      exact hmw ▸ hcall k a hk hkj hact hmax

/-- When the first eligible auto-bid is the leader's own, the first round's responder is the
best rival, at another position, and its ceiling reaches the leader's maximum. -/
theorem selectResponder_of_first_own (he : (i, e) ∈ eligible b L.amount)
    (hfirst : ∀ x ∈ eligible b L.amount, precedes x.2 e = false) (hown : e.userId = L.bidderId)
    (hrival : ∃ p ∈ eligible b L.amount, p.2.userId ≠ L.bidderId) :
    ∃ j f c, selectResponder b L (minimumNextBid L.amount) = some (j, f, c) ∧
      (j, f) ∈ eligible b L.amount ∧ f.userId ≠ L.bidderId ∧ j ≠ i ∧
      (∀ p ∈ eligible b L.amount, p.2.userId ≠ L.bidderId →
        p.2.maxAmount.toRat ≤ f.maxAmount.toRat) ∧
      f.maxAmount.toRat ≤ e.maxAmount.toRat ∧ e.maxAmount.toRat ≤ c.toRat := by
  obtain ⟨⟨k, p⟩, hp, hpu⟩ := hrival
  obtain ⟨j, f, c, hsel⟩ := selectResponder_of_mem (mem_candidates_iff_eligible.mpr ⟨hp, hpu⟩)
  obtain ⟨hf, hbest, -, hcall, -⟩ := selectResponder_some hsel
  obtain ⟨hfe, hfu⟩ := mem_candidates_iff_eligible.mp hf
  obtain ⟨hei, hact, hmax⟩ := mem_eligible.mp he
  have hji : j ≠ i := by
    rintro rfl
    rw [(mem_eligible.mp hfe).1, Option.some.injEq] at hei
    exact hfu (hei ▸ hown)
  refine ⟨j, f, c, hsel, hfe, hfu, hji, fun q hq hqu => ?_, maxAmount_le_of_not_precedes
    (hfirst _ hfe), hcall i e hei hji.symm hact hmax⟩
  exact maxAmount_le_of_not_precedes (hbest q (mem_candidates_iff_eligible.mpr ⟨hq, hqu⟩))

end FirstRound

/-! ### The outcomes -/

section Outcomes

variable {t : Txn} {L : Bid} {i : Nat} {e : AutoBid}

/-- An active auto-bid leaves room for one round. -/
theorem activeAutoBids_length_pos {b : Book} {a : AutoBid} (hi : b.autoBids[i]? = some a)
    (hact : a.isActive = true) : ∃ k, b.activeAutoBids.length = k + 1 := by
  have h := length_le_activeAutoBids (List.nodup_singleton i) (by simpa using ⟨a, hi, hact⟩)
  rw [List.length_singleton] at h
  exact ⟨b.activeAutoBids.length - 1, by omega⟩

/-- When the first eligible auto-bid is a rival's, its owner leads at the English price after
one answer. -/
theorem resolve_of_first_rival (hlead : t.book.LeadAgrees) (hfresh : t.book.FreshAbove t.drawn)
    (hids : (t.book.autoBids.map (·.id)).Nodup) (hL : t.book.highestBid? = some L)
    (he : (i, e) ∈ eligible t.book L.amount)
    (hfirst : ∀ x ∈ eligible t.book L.amount, precedes x.2 e = false)
    (hrival : e.userId ≠ L.bidderId) :
    ∃ n t', resolve.run.run t = (.ok n, t') ∧ t'.book.highestBidderId = e.userId ∧
      t'.book.highestAmount.toRat =
        (englishPrice L.amount e.maxAmount (othersMax t.book L.amount i)).toRat := by
  obtain ⟨c, hsel, hc⟩ := selectResponder_of_first_rival hids he hfirst hrival
  obtain ⟨hei, hact, hmax⟩ := mem_eligible.mp he
  obtain ⟨k, hk⟩ := activeAutoBids_length_pos hei hact
  obtain ⟨t₁, L₁, hrun, hb, hL₁, hu₁, ha₁, -, -⟩ :=
    @rounds_answer_step t L (k + 1) (k + 1) 0 i e c hlead hfresh hL hsel (by omega)
  have hmin := le_answerAmount (c := c) hmax
  have hnone : candidates t₁.book L₁ (minimumNextBid L₁.amount) = [] := by
    rw [hb]
    refine candidates_afterAnswer_eq_nil hmin (fun ⟨j, a⟩ hp hpu => ?_) hu₁ ha₁
    have hji : j ≠ i := by
      rintro rfl
      rw [(mem_eligible.mp hp).1, Option.some.injEq] at hei
      exact hpu (congrArg AutoBid.userId hei)
    have hle := (selectResponder_some hsel).2.2.2.1 j a (mem_eligible.mp hp).1 hji
      (mem_eligible.mp hp).2.1 (mem_eligible.mp hp).2.2
    have hnext := lt_minimumNextBid (answerAmount (minimumNextBid L.amount) c e.maxAmount)
    rcases @answerAmount_spends_or_clears (minimumNextBid L.amount) c e.maxAmount with hs | hcl
    · linarith [maxAmount_le_of_not_precedes (hfirst _ hp)]
    · linarith [lt_minimumNextBid c]
  refine ⟨1, t₁, ?_, ?_, ?_⟩
  · rw [resolve_eq_rounds, hk, hrun, rounds_of_no_responder hL₁ (selectResponder_eq_none.mpr hnone)]
  · rw [hb, afterAnswer_highestBidderId]
  · rw [hb, afterAnswer_highestAmount, toRat_answerAmount, toRat_englishPrice,
      minimumNextBid_congr hc, inf_comm]

/-- When the leader's own auto-bid comes first but is below the minimum next bid over the best
rival's maximum, the best rival spends its maximum, which nobody answers. -/
theorem resolve_of_own_first_short (hlead : t.book.LeadAgrees)
    (hfresh : t.book.FreshAbove t.drawn) (hone : OneActive t.book.autoBids)
    (hL : t.book.highestBid? = some L) (he : (i, e) ∈ eligible t.book L.amount)
    (hown : e.userId = L.bidderId) {j : Nat} {f : AutoBid} {c : Decimal}
    (hsel : selectResponder t.book L (minimumNextBid L.amount) = some (j, f, c))
    (hfe : (j, f) ∈ eligible t.book L.amount)
    (hbest : ∀ p ∈ eligible t.book L.amount, p.2.userId ≠ L.bidderId →
      p.2.maxAmount.toRat ≤ f.maxAmount.toRat)
    (hfle : f.maxAmount.toRat ≤ e.maxAmount.toRat) (hec : e.maxAmount.toRat ≤ c.toRat)
    (hshort : e.maxAmount.toRat < (minimumNextBid f.maxAmount).toRat) :
    ∃ n t', resolve.run.run t = (.ok n, t') ∧ t'.book.highestBidderId = f.userId := by
  obtain ⟨hfj, hfact, hfmax⟩ := mem_eligible.mp hfe
  obtain ⟨k, hk⟩ := activeAutoBids_length_pos hfj hfact
  obtain ⟨t₁, L₁, hrun, hb, hL₁, hu₁, ha₁, -, -⟩ :=
    @rounds_answer_step t L (k + 1) (k + 1) 0 j f c hlead hfresh hL hsel (by omega)
  have hspend : (answerAmount (minimumNextBid L.amount) c f.maxAmount).toRat = f.maxAmount.toRat :=
    answerAmount_spends (by linarith [lt_minimumNextBid c])
  have hnone : candidates t₁.book L₁ (minimumNextBid L₁.amount) = [] := by
    rw [hb]
    refine candidates_afterAnswer_eq_nil (le_answerAmount hfmax) (fun ⟨k', a⟩ hp _ => ?_) hu₁ ha₁
    rw [minimumNextBid_congr hspend]
    by_cases hpB : a.userId = L.bidderId
    · obtain ⟨-, rfl⟩ := eligible_eq_of_userId hone hp he (hpB.trans hown.symm)
      exact hshort
    · linarith [hbest _ hp hpB, lt_minimumNextBid f.maxAmount]
  refine ⟨1, t₁, ?_, by rw [hb, afterAnswer_highestBidderId]⟩
  rw [resolve_eq_rounds, hk, hrun, rounds_of_no_responder hL₁ (selectResponder_eq_none.mpr hnone)]

/-- When the leader's own auto-bid comes first and reaches the minimum next bid over the best
rival's maximum, the rival spends its maximum and the leader's auto-bid answers at one
increment over it, which nobody reaches. -/
theorem resolve_of_own_first_clears (hlead : t.book.LeadAgrees)
    (hfresh : t.book.FreshAbove t.drawn) (hone : OneActive t.book.autoBids)
    (hL : t.book.highestBid? = some L) (he : (i, e) ∈ eligible t.book L.amount)
    (hown : e.userId = L.bidderId) {j : Nat} {f : AutoBid} {c : Decimal}
    (hsel : selectResponder t.book L (minimumNextBid L.amount) = some (j, f, c))
    (hfe : (j, f) ∈ eligible t.book L.amount) (hfu : f.userId ≠ L.bidderId) (hji : j ≠ i)
    (hbest : ∀ p ∈ eligible t.book L.amount, p.2.userId ≠ L.bidderId →
      p.2.maxAmount.toRat ≤ f.maxAmount.toRat)
    (hfle : f.maxAmount.toRat ≤ e.maxAmount.toRat) (hec : e.maxAmount.toRat ≤ c.toRat)
    (hclear : (minimumNextBid f.maxAmount).toRat ≤ e.maxAmount.toRat) :
    ∃ n t', resolve.run.run t = (.ok n, t') ∧ t'.book.highestBidderId = e.userId ∧
      t'.book.highestAmount.toRat = (minimumNextBid f.maxAmount).toRat := by
  obtain ⟨hfj, hfact, hfmax⟩ := mem_eligible.mp hfe
  obtain ⟨hei, heact, -⟩ := mem_eligible.mp he
  obtain ⟨k, hk⟩ : ∃ k, t.book.activeAutoBids.length = k + 1 + 1 := by
    have h := length_le_activeAutoBids (S := [j, i]) (by simpa using hji)
      (by simpa using ⟨⟨f, hfj, hfact⟩, ⟨e, hei, heact⟩⟩)
    exact ⟨t.book.activeAutoBids.length - 2, by simp at h; omega⟩
  obtain ⟨t₁, L₁, hrun₁, hb₁, hL₁, hu₁, ha₁, hlead₁, hfresh₁⟩ :=
    @rounds_answer_step t L (k + 1 + 1) (k + 1 + 1) 0 j f c hlead hfresh hL hsel (by omega)
  have hspend : L₁.amount.toRat = f.maxAmount.toRat := by
    rw [ha₁]
    exact answerAmount_spends (by linarith [lt_minimumNextBid c])
  have hnext := minimumNextBid_congr hspend
  have honly : ∀ k' a, (k', a) ∈ eligible t₁.book L₁.amount →
      k' = i ∧ a.userId = e.userId ∧ a.maxAmount = e.maxAmount := by
    intro k' a hka
    rw [hb₁] at hka
    obtain ⟨a₀, hka₀, hu, hm⟩ := eligible_afterAnswer hka
    obtain ⟨rfl, rfl⟩ := eligible_over_best hone he hown hfe hbest hspend hka₀
    exact ⟨rfl, hu, hm⟩
  have hei₁ : t₁.book.autoBids[i]? = some e := by
    rw [hb₁, afterAnswer_autoBids, getElem?_updateAt, if_neg hji, hei]
  have hcand : (i, e) ∈ candidates t₁.book L₁ (minimumNextBid L₁.amount) := by
    refine mem_candidates.mpr ⟨hei₁, heact, ?_, by rw [hu₁, hown]; exact Ne.symm hfu⟩
    rw [Decimal.le_iff_toRat, hnext]
    exact hclear
  obtain ⟨i₂, r₂, c₂, hsel₂⟩ := selectResponder_of_mem hcand
  obtain ⟨hr₂, -, hc₂0, -, hc₂w⟩ := selectResponder_some hsel₂
  obtain ⟨hi₂, hu₂, hm₂⟩ := honly i₂ r₂ (mem_candidates_iff_eligible.mp hr₂).1
  have hc₂ : c₂.toRat = L₁.amount.toRat := by
    rcases hc₂w with h | ⟨k', a, hk', hki, hact, hmax, -⟩
    · exact h
    · exact absurd (honly k' a (mem_eligible.mpr ⟨hk', hact, hmax⟩)).1 (hi₂ ▸ hki)
  obtain ⟨t₂, L₂, hrun₂, hb₂, hL₂, hu₂', ha₂, -, -⟩ :=
    @rounds_answer_step t₁ L₁ (k + 1 + 1) (k + 1) 1 i₂ r₂ c₂ hlead₁ hfresh₁ hL₁ hsel₂ (by omega)
  have ha₂v : (answerAmount (minimumNextBid L₁.amount) c₂ r₂.maxAmount).toRat =
      (minimumNextBid f.maxAmount).toRat := by
    rw [toRat_answerAmount, minimumNextBid_congr hc₂, hnext, sup_idem, hm₂]
    exact inf_eq_left.mpr hclear
  have hnone : candidates t₂.book L₂ (minimumNextBid L₂.amount) = [] := by
    rw [hb₂]
    refine candidates_afterAnswer_eq_nil (le_answerAmount (hm₂ ▸ ?_))
      (fun ⟨k', a⟩ hp hpu => absurd ((honly k' a hp).2.1.trans hu₂.symm) hpu) hu₂' ha₂
    rw [Decimal.le_iff_toRat, hnext]
    exact hclear
  refine ⟨2, t₂, ?_, by rw [hb₂, afterAnswer_highestBidderId, hu₂], by
    rw [hb₂, afterAnswer_highestAmount, ha₂v]⟩
  rw [resolve_eq_rounds, hk, hrun₁, hrun₂,
    rounds_of_no_responder hL₂ (selectResponder_eq_none.mpr hnone)]

/-- When the leader's own auto-bid comes first and its maximum is below the minimum next bid
over some eligible rival's maximum, the lead ends with another user. -/
theorem resolve_of_own_first_outbid (hlead : t.book.LeadAgrees)
    (hfresh : t.book.FreshAbove t.drawn) (hone : OneActive t.book.autoBids)
    (hL : t.book.highestBid? = some L) (he : (i, e) ∈ eligible t.book L.amount)
    (hfirst : ∀ x ∈ eligible t.book L.amount, precedes x.2 e = false)
    (hown : e.userId = L.bidderId) {p : Nat × AutoBid} (hp : p ∈ eligible t.book L.amount)
    (hpu : p.2.userId ≠ L.bidderId) (hshort : e.maxAmount < minimumNextBid p.2.maxAmount) :
    ∃ n t', resolve.run.run t = (.ok n, t') ∧ t'.book.highestBidderId ≠ e.userId := by
  obtain ⟨j, f, c, hsel, hfe, hfu, -, hbest, hfle, hec⟩ :=
    selectResponder_of_first_own he hfirst hown ⟨p, hp, hpu⟩
  have hshort' : e.maxAmount.toRat < (minimumNextBid f.maxAmount).toRat := by
    rw [Decimal.lt_iff_toRat] at hshort
    have hp0 : 0 ≤ p.2.maxAmount.toRat := by
      linarith [lt_maxAmount_of_mem_eligible hp, (hlead L hL).1, (hlead L hL).2]
    linarith [minimumNextBid_mono hp0 (hbest _ hp hpu)]
  obtain ⟨n, t', hrun, hbidder⟩ :=
    resolve_of_own_first_short hlead hfresh hone hL he hown hsel hfe hbest hfle hec hshort'
  exact ⟨n, t', hrun, fun h => hfu (by rw [← hown, ← h, hbidder])⟩

end Outcomes

/-- The outcome of the cascade against a lead `L` with a rival eligible auto-bid. Let `e` at
position `i` be the first eligible auto-bid. The cascade returns, and `e`'s owner leads at the
English price of `e`'s maximum against the largest other eligible maximum exactly unless `e` is
the leader's own and its maximum is below the minimum next bid over some eligible rival's
maximum. -/
theorem resolve_english_outcome_iff {t : Txn} {L : Bid} {i : Nat} {e : AutoBid}
    (hlead : t.book.LeadAgrees) (hfresh : t.book.FreshAbove t.drawn)
    (hids : (t.book.autoBids.map (·.id)).Nodup) (hone : OneActive t.book.autoBids)
    (hL : t.book.highestBid? = some L) (he : (i, e) ∈ eligible t.book L.amount)
    (hfirst : ∀ x ∈ eligible t.book L.amount, precedes x.2 e = false)
    (hrival : ∃ p ∈ eligible t.book L.amount, p.2.userId ≠ L.bidderId) :
    ∃ n t', resolve.run.run t = (.ok n, t') ∧
      ((t'.book.highestBidderId = e.userId ∧
          t'.book.highestAmount.toRat =
            (englishPrice L.amount e.maxAmount (othersMax t.book L.amount i)).toRat) ↔
        ¬ (e.userId = L.bidderId ∧ ∃ p ∈ eligible t.book L.amount, p.2.userId ≠ L.bidderId ∧
          e.maxAmount < minimumNextBid p.2.maxAmount)) := by
  by_cases hown : e.userId = L.bidderId
  · by_cases hshort : ∃ p ∈ eligible t.book L.amount, p.2.userId ≠ L.bidderId ∧
        e.maxAmount < minimumNextBid p.2.maxAmount
    · obtain ⟨p, hp, hpu, hlt⟩ := hshort
      obtain ⟨n, t', hrun, hne⟩ :=
        resolve_of_own_first_outbid hlead hfresh hone hL he hfirst hown hp hpu hlt
      exact ⟨n, t', hrun, iff_of_false (fun h => hne h.1) (not_not.mpr ⟨hown, p, hp, hpu, hlt⟩)⟩
    · obtain ⟨j, f, c, hsel, hfe, hfu, hji, hbest, hfle, hec⟩ :=
        selectResponder_of_first_own he hfirst hown hrival
      have hclear : (minimumNextBid f.maxAmount).toRat ≤ e.maxAmount.toRat :=
        le_of_not_gt fun h => hshort ⟨(j, f), hfe, hfu, Decimal.lt_iff_toRat.mpr h⟩
      obtain ⟨n, t', hrun, hbidder, hamount⟩ := resolve_of_own_first_clears hlead hfresh hone hL
        he hown hsel hfe hfu hji hbest hfle hec hclear
      have hH0 : 0 ≤ L.amount.toRat := by linarith [(hlead L hL).1, (hlead L hL).2]
      have hHf := (lt_maxAmount_of_mem_eligible hfe).le
      refine ⟨n, t', hrun, iff_of_true ⟨hbidder, ?_⟩ fun h => hshort h.2⟩
      rw [hamount, toRat_englishPrice,
        minimumNextBid_congr (othersMax_eq_best hone he hown hfe hji hbest),
        sup_eq_right.mpr (minimumNextBid_mono hH0 hHf), inf_eq_right.mpr hclear]
  · obtain ⟨n, t', hrun, hbidder, hamount⟩ :=
      resolve_of_first_rival hlead hfresh hids hL he hfirst hown
    exact ⟨n, t', hrun, iff_of_true ⟨hbidder, hamount⟩ fun h => hown h.1⟩

/-! ### A near rival

The exception happens: `m` leads at 100 with an auto-bid up to 200 and `a` registers one up to
195. -/

section NearRival

/-- The lead of `ownTxn`: 100 by `m` under the first id drawn. -/
def ownLead : Bid :=
  { id := idOf 1, auctionId := "a-1", bidderId := "m", bidderUsername := "m", amount := 100,
    bidTime := Instant.zero, status := .accepted, isAutoBid := false, autoBidId := "",
    version := 1 }

/-- `m`'s own auto-bid, up to 200. -/
def ownProxy : AutoBid :=
  { id := idOf 5, auctionId := "a-1", userId := "m", username := "m", maxAmount := 200,
    currentBidAmount := 0, isActive := true, createdAt := Instant.zero, lastBidAt := none,
    cancelledAt := none }

/-- An auto-bid of `a` up to 195, whose minimum next bid 205 is over `ownProxy`'s maximum. -/
def nearRival : AutoBid :=
  { id := idOf 6, auctionId := "a-1", userId := "a", username := "a", maxAmount := 195,
    currentBidAmount := 0, isActive := true, createdAt := Instant.zero, lastBidAt := none,
    cancelledAt := none }

/-- The cascade's transaction once `a` registers `nearRival` against `m`'s lead of 100 backed by
`ownProxy`. -/
def ownTxn : Txn where
  book :=
    { Book.empty "a-1" with
      version := 2, bids := [ownLead], autoBids := [ownProxy, nearRival], highestBidId := idOf 1,
      highestAmount := 100, highestBidderId := "m" }
  now := Instant.zero
  events := []
  drawn := 6

/-- `ownTxn` is led by `m`'s bid. -/
theorem ownTxn_highestBid : ownTxn.book.highestBid? = some ownLead := rfl

/-- Against the lead of 100 both auto-bids are eligible, `m`'s first. -/
theorem ownTxn_eligible : eligible ownTxn.book 100 = [(0, ownProxy), (1, nearRival)] := rfl

/-- The cached lead of `ownTxn` agrees with its bid. -/
theorem ownTxn_leadAgrees : ownTxn.book.LeadAgrees := by
  intro L hL
  rw [ownTxn_highestBid, Option.some.injEq] at hL
  subst hL
  refine ⟨rfl, ?_⟩
  show (0 : ℚ) < Decimal.toRat 100
  rw [Decimal.toRat_ofNat]
  norm_num

/-- The ids `ownTxn` draws are new to its bids. -/
theorem ownTxn_freshAbove : ownTxn.book.FreshAbove ownTxn.drawn := by
  intro x hx k hk
  rw [show ownTxn.book.bids = [ownLead] from rfl, List.mem_singleton] at hx
  subst hx
  exact fun e => absurd (idOf_injective e) (by simp [ownTxn] at hk; omega)

/-- Each user of `ownTxn` has one active auto-bid at most. -/
theorem ownTxn_oneActive : OneActive ownTxn.book.autoBids := by
  intro i j a a' hi hj _ _ hu
  rw [show ownTxn.book.autoBids = [ownProxy, nearRival] from rfl] at hi hj
  rcases i with _ | _ | i <;> rcases j with _ | _ | j <;> simp at hi hj <;> subst hi hj <;>
    simp_all [ownProxy, nearRival]

/-- `m`'s auto-bid is eligible against the lead. -/
theorem ownTxn_mem : (0, ownProxy) ∈ eligible ownTxn.book ownLead.amount :=
  mem_eligible.mpr ⟨rfl, rfl, by decide⟩

/-- `a`'s auto-bid is eligible against the lead. -/
theorem ownTxn_near : (1, nearRival) ∈ eligible ownTxn.book ownLead.amount :=
  mem_eligible.mpr ⟨rfl, rfl, by decide⟩

/-- A rival of the leader is eligible against the lead. -/
theorem ownTxn_rival : ∃ p ∈ eligible ownTxn.book ownLead.amount, p.2.userId ≠ ownLead.bidderId :=
  ⟨(1, nearRival), ownTxn_near, by decide⟩

/-- No eligible auto-bid comes before `m`'s. -/
theorem ownTxn_first :
    ∀ x ∈ eligible ownTxn.book ownLead.amount, precedes x.2 ownProxy = false := by
  rw [show ownLead.amount = 100 from rfl, ownTxn_eligible]
  decide

/-- `ownTxn` meets every hypothesis of `resolve_english_outcome_iff`, with `ownProxy` first. -/
theorem resolve_english_outcome_iff_near :
    ∃ n t', resolve.run.run ownTxn = (.ok n, t') ∧
      ((t'.book.highestBidderId = ownProxy.userId ∧
          t'.book.highestAmount.toRat =
            (englishPrice ownLead.amount ownProxy.maxAmount
              (othersMax ownTxn.book ownLead.amount 0)).toRat) ↔
        ¬ (ownProxy.userId = ownLead.bidderId ∧ ∃ p ∈ eligible ownTxn.book ownLead.amount,
          p.2.userId ≠ ownLead.bidderId ∧ ownProxy.maxAmount < minimumNextBid p.2.maxAmount)) :=
  resolve_english_outcome_iff ownTxn_leadAgrees ownTxn_freshAbove (by decide) ownTxn_oneActive
    ownTxn_highestBid ownTxn_mem ownTxn_first ownTxn_rival

/-- In `ownTxn`, `ownProxy` is the first eligible auto-bid and a rival's is eligible, yet the
cascade leaves the lead with another user than `m`: `nearRival` spends its 195 against a ceiling
of 200, which `ownProxy` cannot raise by an increment. -/
theorem own_first_loses_to_near_rival :
    (0, ownProxy) ∈ eligible ownTxn.book ownLead.amount ∧
    (∀ x ∈ eligible ownTxn.book ownLead.amount, precedes x.2 ownProxy = false) ∧
    (∃ p ∈ eligible ownTxn.book ownLead.amount, p.2.userId ≠ ownLead.bidderId) ∧
    ∃ n t', resolve.run.run ownTxn = (.ok n, t') ∧ t'.book.highestBidderId ≠ ownProxy.userId :=
  ⟨ownTxn_mem, ownTxn_first, ownTxn_rival,
    resolve_of_own_first_outbid ownTxn_leadAgrees ownTxn_freshAbove ownTxn_oneActive
      ownTxn_highestBid ownTxn_mem ownTxn_first rfl ownTxn_near (by decide) (by decide)⟩

end NearRival

end Cascade

end Auction
