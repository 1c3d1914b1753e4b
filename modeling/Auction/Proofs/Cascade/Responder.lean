import Mathlib
import Auction.Book.Cascade
import Auction.Proofs.Txn

/-!
# Who answers a leader, and the ceiling the answer must clear

One round of the cascade picks the **responder** among the candidates (active auto-bids of
other users whose maximum reaches the minimum next bid) and the **ceiling**, the highest price
any other eligible auto-bid could still push the lead to. This module says what the selection
returns, so that the round proofs never open it again:

* `precedes` is a strict order: it compares a key `rank` lexicographically (maximum
  descending, registration ascending, id ascending; `precedes_iff_rank`);
* `firstInOrder` returns a member that no member precedes (`firstInOrder_spec`), and nothing
  only on an empty list;
* `selectResponder_some`: the responder is a candidate that no candidate precedes; the ceiling
  is at least the lead and at least the maximum of every other eligible auto-bid, the leader's
  own included, and it is one of these numbers;
* `selectResponder_eq_none`: nobody answers exactly when every eligible auto-bid belongs to
  the leader.
-/

namespace Auction

namespace Cascade

/-! ### The order of candidates -/

/-- The key the candidates are ordered by: maximum descending, then registration, then id. -/
def rank (a : AutoBid) : ℚ ×ₗ (ℤ ×ₗ String) :=
  toLex (-a.maxAmount.toRat, toLex (a.createdAt.ns, a.id))

/-- One auto-bid precedes another exactly when its rank is lower. -/
theorem precedes_iff_rank (a b : AutoBid) : precedes a b = true ↔ rank a < rank b := by
  simp only [rank, Prod.Lex.toLex_lt_toLex, neg_lt_neg_iff, neg_inj]
  unfold precedes
  by_cases hm : a.maxAmount.sameValue b.maxAmount = true
  · have hm' := Decimal.sameValue_iff.mp hm
    by_cases hc : a.createdAt.ns = b.createdAt.ns
    · simp [hm, hc, hm']
    · simp [hm, hc, hm', Instant.lt_iff_ns]
  · have hm' : a.maxAmount.toRat ≠ b.maxAmount.toRat := fun h => hm (Decimal.sameValue_iff.mpr h)
    simp [hm, hm', Decimal.lt_iff_toRat]

/-- No auto-bid precedes itself. -/
theorem precedes_irrefl (a : AutoBid) : precedes a a = false :=
  Bool.eq_false_iff.mpr fun h => lt_irrefl (rank a) ((precedes_iff_rank a a).mp h)

/-- Preceding is transitive. -/
theorem precedes_trans {a b c : AutoBid} (hab : precedes a b = true) (hbc : precedes b c = true) :
    precedes a c = true := by
  rw [precedes_iff_rank] at *
  exact lt_trans hab hbc

/-- Of two auto-bids at most one precedes the other. -/
theorem precedes_asymm {a b : AutoBid} (hab : precedes a b = true) : precedes b a = false :=
  Bool.eq_false_iff.mpr fun h =>
    lt_asymm ((precedes_iff_rank a b).mp hab) ((precedes_iff_rank b a).mp h)

/-- The running best of the search for the first candidate: it starts at `c`, only ever moves
to a candidate preceding it, and in the end no candidate precedes it. -/
theorem foldl_first (l : List (Nat × AutoBid)) (c : Nat × AutoBid) :
    let r := l.foldl (fun best x => if precedes x.2 best.2 then x else best) c
    (r = c ∨ r ∈ l) ∧ (r = c ∨ precedes r.2 c.2 = true) ∧ precedes c.2 r.2 = false ∧
      ∀ x ∈ l, precedes x.2 r.2 = false := by
  induction l generalizing c with
  | nil => simp [precedes_irrefl]
  | cons x rest ih =>
    simp only [List.foldl_cons, List.mem_cons, forall_eq_or_imp]
    by_cases hxc : precedes x.2 c.2 = true
    · obtain ⟨hmem, hmove, hx, hrest⟩ := ih x
      rw [if_pos hxc]
      refine ⟨.inr hmem, .inr ?_, ?_, hx, hrest⟩
      · rcases hmove with h | h
        · rw [h]; exact hxc
        · exact precedes_trans h hxc
      · cases hcr : precedes c.2 (rest.foldl _ x).2
        · rfl
        · rcases hmove with h | h
          · rw [h, precedes_asymm hxc] at hcr; cases hcr
          · rw [precedes_asymm (precedes_trans h hxc)] at hcr; cases hcr
    · have hxc' : precedes x.2 c.2 = false := by simpa using hxc
      obtain ⟨hmem, hmove, hc, hrest⟩ := ih c
      rw [if_neg hxc]
      refine ⟨hmem.imp_right .inr, hmove, hc, ?_, hrest⟩
      cases hxr : precedes x.2 (rest.foldl _ c).2
      · rfl
      · rcases hmove with h | h
        · rw [h, hxc'] at hxr; cases hxr
        · rw [precedes_trans hxr h] at hxc'; cases hxc'

/-- The first candidate in order is a candidate that no candidate precedes. -/
theorem firstInOrder_spec {l : List (Nat × AutoBid)} {r : Nat × AutoBid}
    (h : firstInOrder l = some r) : r ∈ l ∧ ∀ x ∈ l, precedes x.2 r.2 = false := by
  cases l with
  | nil => cases h
  | cons c rest =>
    rw [firstInOrder, Option.some.injEq] at h
    obtain ⟨hmem, -, hc, hrest⟩ := foldl_first rest c
    rw [h] at hmem hc hrest
    refine ⟨?_, ?_⟩
    · rcases hmem with rfl | hmem
      · exact List.mem_cons_self
      · exact List.mem_cons_of_mem _ hmem
    · intro x hx
      rcases List.mem_cons.mp hx with rfl | hx
      exacts [hc, hrest x hx]

/-- There is no first candidate exactly when there is no candidate. -/
theorem firstInOrder_eq_none {l : List (Nat × AutoBid)} : firstInOrder l = none ↔ l = [] := by
  cases l <;> simp [firstInOrder]

/-! ### Largest maxima -/

/-- A running larger-of starts at its seed, ends above every entry, and ends on one of them. -/
theorem foldl_max_spec {β : Type} (f : β → Decimal) (l : List β) (init : Decimal) :
    let m := l.foldl (fun c x => c.max (f x)) init
    init.toRat ≤ m.toRat ∧ (∀ x ∈ l, (f x).toRat ≤ m.toRat) ∧
      (m.toRat = init.toRat ∨ ∃ x ∈ l, m.toRat = (f x).toRat) := by
  induction l generalizing init with
  | nil => simp
  | cons x rest ih =>
    obtain ⟨hinit, hall, hwhich⟩ := ih (init.max (f x))
    simp only [List.foldl_cons, Decimal.toRat_max, List.mem_cons, forall_eq_or_imp] at *
    refine ⟨le_trans le_sup_left hinit, ⟨le_trans le_sup_right hinit, hall⟩, ?_⟩
    rcases hwhich with h | ⟨y, hy, h⟩
    · rcases max_choice init.toRat (f x).toRat with hm | hm
      · exact .inl (h.trans hm)
      · exact .inr ⟨x, .inl rfl, h.trans hm⟩
    · exact .inr ⟨y, .inr hy, h⟩

/-! ### The selection -/

/-- An auto-bid is a candidate to answer a lead exactly when it is at its position, active, its
maximum reaches the minimum, and it is not the leader's. -/
theorem mem_candidates {b : Book} {L : Bid} {m : Decimal} {i : Nat} {a : AutoBid} :
    (i, a) ∈ candidates b L m ↔
      b.autoBids[i]? = some a ∧ a.isActive = true ∧ m ≤ a.maxAmount ∧ a.userId ≠ L.bidderId := by
  simp only [candidates, List.mem_filter, List.mem_map, Prod.mk.injEq, Bool.and_eq_true,
    decide_eq_true_eq, bne_iff_ne, ne_eq]
  constructor
  · rintro ⟨⟨⟨a', i'⟩, hmem, rfl, rfl⟩, ⟨hact, hmax⟩, huser⟩
    exact ⟨List.mem_zipIdx_iff_getElem?.mp hmem, hact, hmax, huser⟩
  · rintro ⟨hget, hact, hmax, huser⟩
    exact ⟨⟨(a, i), List.mem_zipIdx_iff_getElem?.mpr hget, rfl, rfl⟩, ⟨hact, hmax⟩, huser⟩

/-- What the selection returns: a candidate that no candidate precedes, and a ceiling at least
the lead and every other eligible maximum, equal to one of them. -/
theorem selectResponder_some {b : Book} {L : Bid} {m : Decimal} {i : Nat} {r : AutoBid}
    {c : Decimal} (h : selectResponder b L m = some (i, r, c)) :
    (i, r) ∈ candidates b L m ∧ (∀ x ∈ candidates b L m, precedes x.2 r = false) ∧
      L.amount.toRat ≤ c.toRat ∧
      (∀ j a, b.autoBids[j]? = some a → j ≠ i → a.isActive = true → m ≤ a.maxAmount →
        a.maxAmount.toRat ≤ c.toRat) ∧
      (c.toRat = L.amount.toRat ∨ ∃ j a, b.autoBids[j]? = some a ∧ j ≠ i ∧ a.isActive = true ∧
        m ≤ a.maxAmount ∧ c.toRat = a.maxAmount.toRat) := by
  unfold selectResponder at h
  dsimp only at h
  split at h
  · cases h
  · rename_i i' r' hfirst
    simp only [Option.some.injEq, Prod.mk.injEq] at h
    obtain ⟨rfl, rfl, rfl⟩ := h
    obtain ⟨hmem, hbest⟩ := firstInOrder_spec hfirst
    have hr := mem_candidates.mp hmem
    obtain ⟨hown0, hown, hownw⟩ := foldl_max_spec (·.maxAmount)
      (b.autoBids.filter fun a =>
        a.isActive && decide (m ≤ a.maxAmount) && a.userId == L.bidderId) L.amount
    obtain ⟨hc0, hc, hcw⟩ := foldl_max_spec (·.2.maxAmount)
      ((candidates b L m).filter (·.1 != i')) (ownCeiling b L m)
    refine ⟨hmem, hbest, le_trans hown0 hc0, ?_, ?_⟩
    · intro j a hj hji hact hmax
      by_cases hu : a.userId = L.bidderId
      · exact le_trans (hown a (List.mem_filter.mpr ⟨List.mem_of_getElem? hj, by simp [hact, hmax, hu]⟩))
          hc0
      · exact hc (j, a) (List.mem_filter.mpr ⟨mem_candidates.mpr ⟨hj, hact, hmax, hu⟩, by simpa using hji⟩)
    · rcases hcw with hcw | ⟨⟨j, a⟩, hja, hcw⟩
      · rcases hownw with hw | ⟨a, ha, hw⟩
        · exact .inl (hcw.trans hw)
        · obtain ⟨hab, hsel⟩ := List.mem_filter.mp ha
          simp only [Bool.and_eq_true, decide_eq_true_eq, beq_iff_eq] at hsel
          obtain ⟨j, hj⟩ := List.mem_iff_getElem?.mp hab
          refine .inr ⟨j, a, hj, ?_, hsel.1.1, hsel.1.2, hcw.trans hw⟩
          rintro rfl
          rw [hr.1, Option.some.injEq] at hj
          exact hr.2.2.2 (hj ▸ hsel.2)
      · obtain ⟨hjmem, hji⟩ := List.mem_filter.mp hja
        obtain ⟨hj, hact, hmax, -⟩ := mem_candidates.mp hjmem
        exact .inr ⟨j, a, hj, by simpa using hji, hact, hmax, hcw⟩

/-- Nobody answers exactly when there is no candidate. -/
theorem selectResponder_eq_none {b : Book} {L : Bid} {m : Decimal} :
    selectResponder b L m = none ↔ candidates b L m = [] := by
  unfold selectResponder
  dsimp only
  split
  · rename_i hfirst
    simpa using firstInOrder_eq_none.mp hfirst
  · rename_i hfirst
    simp only [reduceCtorEq, false_iff]
    intro hnil
    rw [hnil] at hfirst
    cases hfirst

/-- Nobody answers a leader exactly when every active auto-bid reaching `m` is the leader's. -/
theorem candidates_eq_nil {b : Book} {L : Bid} {m : Decimal} :
    candidates b L m = [] ↔
      ∀ a ∈ b.autoBids, a.isActive = true → m ≤ a.maxAmount → a.userId = L.bidderId := by
  rw [List.eq_nil_iff_forall_not_mem]
  constructor
  · intro h a ha hact hmax
    by_contra hu
    obtain ⟨j, hj⟩ := List.mem_iff_getElem?.mp ha
    exact h (j, a) (mem_candidates.mpr ⟨hj, hact, hmax, hu⟩)
  · rintro h ⟨j, a⟩ hmem
    obtain ⟨hj, hact, hmax, hu⟩ := mem_candidates.mp hmem
    exact hu (h a (List.mem_of_getElem? hj) hact hmax)

/-- An answer bids the larger of the minimum and the minimum next bid over the ceiling, capped at
the maximum. -/
@[simp] theorem toRat_answerAmount (m c M : Decimal) :
    (answerAmount m c M).toRat = (m.toRat ⊔ (minimumNextBid c).toRat) ⊓ M.toRat := by
  simp [answerAmount]

end Cascade

end Auction
