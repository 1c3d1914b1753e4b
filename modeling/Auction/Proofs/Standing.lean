import Auction.Book.Basic
import Auction.Proofs.Amount

/-!
# The best standing bid is the first of the best

`Book.bestStanding?` scans the bids in order and replaces the bid it holds only by a standing
bid that `Book.beats` it: a strictly higher amount, or the same amount placed strictly earlier.
Its reference is stated apart from the scan. Bids rank by amount, higher first, and then by bid
time, earlier first (`Bid.RanksAtLeast`, a total preorder on values). A standing bid that ranks
at least as high as every standing bid is a best one (`IsBest`), and the reference picks the
first best one in the order of the bids (`FirstBest`).

The scan keeps the first best standing bid of what it has read (`Leads.step`): `beats` is
exactly "ranks strictly higher" (`beats_eq_true_iff`), so a tie keeps the bid read first. Over
the whole book (`bestStanding_is_first_best`) the scan finds nothing exactly when no bid stands,
and otherwise the first best standing bid, at its position.
-/

namespace Auction

namespace Bid

/-- `x` ranks at least as high as `y` for the lead: a higher amount, or the same amount placed
no later. -/
def RanksAtLeast (x y : Bid) : Prop :=
  y.amount.toRat < x.amount.toRat ∨ (x.amount.toRat = y.amount.toRat ∧ x.bidTime ≤ y.bidTime)

/-- Every bid ranks at least as high as itself. -/
theorem RanksAtLeast.refl (x : Bid) : x.RanksAtLeast x :=
  .inr ⟨rfl, Instant.le_iff_ns.mpr le_rfl⟩

/-- Ranking at least as high is transitive. -/
theorem RanksAtLeast.trans {x y z : Bid} (hxy : x.RanksAtLeast y) (hyz : y.RanksAtLeast z) :
    x.RanksAtLeast z := by
  unfold RanksAtLeast at *
  rw [Instant.le_iff_ns] at *
  rcases hxy with h₁ | ⟨h₁, t₁⟩ <;> rcases hyz with h₂ | ⟨h₂, t₂⟩
  · exact .inl (h₂.trans h₁)
  · exact .inl (h₂ ▸ h₁)
  · exact .inl (h₁ ▸ h₂)
  · exact .inr ⟨h₁.trans h₂, t₁.trans t₂⟩

/-- Two bids that do not rank one above the other in this order do the other way round. -/
theorem RanksAtLeast.of_not {x y : Bid} (h : ¬ x.RanksAtLeast y) : y.RanksAtLeast x := by
  unfold RanksAtLeast at *
  rw [Instant.le_iff_ns] at *
  push Not at h
  rcases h.1.lt_or_eq with hlt | heq
  · exact .inl hlt
  · exact .inr ⟨heq.symm, (h.2 heq).le⟩

end Bid

/-- `Book.beats` is "ranks strictly higher". -/
theorem beats_eq_true_iff (y x : Bid) : Book.beats y x = true ↔ ¬ x.RanksAtLeast y := by
  rw [Book.beats, Bid.RanksAtLeast, Instant.le_iff_ns]
  simp only [Bool.or_eq_true, Bool.and_eq_true, decide_eq_true_eq, Decimal.lt_iff_toRat,
    Decimal.sameValue_iff, Instant.lt_iff_ns]
  constructor
  · rintro (h | ⟨h, t⟩)
    · exact fun hr => hr.elim (fun h' => lt_asymm h h') (fun h' => h.ne h'.1)
    · exact fun hr => hr.elim (fun h' => h'.ne' h) (fun h' => not_le.mpr t h'.2)
  · intro h
    push Not at h
    rcases h.1.lt_or_eq with hlt | heq
    · exact .inl hlt
    · exact .inr ⟨heq, h.2 heq⟩

/-- A standing bid of `bids` that ranks at least as high as every standing bid of it. -/
def IsBest (bids : List Bid) (x : Bid) : Prop :=
  x.status.isStanding = true ∧ ∀ y ∈ bids, y.status.isStanding = true → x.RanksAtLeast y

/-- Position `i` of `bids` holds `x`, the first best standing bid in the order of the bids. -/
def FirstBest (bids : List Bid) (i : Nat) (x : Bid) : Prop :=
  bids[i]? = some x ∧ IsBest bids x ∧ ∀ j < i, ∀ y, bids[j]? = some y → ¬ IsBest bids y

/-- What the scan of `bids` may hold: nothing when no bid stands, and otherwise the first best
standing bid with its position. -/
def Leads (bids : List Bid) : Option (Nat × Bid) → Prop
  | none => ∀ y ∈ bids, y.status.isStanding = false
  | some (i, x) => FirstBest bids i x

section Reference

variable {l : List Bid} {x y : Bid}

/-- A bid not best among some bids is not best among more. -/
theorem not_isBest_append (h : ¬ IsBest l x) : ¬ IsBest (l ++ [y]) x :=
  fun ⟨hx, hall⟩ => h ⟨hx, fun z hz => hall z (List.mem_append_left _ hz)⟩

/-- The best bid of some bids that ranks at least as high as one more bid is best among them
all. -/
theorem IsBest.append (hx : IsBest l x) (hxy : y.status.isStanding = true → x.RanksAtLeast y) :
    IsBest (l ++ [y]) x := by
  refine ⟨hx.1, fun z hz hzs => ?_⟩
  rcases List.mem_append.mp hz with hz | hz
  · exact hx.2 z hz hzs
  · rw [List.mem_singleton.mp hz]
    exact hxy (List.mem_singleton.mp hz ▸ hzs)

/-- The first best bid of some bids stays first best with one more bid it ranks above. -/
theorem FirstBest.append {i : Nat} (h : FirstBest l i x)
    (hxy : y.status.isStanding = true → x.RanksAtLeast y) : FirstBest (l ++ [y]) i x := by
  obtain ⟨hi, hbest, hfirst⟩ := h
  have hlt : i < l.length := (List.getElem?_eq_some_iff.mp hi).1
  refine ⟨by rwa [List.getElem?_append_left hlt], hbest.append hxy, ?_⟩
  intro j hj z hz
  rw [List.getElem?_append_left (hj.trans hlt)] at hz
  exact not_isBest_append (hfirst j hj z hz)

/-- A standing bid that ranks strictly above the best bid so far is the first best bid once
added. -/
theorem FirstBest.append_beaten {i : Nat} (h : FirstBest l i x) (hy : y.status.isStanding = true)
    (hbeat : ¬ x.RanksAtLeast y) : FirstBest (l ++ [y]) l.length y := by
  obtain ⟨-, hbest, -⟩ := h
  have hyx := Bid.RanksAtLeast.of_not hbeat
  have hyall : IsBest (l ++ [y]) y :=
    ⟨hy, fun z hz hzs => by
      rcases List.mem_append.mp hz with hz | hz
      · exact hyx.trans (hbest.2 z hz hzs)
      · rw [List.mem_singleton.mp hz]
        exact Bid.RanksAtLeast.refl y⟩
  refine ⟨by simp, hyall, fun j hj z hz hzbest => ?_⟩
  rw [List.getElem?_append_left hj] at hz
  have hzy : z.RanksAtLeast y := hzbest.2 y (by simp) hy
  exact hbeat ((hbest.2 z (List.mem_of_getElem? hz) hzbest.1).trans hzy)

/-- The first standing bid after bids none of which stands is the first best bid. -/
theorem FirstBest.append_first (hnone : ∀ z ∈ l, z.status.isStanding = false)
    (hy : y.status.isStanding = true) : FirstBest (l ++ [y]) l.length y := by
  refine ⟨by simp, ⟨hy, fun z hz hzs => ?_⟩, fun j hj z hz hzbest => ?_⟩
  · rcases List.mem_append.mp hz with hz | hz
    · rw [hnone z hz] at hzs
      cases hzs
    · rw [List.mem_singleton.mp hz]
      exact Bid.RanksAtLeast.refl y
  · rw [List.getElem?_append_left hj] at hz
    have hzs := hzbest.1
    rw [hnone z (List.mem_of_getElem? hz)] at hzs
    cases hzs

/-- The first best bid is unique: its position and its bid. -/
theorem FirstBest.unique {i j : Nat} (hx : FirstBest l i x) (hy : FirstBest l j y) :
    i = j ∧ x = y := by
  have hij : i = j := by
    rcases Nat.lt_trichotomy i j with hlt | heq | hgt
    · exact absurd hx.2.1 (hy.2.2 i hlt x hx.1)
    · exact heq
    · exact absurd hy.2.1 (hx.2.2 j hgt y hy.1)
  subst hij
  exact ⟨rfl, Option.some.inj (hx.1.symm.trans hy.1)⟩

/-- A first best bid stands, so some bid stands. -/
theorem FirstBest.not_none {i : Nat} (h : FirstBest l i x)
    (hnone : ∀ z ∈ l, z.status.isStanding = false) : False := by
  have hxs := h.2.1.1
  rw [hnone x (List.mem_of_getElem? h.1)] at hxs
  cases hxs

/-- `Leads` allows one value only: nothing when no bid stands, else the first best bid. -/
theorem Leads.unique {a c : Option (Nat × Bid)} (ha : Leads l a) (hc : Leads l c) : a = c := by
  rcases a with _ | ⟨i, x⟩ <;> rcases c with _ | ⟨j, y⟩
  · rfl
  · exact (FirstBest.not_none hc ha).elim
  · exact (FirstBest.not_none ha hc).elim
  · obtain ⟨rfl, rfl⟩ := FirstBest.unique ha hc
    rfl

end Reference

/-! ### The scan -/

/-- The scan of some bids and then more goes on from what it held after the first ones. -/
theorem bestStandingFrom_append :
    ∀ (i : Nat) (l r : List Bid) (best : Option (Nat × Bid)),
      Book.bestStandingFrom i (l ++ r) best =
        Book.bestStandingFrom (i + l.length) r (Book.bestStandingFrom i l best)
  | _, [], _, _ => rfl
  | i, y :: l, r, best => by
    simp only [List.cons_append, Book.bestStandingFrom, List.length_cons]
    rw [bestStandingFrom_append (i + 1) l r]
    congr 1
    omega

/-- One bid read keeps the scan on the first best standing bid. -/
theorem Leads.step {l : List Bid} {best : Option (Nat × Bid)} (h : Leads l best) (y : Bid) :
    Leads (l ++ [y]) (Book.bestStandingFrom l.length [y] best) := by
  by_cases hy : y.status.isStanding = true
  · rcases best with _ | ⟨i, x⟩
    · simpa [Book.bestStandingFrom, hy, Leads] using FirstBest.append_first h hy
    · by_cases hbeat : Book.beats y x = true
      · simpa [Book.bestStandingFrom, hy, hbeat, Leads] using
          FirstBest.append_beaten h hy ((beats_eq_true_iff y x).mp hbeat)
      · have hxy : x.RanksAtLeast y := by
          by_contra hn
          exact hbeat ((beats_eq_true_iff y x).mpr hn)
        simpa [Book.bestStandingFrom, hy, hbeat, Leads] using FirstBest.append h fun _ => hxy
  · have hy' : y.status.isStanding = false := by simpa using hy
    have hscan : Book.bestStandingFrom l.length [y] best = best := by
      simp [Book.bestStandingFrom, hy']
    rw [hscan]
    rcases best with _ | ⟨i, x⟩
    · show ∀ z ∈ l ++ [y], z.status.isStanding = false
      intro z hz
      rcases List.mem_append.mp hz with hz | hz
      · exact h z hz
      · rw [List.mem_singleton.mp hz]
        exact hy'
    · exact FirstBest.append h fun hys => absurd hys hy

/-- The scan of any bids from the start holds what `Leads` says. -/
theorem leads_bestStandingFrom (l : List Bid) : Leads l (Book.bestStandingFrom 0 l none) := by
  induction l using List.reverseRecOn with
  | nil => exact fun _ h => absurd h List.not_mem_nil
  | append_singleton l y ih =>
    rw [bestStandingFrom_append, Nat.zero_add]
    exact ih.step y

/-- The scan of a book holds a value exactly when `Leads` allows it. -/
theorem bestStanding?_eq_iff (b : Book) (o : Option (Nat × Bid)) :
    b.bestStanding? = o ↔ Leads b.bids o :=
  ⟨fun h => h ▸ leads_bestStandingFrom b.bids, Leads.unique (leads_bestStandingFrom b.bids)⟩

/-- The best standing bid of a book is the reference choice: nothing exactly when no bid is
accepted or outbid, and otherwise the first, in the order of the bids, of the standing bids that
rank highest by amount and then by earliest bid time, with its position. -/
theorem bestStanding_is_first_best (b : Book) :
    (b.bestStanding? = none ↔ ∀ y ∈ b.bids, y.status.isStanding = false) ∧
      ∀ i x, b.bestStanding? = some (i, x) ↔ FirstBest b.bids i x :=
  ⟨bestStanding?_eq_iff b none, fun i x => bestStanding?_eq_iff b (some (i, x))⟩

end Auction
