import Auction.Proofs.Amount

/-!
# The increment table read as bands

`increment` scans the table from its highest floor down and takes the first band whose floor is
at or below the price. Read as a partition, the table cuts the non-negative prices into
half-open bands `[floor i, floor (i + 1))`, the last one unbounded (`InBand`). Because the
floors rise strictly, the scan lands on the band that holds the price
(`find?_reverse_eq_some_iff`), and every non-negative price lies in exactly one band
(`inBand_unique`). A negative price lies in none and gets `defaultIncrement`.

Together with the laws of `Auction.Proofs.Amount` this gives the shape of the minimum next bid:
above the price, and strictly increasing on the non-negative prices, so a higher current price
never advertises a lower minimum (`increment_follows_the_bands`).
-/

namespace Auction

/-- Band `i` of the increment table holds the price `x`: its floor is at or below `x`, and the
next band's floor, if there is one, is above it. -/
def InBand (x : Decimal) (i : Nat) : Prop :=
  ∃ b ∈ incrementBands[i]?, b.floor ≤ x ∧ ∀ c ∈ incrementBands[i + 1]?, x < c.floor

instance (x : Decimal) (i : Nat) : Decidable (InBand x i) :=
  inferInstanceAs (Decidable (∃ b ∈ incrementBands[i]?, _))

/-- The floors of the table rise strictly. -/
theorem incrementBands_floor_sorted : incrementBands.Pairwise fun a b => a.floor < b.floor := by
  decide

/-- The lowest floor is zero. -/
theorem incrementBands_head : incrementBands[0]? = some ⟨0, 5⟩ := rfl

/-- Every band starts at a floor that is not negative. -/
theorem incrementBands_floor_nonneg : ∀ c ∈ incrementBands, (0 : Decimal) ≤ c.floor := by
  decide

namespace Decimal

/-- An amount that is not at or below another is above it. -/
theorem lt_of_not_le {a b : Decimal} (h : ¬ a ≤ b) : b < a := by
  rw [le_iff_toRat, not_le] at h
  exact lt_iff_toRat.mpr h

/-- An amount above another is not at or below it. -/
theorem not_le_of_lt {a b : Decimal} (h : b < a) : ¬ a ≤ b := by
  rw [le_iff_toRat, not_le]
  exact lt_iff_toRat.mp h

end Decimal

section Sorted

variable {bands : List IncrementBand} {x : Decimal} {b : IncrementBand}

/-- Past a band whose floor is above the price, every later floor is above it too. -/
theorem lt_floor_of_mem_drop (hsorted : bands.Pairwise fun a b => a.floor < b.floor) {i : Nat}
    (hnext : ∀ c ∈ bands[i + 1]?, x < c.floor) : ∀ c ∈ bands.drop (i + 1), x < c.floor := by
  intro c hc
  obtain ⟨c₀, rest, hdrop⟩ : ∃ c₀ rest, bands.drop (i + 1) = c₀ :: rest := by
    cases h : bands.drop (i + 1) with
    | nil => rw [h] at hc; cases hc
    | cons c₀ rest => exact ⟨c₀, rest, rfl⟩
  have hc₀ : bands[i + 1]? = some c₀ := by
    rw [← List.head?_drop, hdrop, List.head?_cons]
  have hx : x < c₀.floor := hnext c₀ hc₀
  have hsorted' : (c₀ :: rest).Pairwise fun a b => a.floor < b.floor :=
    hdrop ▸ hsorted.sublist (List.drop_sublist _ _)
  rw [hdrop, List.mem_cons] at hc
  rcases hc with rfl | hrest
  · exact hx
  · have hlt := Decimal.lt_iff_toRat.mp (List.rel_of_pairwise_cons hsorted' hrest)
    exact Decimal.lt_iff_toRat.mpr ((Decimal.lt_iff_toRat.mp hx).trans hlt)

/-- Over a table whose floors rise strictly, the last band at or below a price is the band that
holds it. -/
theorem find?_reverse_eq_some_iff (hsorted : bands.Pairwise fun a b => a.floor < b.floor) :
    bands.reverse.find? (fun c => decide (c.floor ≤ x)) = some b ↔
      ∃ i, bands[i]? = some b ∧ b.floor ≤ x ∧ ∀ c ∈ bands[i + 1]?, x < c.floor := by
  constructor
  · intro hfind
    obtain ⟨hb, above, below, hsplit, habove⟩ := List.find?_eq_some_iff_append.mp hfind
    have hbands : bands = below.reverse ++ b :: above.reverse := by
      rw [← List.reverse_reverse bands, hsplit]
      simp
    refine ⟨below.length, ?_, of_decide_eq_true hb, ?_⟩
    · rw [hbands, List.getElem?_append_right (by simp)]
      simp
    · intro c hc
      have hmem : c ∈ above := by
        rw [hbands, List.getElem?_append_right (by simp)] at hc
        simp only [List.length_reverse, Nat.add_sub_cancel_left, List.getElem?_cons_succ] at hc
        exact List.mem_reverse.mp (List.mem_of_getElem? hc)
      exact Decimal.lt_of_not_le (by simpa using habove c hmem)
  · rintro ⟨i, hb, hle, hnext⟩
    have hsplit : bands = bands.take i ++ b :: bands.drop (i + 1) := by
      obtain ⟨hi, rfl⟩ := List.getElem?_eq_some_iff.mp hb
      rw [List.getElem_cons_drop hi, List.take_append_drop]
    have hnone : (bands.drop (i + 1)).reverse.find? (fun c => decide (c.floor ≤ x)) = none := by
      rw [List.find?_eq_none]
      intro c hc
      simpa using Decimal.not_le_of_lt (lt_floor_of_mem_drop hsorted hnext c (List.mem_reverse.mp hc))
    rw [hsplit, List.reverse_append, List.reverse_cons, List.append_assoc, List.find?_append,
      hnone, Option.none_or, List.singleton_append]
    exact List.find?_cons_of_pos (decide_eq_true hle)

/-- Over a table whose floors rise strictly, a price lies in at most one band. -/
theorem inBand_unique_of_sorted (hsorted : bands.Pairwise fun a b => a.floor < b.floor)
    {i j : Nat} {bj : IncrementBand} (hi : ∀ c ∈ bands[i + 1]?, x < c.floor)
    (hbj : bands[j]? = some bj) (hj : bj.floor ≤ x) : j ≤ i := by
  by_contra hlt
  have hmem : bj ∈ bands.drop (i + 1) := by
    rw [List.mem_iff_getElem?]
    exact ⟨j - (i + 1), by rw [List.getElem?_drop]; rwa [Nat.add_sub_cancel' (by omega)]⟩
  exact Decimal.not_le_of_lt (lt_floor_of_mem_drop hsorted hi bj hmem) hj

end Sorted

/-- The raise of a price is the raise of the band that holds it. -/
theorem increment_of_inBand {x : Decimal} {i : Nat} (h : InBand x i) :
    incrementBands[i]?.map (·.step) = some (increment x) := by
  obtain ⟨b, hb, hle, hnext⟩ := h
  have hfind := (find?_reverse_eq_some_iff incrementBands_floor_sorted).mpr ⟨i, hb, hle, hnext⟩
  rw [increment, hfind, Option.mem_def.mp hb, Option.map_some]

/-- A price lies in at most one band. -/
theorem inBand_unique {x : Decimal} {i j : Nat} (hi : InBand x i) (hj : InBand x j) : i = j := by
  obtain ⟨bi, hbi, hlei, hnexti⟩ := hi
  obtain ⟨bj, hbj, hlej, hnextj⟩ := hj
  have hji := inBand_unique_of_sorted incrementBands_floor_sorted hnexti hbj hlej
  have hij := inBand_unique_of_sorted incrementBands_floor_sorted hnextj hbi hlei
  omega

/-- A non-negative price lies in some band: the one the scan finds. -/
theorem exists_inBand {x : Decimal} (hx : 0 ≤ x) : ∃ i, InBand x i := by
  obtain ⟨b, hfind⟩ : ∃ b, incrementBands.reverse.find? (fun c => decide (c.floor ≤ x)) = some b := by
    apply Option.ne_none_iff_exists'.mp
    rw [Ne, List.find?_eq_none]
    intro hnone
    exact hnone ⟨0, 5⟩ (List.mem_reverse.mpr (List.mem_of_getElem? incrementBands_head))
      (decide_eq_true hx)
  obtain ⟨i, hb, hle, hnext⟩ := (find?_reverse_eq_some_iff incrementBands_floor_sorted).mp hfind
  exact ⟨i, b, hb, hle, hnext⟩

/-- A negative price lies below every floor: it is in no band and gets the default raise. -/
theorem increment_of_neg {x : Decimal} (hx : x < 0) :
    increment x = defaultIncrement ∧ ∀ i, ¬ InBand x i := by
  have hfloor : ∀ c ∈ incrementBands, ¬ c.floor ≤ x := by
    intro c hc hle
    have := (Decimal.le_iff_toRat.mp (incrementBands_floor_nonneg c hc)).trans
      (Decimal.le_iff_toRat.mp hle)
    exact absurd (Decimal.lt_iff_toRat.mp hx) (not_lt.mpr this)
  refine ⟨?_, ?_⟩
  · have hnone : incrementBands.reverse.find? (fun c => decide (c.floor ≤ x)) = none := by
      rw [List.find?_eq_none]
      intro c hc
      simpa using hfloor c (List.mem_reverse.mp hc)
    rw [increment, hnone]
  · rintro i ⟨b, hb, hle, -⟩
    exact hfloor b (List.mem_of_getElem? hb) hle

/-- On the non-negative prices the minimum next bid rises strictly with the price. -/
theorem minimumNextBid_strictMono {x y : Decimal} (hx : 0 ≤ x) (hxy : x < y) :
    minimumNextBid x < minimumNextBid y := by
  have hx' : 0 ≤ x.toRat := by simpa using Decimal.le_iff_toRat.mp hx
  have hxy' := Decimal.lt_iff_toRat.mp hxy
  have hinc := increment_mono hx' hxy'.le
  rw [Decimal.lt_iff_toRat, toRat_minimumNextBid, toRat_minimumNextBid]
  linarith

/-- The increment follows the bands of the table: a negative price is in no band and gets 10, a
non-negative one lies in exactly one band and gets that band's raise. The minimum next bid is
above the price, and strictly increasing on the non-negative prices. -/
theorem increment_follows_the_bands :
    (∀ x : Decimal, x < 0 → increment x = 10 ∧ ∀ i, ¬ InBand x i) ∧
    (∀ x : Decimal, 0 ≤ x → ∃! i, InBand x i) ∧
    (∀ x i, InBand x i → incrementBands[i]?.map (·.step) = some (increment x)) ∧
    (∀ x, x < minimumNextBid x) ∧
    (∀ x y : Decimal, 0 ≤ x → x < y → minimumNextBid x < minimumNextBid y) := by
  refine ⟨fun x hx => increment_of_neg hx, fun x hx => ?_, fun x i h => increment_of_inBand h,
    fun x => Decimal.lt_iff_toRat.mpr (lt_minimumNextBid x),
    fun x y hx hxy => minimumNextBid_strictMono hx hxy⟩
  obtain ⟨i, hi⟩ := exists_inBand hx
  exact ⟨i, hi, fun j hj => inBand_unique hj hi⟩

/-- A fraction just below a floor stays in the band beneath it. -/
example : InBand ⟨9999, 2⟩ 0 ∧ InBand ⟨4995, 1⟩ 1 := by decide

/-- 99.99 lies in the lowest band and gets its raise of 5, -1 lies in no band and gets 10, and
across the floor at 100 the minimum next bid rises from 104 to 110. -/
theorem increment_follows_the_bands_at_hundred :
    ((⟨-1, 0⟩ : Decimal) < 0 ∧ increment ⟨-1, 0⟩ = 10) ∧
    ((0 : Decimal) ≤ ⟨9999, 2⟩ ∧ InBand ⟨9999, 2⟩ 0 ∧
      incrementBands[0]?.map (·.step) = some (increment ⟨9999, 2⟩)) ∧
    ((0 : Decimal) ≤ 99 ∧ (99 : Decimal) < 100 ∧ minimumNextBid 99 < minimumNextBid 100) := by
  have hneg : (⟨-1, 0⟩ : Decimal) < 0 := by decide
  have hband : InBand ⟨9999, 2⟩ 0 := by decide
  have hlt : (99 : Decimal) < 100 := by decide
  have hnonneg : (0 : Decimal) ≤ 99 := by decide
  exact ⟨⟨hneg, (increment_follows_the_bands.1 _ hneg).1⟩,
    ⟨by decide, hband, increment_follows_the_bands.2.2.1 _ _ hband⟩,
    ⟨hnonneg, hlt, increment_follows_the_bands.2.2.2.2 _ _ hnonneg hlt⟩⟩

end Auction
