import Mathlib
import Auction.Increment

/-!
# Amounts as rational numbers, and the laws of the increment table

A `Decimal` stands for the rational number `num / 10 ^ scale` (`Decimal.toRat`). Every
comparison of amounts the bidding code makes is a comparison of these numbers, and sums,
larger-of and smaller-of are the rational ones, so a claim about amounts can be stated and
proved in `ℚ`:

* `Decimal.lt_iff_toRat`, `Decimal.le_iff_toRat`, `Decimal.sameValue_iff`: the order of
  amounts is the order of their values;
* `Decimal.toRat_add`, `Decimal.toRat_max`, `Decimal.toRat_min`: the arithmetic is exact.

The increment table then gives the three laws the auction rules rest on: every raise is
positive, so the minimum next bid is always above the price (`lt_minimumNextBid`); the raise
depends on the price's value only (`minimumNextBid_congr`); and on non-negative prices the
raise grows with the price, because the table's raises grow with its floors, so the minimum
next bid is monotone (`minimumNextBid_mono`).
-/

namespace Auction

namespace Decimal

/-- The rational number an amount stands for. -/
def toRat (d : Decimal) : ℚ := d.num / 10 ^ d.scale

/-- The numerator at a scale the amount reaches, over that power of ten, is the amount's value. -/
theorem toRat_numAt (d : Decimal) {s : Nat} (h : d.scale ≤ s) :
    (d.numAt s : ℚ) / 10 ^ s = d.toRat := by
  have hpow : (10 : ℚ) ^ s = 10 ^ (s - d.scale) * 10 ^ d.scale := by
    rw [← pow_add, Nat.sub_add_cancel h]
  rw [numAt, Int.pow_eq, toRat, Int.cast_mul, Int.cast_pow, hpow]
  field_simp
  push_cast
  ring

/-- The common scale of two amounts reaches the first's. -/
theorem scale_le_commonScale_left (a b : Decimal) : a.scale ≤ commonScale a b := le_max_left _ _

/-- The common scale of two amounts reaches the second's. -/
theorem scale_le_commonScale_right (a b : Decimal) : b.scale ≤ commonScale a b :=
  le_max_right _ _

/-- Both sides of a comparison at the common scale, as values. -/
private theorem numAt_common_iff (a b : Decimal) (r : ℚ → ℚ → Prop)
    (hr : ∀ x y : ℚ, r (x / 10 ^ commonScale a b) (y / 10 ^ commonScale a b) ↔ r x y) :
    r (a.numAt (commonScale a b)) (b.numAt (commonScale a b)) ↔ r a.toRat b.toRat := by
  rw [← hr, toRat_numAt a (scale_le_commonScale_left a b),
    toRat_numAt b (scale_le_commonScale_right a b)]

/-- Amounts compare as their values do. -/
theorem lt_iff_toRat {a b : Decimal} : a < b ↔ a.toRat < b.toRat := by
  show a.numAt _ < b.numAt _ ↔ _
  rw [← Int.cast_lt (R := ℚ)]
  exact numAt_common_iff a b (· < ·) fun x y => div_lt_div_iff_of_pos_right (by positivity)

/-- Amounts compare, or are equal, as their values do. -/
theorem le_iff_toRat {a b : Decimal} : a ≤ b ↔ a.toRat ≤ b.toRat := by
  show a.numAt _ ≤ b.numAt _ ↔ _
  rw [← Int.cast_le (R := ℚ)]
  exact numAt_common_iff a b (· ≤ ·) fun x y => div_le_div_iff_of_pos_right (by positivity)

/-- Two amounts are the same value exactly when their values are equal. -/
theorem sameValue_iff {a b : Decimal} : a.sameValue b = true ↔ a.toRat = b.toRat := by
  rw [sameValue, beq_iff_eq, ← Int.cast_inj (α := ℚ)]
  exact numAt_common_iff a b (· = ·) fun x y => div_left_inj' (by positivity)

/-- An amount is not below another exactly when its value is at least the other's. -/
theorem not_lt_iff_toRat {a b : Decimal} : ¬ a < b ↔ b.toRat ≤ a.toRat := by
  rw [lt_iff_toRat, not_lt]

/-- A normalized amount has the value of its numerator over its power of ten. -/
@[simp] theorem toRat_normalize (n : Int) (s : Nat) : (normalize n s).toRat = n / 10 ^ s := by
  induction s generalizing n with
  | zero => simp [normalize, toRat]
  | succ s ih =>
    rw [normalize]
    split
    · rename_i h10
      rw [ih, Int.cast_div (Int.dvd_of_emod_eq_zero h10) (by norm_num), pow_succ]
      push_cast
      field_simp
    · rfl

/-- The value of a sum is the sum of the values. -/
@[simp] theorem toRat_add (a b : Decimal) : (a + b).toRat = a.toRat + b.toRat := by
  show (add a b).toRat = _
  rw [add, toRat_normalize, Int.cast_add, add_div, toRat_numAt a (scale_le_commonScale_left a b),
    toRat_numAt b (scale_le_commonScale_right a b)]

/-- A whole number written as an amount has its own value. -/
@[simp] theorem toRat_ofNat (n : Nat) : (no_index (OfNat.ofNat n : Decimal)).toRat = n := by
  show (ofInt n).toRat = _
  simp [ofInt, toRat]

/-- The larger of two amounts has the larger value. -/
@[simp] theorem toRat_max (a b : Decimal) : (a.max b).toRat = a.toRat ⊔ b.toRat := by
  rw [Decimal.max]
  split
  · rename_i h; rw [lt_iff_toRat] at h; exact (max_eq_right h.le).symm
  · rename_i h; rw [not_lt_iff_toRat] at h; exact (max_eq_left h).symm

/-- The smaller of two amounts has the smaller value. -/
@[simp] theorem toRat_min (a b : Decimal) : (a.min b).toRat = a.toRat ⊓ b.toRat := by
  rw [Decimal.min]
  split
  · rename_i h; rw [lt_iff_toRat] at h; exact (min_eq_right h.le).symm
  · rename_i h; rw [not_lt_iff_toRat] at h; exact (min_eq_left h).symm

/-- An amount is zero exactly when its value is. -/
theorem isZero_iff {a : Decimal} : a.isZero = true ↔ a.toRat = 0 := by
  rw [isZero, beq_iff_eq, toRat, div_eq_zero_iff]
  simp

/-- An amount is positive exactly when its value is. -/
theorem isPos_iff {a : Decimal} : a.isPos = true ↔ 0 < a.toRat := by
  rw [isPos, decide_eq_true_iff, toRat]
  constructor
  · intro h; positivity
  · intro h
    by_contra hn
    have : (a.num : ℚ) ≤ 0 := by exact_mod_cast not_lt.mp hn
    exact absurd h (not_lt.mpr (div_nonpos_of_nonpos_of_nonneg this (by positivity)))

end Decimal

/-! ### The increment table -/

/-- The raises of the table grow with its floors. -/
theorem incrementBands_step_sorted : incrementBands.Pairwise fun a b => a.step ≤ b.step := by
  decide

/-- Every band of the table has a positive step. -/
theorem incrementBands_step_pos : ∀ b ∈ incrementBands, b.step.isPos = true := by
  decide

/-- Taking the last band at or below a price, over a table whose raises grow along it, gives a
raise that grows with the price. -/
theorem find?_reverse_step_mono :
    ∀ {bands : List IncrementBand}, bands.Pairwise (fun a b => a.step ≤ b.step) →
      ∀ {x y : Decimal} {bx : IncrementBand}, x.toRat ≤ y.toRat →
        bands.reverse.find? (fun b => decide (b.floor ≤ x)) = some bx →
        ∃ b', bands.reverse.find? (fun b => decide (b.floor ≤ y)) = some b' ∧ bx.step ≤ b'.step
  | [], _, _, _, _, _, hx => by simp at hx
  | a :: rest, hsorted, x, y, bx, hxy, hx => by
    rw [List.pairwise_cons] at hsorted
    rw [List.reverse_cons, List.find?_append] at hx ⊢
    cases hrest : rest.reverse.find? (fun b => decide (b.floor ≤ x)) with
    | some c =>
      rw [hrest, Option.some_or] at hx
      obtain ⟨b', hb', hle⟩ := find?_reverse_step_mono hsorted.2 hxy hrest
      exact ⟨b', by rw [hb', Option.some_or], Option.some.inj hx ▸ hle⟩
    | none =>
      rw [hrest, Option.none_or] at hx
      have ha : a.floor ≤ x ∧ a = bx := by simpa using hx
      have hay : a.floor ≤ y :=
        Decimal.le_iff_toRat.mpr ((Decimal.le_iff_toRat.mp ha.1).trans hxy)
      cases hy : rest.reverse.find? (fun b => decide (b.floor ≤ y)) with
      | some c =>
        have hc : c ∈ rest := List.mem_reverse.mp (List.mem_of_find?_eq_some hy)
        exact ⟨c, by rw [Option.some_or], ha.2 ▸ hsorted.1 c hc⟩
      | none =>
        exact ⟨a, by simp [hay], ha.2 ▸ Decimal.le_iff_toRat.mpr le_rfl⟩

/-- Every price has a positive increment. -/
theorem increment_pos (x : Decimal) : 0 < (increment x).toRat := by
  rw [increment]
  split
  · rename_i b hb
    have hmem : b ∈ incrementBands := List.mem_reverse.mp (List.mem_of_find?_eq_some hb)
    exact Decimal.isPos_iff.mp (incrementBands_step_pos b hmem)
  · rw [defaultIncrement, Decimal.toRat_ofNat]
    norm_num

/-- The raise depends on the value of the price only. -/
theorem increment_congr {x y : Decimal} (h : x.toRat = y.toRat) : increment x = increment y := by
  have hp : (fun b : IncrementBand => decide (b.floor ≤ x)) = fun b => decide (b.floor ≤ y) := by
    funext b
    simp only [Decimal.le_iff_toRat, h]
  rw [increment, increment, hp]

/-- On non-negative prices the raise grows with the price. -/
theorem increment_mono {x y : Decimal} (hx : 0 ≤ x.toRat) (hxy : x.toRat ≤ y.toRat) :
    (increment x).toRat ≤ (increment y).toRat := by
  have hfound : ∃ bx, incrementBands.reverse.find? (fun b => decide (b.floor ≤ x)) = some bx := by
    apply Option.ne_none_iff_exists'.mp
    rw [Ne, List.find?_eq_none]
    intro hnone
    exact hnone ⟨0, 5⟩ (List.mem_reverse.mpr (by simp [incrementBands]))
      (by simpa [Decimal.le_iff_toRat] using hx)
  obtain ⟨bx, hbx⟩ := hfound
  obtain ⟨b', hb', hle⟩ := find?_reverse_step_mono incrementBands_step_sorted hxy hbx
  rw [increment, hbx, increment, hb']
  exact Decimal.le_iff_toRat.mp hle

/-- The minimum next bid over a price is the price and its increment. -/
@[simp] theorem toRat_minimumNextBid (x : Decimal) :
    (minimumNextBid x).toRat = x.toRat + (increment x).toRat := by
  rw [minimumNextBid, Decimal.toRat_add]

/-- The minimum next bid is above the price. -/
theorem lt_minimumNextBid (x : Decimal) : x.toRat < (minimumNextBid x).toRat := by
  rw [toRat_minimumNextBid]
  linarith [increment_pos x]

/-- Prices of one value have minimum next bids of one value. -/
theorem minimumNextBid_congr {x y : Decimal} (h : x.toRat = y.toRat) :
    (minimumNextBid x).toRat = (minimumNextBid y).toRat := by
  rw [toRat_minimumNextBid, toRat_minimumNextBid, h, increment_congr h]

/-- On non-negative prices the minimum next bid grows with the price. -/
theorem minimumNextBid_mono {x y : Decimal} (hx : 0 ≤ x.toRat) (hxy : x.toRat ≤ y.toRat) :
    (minimumNextBid x).toRat ≤ (minimumNextBid y).toRat := by
  rw [toRat_minimumNextBid, toRat_minimumNextBid]
  linarith [increment_mono hx hxy]

/-- The acceptance rule in values: a positive amount, and at least the minimum next bid unless
nobody has bid yet. -/
theorem isValidBidAmount_iff (p h : Decimal) :
    isValidBidAmount p h = true ↔
      0 < p.toRat ∧ (h.toRat = 0 ∨ (minimumNextBid h).toRat ≤ p.toRat) := by
  rw [isValidBidAmount]
  by_cases hp : p.isPos = true
  · by_cases hz : h.isZero = true
    · simp [hp, hz, Decimal.isPos_iff.mp hp, Decimal.isZero_iff.mp hz]
    · have hz' : h.toRat ≠ 0 := fun h0 => hz (Decimal.isZero_iff.mpr h0)
      simp [hp, hz, hz', Decimal.isPos_iff.mp hp, Decimal.le_iff_toRat]
  · have hp' : ¬ 0 < p.toRat := fun h0 => hp (Decimal.isPos_iff.mpr h0)
    simp [hp, hp']

end Auction
