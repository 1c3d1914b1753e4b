import Mathlib.Tactic.Positivity
import Auction.House.Backoff

/-!
# The wait between attempts stays within its delay, unless the shift wraps

`Backoff.pause` doubles its base delay once for every attempt lost before, as a 64-bit shift.
While the product `base · 2 ^ (attempt - 1)` stays below `2 ^ 63` the shift is that product, so
the capped delay is `exactDelay`, the delay over the integers, and the wait sleeps between half
of it and all of it (`pause_within_delay`).

From `2 ^ 63` on the shift wraps around the signed range. A wrapped delay of `-2` or less passes
the cap, which only replaces a delay above a positive maximum, and the draw is then asked for a
bound that is not positive: the wait panics exactly then, whatever the maximum
(`pause_eq_panic_iff`). With a base and a maximum of one millisecond this happens after the 45th
lost attempt (`pause_panics_after_wrapped_shift`), so with 46 attempts allowed a run of 45
version conflicts ends the request in a panic instead of a 46th attempt.
-/

namespace Auction

namespace Duration

/-- A non-negative number below `2 ^ 63` is its own 64-bit wrap. -/
theorem wrap64_of_lt {n : Int} (h0 : 0 ≤ n) (h1 : n < 2 ^ 63) : wrap64 n = n := by
  unfold wrap64
  dsimp only
  split <;> omega

/-- A shift whose product fits in the signed range is the product. -/
theorem shiftLeft_ns_of_lt {d : Duration} {s : Nat} (h0 : 0 ≤ d.ns) (h1 : d.ns * 2 ^ s < 2 ^ 63) :
    (d.shiftLeft s).ns = d.ns * 2 ^ s := by
  show wrap64 (d.ns * Int.pow 2 s) = _
  rw [Int.pow_eq]
  exact wrap64_of_lt (by positivity) h1

end Duration

namespace Backoff

/-- The delay meant after the attempt numbered `attempt` lost, over the integers: the base
doubled once for every attempt lost before, with no bound on the product, and the maximum
instead when the maximum is positive and smaller. -/
def exactDelay (base cap : Int) (attempt : Nat) : Int :=
  if 0 < cap then min (base * 2 ^ (attempt - 1)) cap else base * 2 ^ (attempt - 1)

/-- A truncating half falls below zero exactly from `-2` down. -/
theorem tdiv_two_add_one_nonpos_iff (w : Int) : w.tdiv 2 + 1 ≤ 0 ↔ w ≤ -2 := by
  rw [Int.tdiv_eq_ediv]
  split
  · omega
  · have : (2 : Int).sign = 1 := rfl
    omega

variable {base cap : Duration} {attempt : Nat}

/-- Without overflow the capped delay is the delay over the integers. -/
theorem delay_eq_exactDelay (hbase : 0 < base.ns) (hfit : base.ns * 2 ^ (attempt - 1) < 2 ^ 63) :
    (delay base cap attempt).ns = exactDelay base.ns cap.ns attempt := by
  have hshift := Duration.shiftLeft_ns_of_lt hbase.le hfit
  unfold delay exactDelay
  dsimp only
  rw [hshift]
  generalize base.ns * 2 ^ (attempt - 1) = x at *
  split_ifs <;> omega

/-- With a positive base, the exact delay of every attempt is positive. -/
theorem exactDelay_pos {b c : Int} (hb : 0 < b) (attempt : Nat) : 0 < exactDelay b c attempt := by
  have : 0 < b * 2 ^ (attempt - 1) := by positivity
  unfold exactDelay
  split_ifs <;> omega

/-- While the doubled base fits in 64 bits, the wait sleeps between half the delay and the delay,
where the delay is the base doubled once per earlier lost attempt over the integers, capped by a
positive maximum; it never panics. -/
theorem pause_within_delay (hbase : 0 < base.ns) (hfit : base.ns * 2 ^ (attempt - 1) < 2 ^ 63) :
    pause base cap attempt =
        .sleep ⟨exactDelay base.ns cap.ns attempt / 2⟩
          ⟨exactDelay base.ns cap.ns attempt / 2 + exactDelay base.ns cap.ns attempt / 2⟩ ∧
      exactDelay base.ns cap.ns attempt / 2 + exactDelay base.ns cap.ns attempt / 2 ≤
        exactDelay base.ns cap.ns attempt := by
  have hpos := exactDelay_pos (c := cap.ns) hbase attempt
  refine ⟨?_, by omega⟩
  rw [pause, if_neg (by omega)]
  dsimp only
  rw [delay_eq_exactDelay hbase hfit, Int.tdiv_eq_ediv_of_nonneg hpos.le, if_neg (by omega)]

/-- A base of one millisecond and a maximum of fifty: after the third attempt lost the delay is
four milliseconds. -/
theorem pause_within_delay_third :
    0 < (Duration.ofMillis 1).ns ∧ (Duration.ofMillis 1).ns * 2 ^ (3 - 1) < 2 ^ 63 ∧
      pause (Duration.ofMillis 1) (Duration.ofMillis 50) 3 =
          .sleep ⟨exactDelay (Duration.ofMillis 1).ns (Duration.ofMillis 50).ns 3 / 2⟩
            ⟨exactDelay (Duration.ofMillis 1).ns (Duration.ofMillis 50).ns 3 / 2 +
              exactDelay (Duration.ofMillis 1).ns (Duration.ofMillis 50).ns 3 / 2⟩ ∧
        exactDelay (Duration.ofMillis 1).ns (Duration.ofMillis 50).ns 3 / 2 +
            exactDelay (Duration.ofMillis 1).ns (Duration.ofMillis 50).ns 3 / 2 ≤
          exactDelay (Duration.ofMillis 1).ns (Duration.ofMillis 50).ns 3 :=
  ⟨by decide, by decide, pause_within_delay (by decide) (by decide)⟩

/-- With a positive base the wait panics exactly when the shifted base wrapped to `-2` or less;
the maximum cannot prevent it. -/
theorem pause_eq_panic_iff (hbase : 0 < base.ns) :
    pause base cap attempt = .panic drawPanic ↔ (base.shiftLeft (attempt - 1)).ns ≤ -2 := by
  rw [pause, if_neg (by omega)]
  dsimp only
  unfold delay
  dsimp only
  rw [← tdiv_two_add_one_nonpos_iff]
  split_ifs with hcap hhalf hhalf
  · rw [tdiv_two_add_one_nonpos_iff] at hhalf
    omega
  · rw [tdiv_two_add_one_nonpos_iff]
    exact iff_of_false id (by omega)
  · exact iff_of_true rfl hhalf
  · exact iff_of_false id hhalf

/-- A base and a maximum of one millisecond: the 45th lost attempt shifts the base past `2 ^ 63`,
and the wait after it panics instead of sleeping for the millisecond the maximum allows. -/
theorem pause_panics_after_wrapped_shift :
    2 ^ 63 ≤ (Duration.ofMillis 1).ns * 2 ^ (45 - 1) ∧
      exactDelay (Duration.ofMillis 1).ns (Duration.ofMillis 1).ns 45 = 1000000 ∧
      pause (Duration.ofMillis 1) (Duration.ofMillis 1) 45 = .panic drawPanic :=
  ⟨by decide, by decide, (pause_eq_panic_iff (by decide)).mpr (by decide)⟩

end Backoff

end Auction
