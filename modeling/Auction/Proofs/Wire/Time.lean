import Mathlib.Data.Nat.Digits.Defs
import Mathlib.Data.List.TakeWhile
import Auction.Proofs.Wire.Amount

/-!
# Times read back from their text

A time travels as the RFC 3339 text of its wall-clock time (`Instant.render`) and is read by
`Instant.parse`. This module proves that reading the text of an instant in UTC whose year is one
of 0 to 9999 gives the instant back (`Instant.parse_render`), and so that a time field of a
JSON record reads back the time it was written from (`Json.instantReader_ofInstant`).

The text is written in three layers, and each is read back on its own:

* the date of a day counted from 1970 (`civilFromDays`) is a date of the calendar, and counting
  the days to that date gives the day back (`civilFromDays_spec`); the era arithmetic behind it
  splits into the year of a 400-year era (`yearOfEra_spec`) and the month of a year that starts
  in March (`monthOfYear_spec`);
* each field is its number padded with zeros (`toList_padNat`), which the reader's two- and
  four-digit fields read back (`number_padNat`, `year_padNat`);
* the fraction of a second keeps the digits of the nanoseconds up to the last one that is not
  zero, and the reader pads them back to nine (`fraction_nine`).

The text of an instant is then the fields in their order (`toList_render`, through `timeText`),
and reading that layout gives the instant of its date and time of day (`parse_timeText`).
-/

namespace Auction

open Json

/-! ### The calendar -/

/-- A day of a 400-year era, counted from 1 March of its first year, falls in a year of the era
(0 to 399) on a day of that year (0 to 365); the 366th day only comes in a leap year, the year
after the one counted, which is a multiple of 4 and not of 100 unless it ends the era. -/
theorem yearOfEra_spec (doe : Int) (h0 : 0 ≤ doe) (h1 : doe < 146097) :
    let yoe := (doe - doe / 1460 + doe / 36524 - doe / 146096) / 365
    let doy := doe - (365 * yoe + yoe / 4 - yoe / 100)
    0 ≤ yoe ∧ yoe ≤ 399 ∧ 0 ≤ doy ∧ doy ≤ 365 ∧
      (doy = 365 → (yoe + 1) % 4 = 0 ∧ ((yoe + 1) % 100 ≠ 0 ∨ yoe = 399)) := by
  intro yoe doy
  obtain ⟨c, q, r, hdoe, hc0, hc4, hq0, hq24, hr0, hr, hlast, hend⟩ : ∃ c q r,
      doe = 36524 * c + 1461 * q + r ∧ 0 ≤ c ∧ c ≤ 4 ∧ 0 ≤ q ∧ q ≤ 24 ∧ 0 ≤ r ∧ r ≤ 1460 ∧
        (q = 24 → r ≤ 1459) ∧ (c = 4 → q = 0 ∧ r = 0) :=
    ⟨doe / 36524, doe % 36524 / 1461, doe % 36524 % 1461, by omega, by omega, by omega, by omega,
      by omega, by omega, by omega, by omega, by omega⟩
  have hc : doe / 36524 = c := by omega
  by_cases h4 : c = 4
  · obtain ⟨rfl, rfl⟩ := hend h4
    subst h4
    have hy : yoe = 399 := by simp only [yoe, hdoe]; norm_num
    simp only [doy, hy, hdoe]
    norm_num
  have hg : doe / 146096 = 0 := by omega
  by_cases hδ : 1460 ≤ 24 * c + q + r
  · have hk : doe / 1460 = 25 * c + q + 1 := by omega
    have hy : yoe = 100 * c + 4 * q + 3 := by simp only [yoe, hk, hc, hg]; omega
    simp only [doy, hy]
    omega
  · have hk : doe / 1460 = 25 * c + q := by omega
    have hp : r / 365 ≤ 3 := by omega
    have hy : yoe = 100 * c + 4 * q + r / 365 := by simp only [yoe, hk, hc, hg]; omega
    have hy4 : yoe / 4 = 25 * c + q := by omega
    have hy100 : yoe / 100 = c := by omega
    simp only [doy, hy4, hy100]
    omega

/-- A day of a year that starts on 1 March falls in a month of that year (0 for March to 11
for February) on a day of the month from 1; April, June, September and November (1, 3, 6, 8)
have 30 days, and February 28 unless the day is the year's 366th. -/
theorem monthOfYear_spec (doy : Int) (h0 : 0 ≤ doy) (h1 : doy ≤ 365) :
    let mp := (5 * doy + 2) / 153
    let d := doy - (153 * mp + 2) / 5 + 1
    0 ≤ mp ∧ mp ≤ 11 ∧ 1 ≤ d ∧ d ≤ 31 ∧ ((mp = 1 ∨ mp = 3 ∨ mp = 6 ∨ mp = 8) → d ≤ 30) ∧
      (mp = 11 → d ≤ 28 ∨ doy = 365) := by
  intro mp d
  omega

/-- No month has more than 31 days. -/
theorem daysInMonth_le (y : Int) (m : Nat) : daysInMonth y m ≤ 31 := by
  unfold daysInMonth
  split <;> (try split) <;> omega

/-- The date of every day is a date of the calendar, and counting the days to that date gives
the day back. -/
theorem civilFromDays_spec {z y : Int} {m d : Nat} (h : civilFromDays z = (y, m, d)) :
    1 ≤ m ∧ m ≤ 12 ∧ 1 ≤ d ∧ d ≤ daysInMonth y m ∧ daysFromCivil y m d = z := by
  unfold civilFromDays at h
  simp only [Prod.mk.injEq] at h
  obtain ⟨hy, hm, hd⟩ := h
  generalize hera : (z + 719468) / 146097 = era at hy hm hd
  generalize hdoe : z + 719468 - era * 146097 = doe at hy hm hd
  have hdoe0 : 0 ≤ doe := by omega
  have hdoe1 : doe < 146097 := by omega
  obtain ⟨hyoe0, hyoe1, hdoy0, hdoy1, hleap⟩ := yearOfEra_spec doe hdoe0 hdoe1
  generalize (doe - doe / 1460 + doe / 36524 - doe / 146096) / 365 = yoe at *
  generalize hdoy : doe - (365 * yoe + yoe / 4 - yoe / 100) = doy at *
  obtain ⟨hmp0, hmp1, hd0, hd1, h30, hfeb⟩ := monthOfYear_spec doy hdoy0 hdoy1
  generalize (5 * doy + 2) / 153 = mp at *
  have hmInt : (m : Int) = if mp < 10 then mp + 3 else mp - 9 := by split_ifs at hm ⊢ <;> omega
  have hdInt : (d : Int) = doy - (153 * mp + 2) / 5 + 1 := by omega
  have hm1 : 1 ≤ m := by split_ifs at hmInt <;> omega
  have hm12 : m ≤ 12 := by split_ifs at hmInt <;> omega
  refine ⟨hm1, hm12, by omega, ?_, ?_⟩
  · unfold daysInMonth
    split
    · have hmp : mp = 11 := by split_ifs at hmInt <;> omega
      rcases hfeb hmp with h28 | h365
      · split <;> omega
      · obtain ⟨h4, h100⟩ := hleap h365
        have hy' : y = yoe + 1 + era * 400 := by split_ifs at hy hmInt <;> omega
        have hleapY : isLeapYear y = true := by
          simp only [isLeapYear, Bool.and_eq_true, beq_iff_eq, Bool.or_eq_true, bne_iff_ne]
          omega
        rw [if_pos hleapY]
        omega
    all_goals split_ifs at hmInt <;> omega
  · unfold daysFromCivil
    dsimp only
    have hY : (if m ≤ 2 then y - 1 else y) = yoe + era * 400 := by
      split_ifs at hy hmInt ⊢ <;> omega
    have hE : (yoe + era * 400) / 400 = era := by omega
    have hP : (if m > 2 then (m : Int) - 3 else (m : Int) + 9) = mp := by
      split_ifs at hmInt ⊢ <;> omega
    rw [hY, hE, add_sub_cancel_right, hP]
    omega

/-! ### Fields of digits -/

/-- The last `w` decimal digits of a number, most significant first. -/
def padDigits : Nat → Nat → List Char
  | 0, _ => []
  | w + 1, n => padDigits w (n / 10) ++ [Nat.digitChar (n % 10)]

/-- The digits of a number below `10 ^ (w + 1)`, with zeros before them up to `w + 1`
digits, are its last `w + 1` digits. -/
theorem zeros_append_toDigits : ∀ (w : Nat) {n : Nat}, n < 10 ^ (w + 1) →
    List.replicate (w + 1 - (Nat.toDigits 10 n).length) '0' ++ Nat.toDigits 10 n =
      padDigits (w + 1) n
  | 0, n, h => by
    have hn : n < 10 := by simpa using h
    simp [padDigits, Nat.toDigits_of_lt_base hn, Nat.mod_eq_of_lt hn]
  | w + 1, n, h => by
    have ih := zeros_append_toDigits w (n := n / 10) (by rw [pow_succ] at h; omega)
    rw [padDigits, ← ih]
    by_cases hn : n < 10
    · rw [Nat.div_eq_of_lt hn, Nat.toDigits_of_lt_base hn, Nat.toDigits_of_lt_base (by decide),
        Nat.mod_eq_of_lt hn]
      simp [List.replicate_succ']
    · rw [Nat.toDigits_of_base_le (by decide) (by omega), List.length_append,
        List.length_singleton, ← List.append_assoc]
      congr 3
      omega

/-- A number below `10 ^ (w + 1)` padded to `w + 1` digits is its last `w + 1` digits. -/
theorem toList_padNat (w : Nat) {n : Nat} (h : n < 10 ^ (w + 1)) :
    (padNat (w + 1) n).toList = padDigits (w + 1) n := by
  have hrepr : (toString n).toList = Nat.toDigits 10 n := Nat.toList_repr
  rw [padNat, String.toList_append, String.toList_ofList, hrepr, String.length, hrepr,
    zeros_append_toDigits w h]

/-- A padded number is made of digits, whatever its width. -/
theorem isDigit_of_mem_padNat {w n : Nat} {c : Char} (h : c ∈ (padNat w n).toList) :
    c.isDigit := by
  have hrepr : (toString n).toList = Nat.toDigits 10 n := Nat.toList_repr
  rw [padNat, String.toList_append, String.toList_ofList, hrepr, List.mem_append] at h
  rcases h with h | h
  · rw [List.eq_of_mem_replicate h]
    decide
  · exact Nat.isDigit_of_mem_toDigits (by decide) (by decide) h

/-- Two digits written with leading zeros. -/
@[simp] theorem padDigits_two (n : Nat) :
    padDigits 2 n = [Nat.digitChar (n / 10 % 10), Nat.digitChar (n % 10)] := by
  simp [padDigits]

/-- Four digits written with leading zeros. -/
@[simp] theorem padDigits_four (n : Nat) :
    padDigits 4 n = [Nat.digitChar (n / 1000 % 10), Nat.digitChar (n / 100 % 10),
      Nat.digitChar (n / 10 % 10), Nat.digitChar (n % 10)] := by
  simp [padDigits, Nat.div_div_eq_div_mul]

/-- The character of a digit reads back as the digit. -/
theorem digit_digitChar {k : Nat} (h : k < 10) : TimeReader.digit (Nat.digitChar k) = k :=
  Nat.toNat_digitChar_sub_48_of_lt_ten h

/-- Two digits of a number below 100 read back as the number, with or without a fixed width. -/
theorem number_padNat (fixed : Bool) {n : Nat} (h : n < 100) (rest : List Char) :
    TimeReader.number fixed ((padNat 2 n).toList ++ rest) = some (n, rest) := by
  rw [toList_padNat 1 h, padDigits_two]
  simp [TimeReader.number, Nat.isDigit_digitChar, digit_digitChar, Nat.mod_lt]
  omega

/-- Four digits of a year below 10000 are digits that read back as the year. -/
theorem year_padNat {Y : Nat} (hY : Y < 10000) (rest : List Char) :
    ∃ a b c d, (padNat 4 Y).toList ++ rest = a :: b :: c :: d :: rest ∧
      a.isDigit ∧ b.isDigit ∧ c.isDigit ∧ d.isDigit ∧
      TimeReader.digit a * 1000 + TimeReader.digit b * 100 + TimeReader.digit c * 10 +
        TimeReader.digit d = Y := by
  rw [toList_padNat 3 hY, padDigits_four]
  refine ⟨_, _, _, _, rfl, ?_, ?_, ?_, ?_, ?_⟩
  all_goals simp [Nat.isDigit_digitChar, digit_digitChar, Nat.mod_lt]
  omega

/-! ### The fraction of a second -/

/-- The digits of `v` below `10 ^ p`, least significant first, are worth `v % 10 ^ p`. -/
theorem ofDigits_range_digits (v p : Nat) :
    Nat.ofDigits 10 ((List.range p).map fun i => v / 10 ^ i % 10) = v % 10 ^ p := by
  induction p with
  | zero => simp [Nat.mod_one]
  | succ p ih =>
    rw [List.range_succ, List.map_append, Nat.ofDigits_append, ih, List.length_map,
      List.length_range, List.map_singleton, Nat.ofDigits_singleton, Nat.mod_pow_succ]

/-- Digits read most significant first, as the reader does, are worth their little-endian
value read the other way. -/
theorem foldl_reverse_digits (L : List Nat) :
    L.reverse.foldl (fun a d => a * 10 + d) 0 = Nat.ofDigits 10 L := by
  induction L with
  | nil => rfl
  | cons d L ih =>
    rw [List.reverse_cons, List.foldl_append, ih, Nat.ofDigits_cons]
    simp only [List.foldl_cons, List.foldl_nil]
    ring

/-- The character at a digit's code past zero is a digit, read back as that digit. -/
theorem digit_ofNat : ∀ d < 10, (Char.ofNat (48 + d)).isDigit = true ∧
    TimeReader.digit (Char.ofNat (48 + d)) = d := by
  decide

/-- Zeros at the low end of a little-endian digit list stand for a power of ten. -/
theorem ofDigits_dropWhile_zero (L : List Nat) :
    Nat.ofDigits 10 L =
      10 ^ (L.takeWhile (· == 0)).length * Nat.ofDigits 10 (L.dropWhile (· == 0)) := by
  have hzeros : Nat.ofDigits 10 (L.takeWhile (· == 0)) = 0 := by
    have hrep : L.takeWhile (· == 0) = List.replicate _ 0 :=
      List.eq_replicate_iff.mpr ⟨rfl, fun x hx => by simpa using List.mem_takeWhile_imp hx⟩
    rw [hrep, Nat.ofDigits_replicate_zero]
  conv_lhs => rw [← List.takeWhile_append_dropWhile (p := (· == 0)) (l := L)]
  rw [Nat.ofDigits_append, hzeros, zero_add]

/-- Digits written as characters are digit characters, and the reader folds them back into
the number they spell. -/
theorem read_digitChars (ds : List Nat) (h : ∀ x ∈ ds, x < 10) :
    (∀ c ∈ ds.map (fun d => Char.ofNat (48 + d)), c.isDigit) ∧
      (ds.map fun d => Char.ofNat (48 + d)).foldl (fun acc c => acc * 10 + TimeReader.digit c) 0 =
        ds.foldl (fun a x => a * 10 + x) 0 := by
  constructor
  · simp only [List.mem_map]
    rintro c ⟨x, hx, rfl⟩
    exact (digit_ofNat x (h x hx)).1
  · have hmap : (ds.map fun d => Char.ofNat (48 + d)).map TimeReader.digit = ds := by
      rw [List.map_map]
      exact (List.map_congr_left fun x hx => (digit_ofNat x (h x hx)).2).trans (List.map_id' _)
    calc _ = ((ds.map fun d => Char.ofNat (48 + d)).map TimeReader.digit).foldl
            (fun a x => a * 10 + x) 0 := by simp only [List.foldl_map]
      _ = ds.foldl (fun a x => a * 10 + x) 0 := by rw [hmap]

/-- The fraction of a second as the text of a time shows it: nothing for a whole second, and
otherwise a point and digits that read back as the nanoseconds. -/
theorem fraction_nine (v : Nat) (hv : v < 10 ^ 9) :
    ((Duration.fraction v 9).1.toList = [] ∧ v = 0) ∨
      ∃ c cs, (Duration.fraction v 9).1.toList = '.' :: c :: cs ∧ (∀ x ∈ c :: cs, x.isDigit) ∧
        TimeReader.nanosOf (c :: cs) = v := by
  unfold Duration.fraction
  dsimp only
  generalize hdigits : (List.range 9).map (fun i => v / 10 ^ i % 10) = digits
  have hsmall : ∀ d ∈ digits, d < 10 := by
    rw [← hdigits]
    simp only [List.mem_map]
    rintro d ⟨i, -, rfl⟩
    exact Nat.mod_lt _ (by decide)
  have hv' : v = 10 ^ (digits.takeWhile (· == 0)).length *
      Nat.ofDigits 10 (digits.dropWhile (· == 0)) := by
    rw [← ofDigits_dropWhile_zero, ← hdigits, ofDigits_range_digits, Nat.mod_eq_of_lt hv]
  have hlen : (digits.takeWhile (· == 0)).length + (digits.dropWhile (· == 0)).length = 9 := by
    rw [← List.length_append, List.takeWhile_append_dropWhile, ← hdigits]
    simp
  generalize hkept : digits.dropWhile (· == 0) = kept at hv' hlen ⊢
  have hkept_small : ∀ d ∈ kept, d < 10 := fun d hd =>
    hsmall d ((List.dropWhile_sublist _).subset (hkept ▸ hd))
  generalize (digits.takeWhile (· == 0)).length = k at hv' hlen
  rcases hrev : kept.reverse with _ | ⟨d, ds⟩
  · left
    rw [List.reverse_eq_nil_iff] at hrev
    subst hrev
    simp [hv']
  · right
    obtain ⟨hdigit, hfold⟩ := read_digitChars (d :: ds) fun x hx =>
      hkept_small x (List.mem_reverse.mp (hrev ▸ hx))
    have hcount : ds.length + 1 = kept.length := by
      simpa using (congrArg List.length hrev).symm
    refine ⟨Char.ofNat (48 + d), ds.map fun d => Char.ofNat (48 + d), by simp, hdigit, ?_⟩
    rw [show Char.ofNat (48 + d) :: ds.map (fun d => Char.ofNat (48 + d)) =
        (d :: ds).map fun d => Char.ofNat (48 + d) from rfl]
    unfold TimeReader.nanosOf
    dsimp only
    rw [List.take_of_length_le (by simp; omega), hfold, ← hrev, foldl_reverse_digits, hv',
      List.length_map, List.length_reverse, show 9 - kept.length = k by omega, mul_comm, Nat.pow_eq]

/-! ### The text of a time in UTC -/

/-- The RFC 3339 text of a time in UTC, field by field: the year, month and day, the hours,
minutes and seconds of the second `secs` of the day, the fraction, and the zone `Z`. -/
def timeText (Y mo d secs : Nat) (frac : List Char) : List Char :=
  (padNat 4 Y).toList ++ '-' :: ((padNat 2 mo).toList ++ '-' :: ((padNat 2 d).toList ++
    'T' :: ((padNat 2 (secs / 3600)).toList ++ ':' :: ((padNat 2 (secs / 60 % 60)).toList ++
    ':' :: ((padNat 2 (secs % 60)).toList ++ (frac ++ ['Z']))))))

/-- Reading the text of a date of the calendar and a second of its day, with a fraction that
reads as `v` nanoseconds, gives the instant of that date and time in UTC. -/
theorem parse_timeText {Y mo d secs v : Nat} {frac : List Char} (hY : Y < 10000) (hmo1 : 1 ≤ mo)
    (hmo : mo ≤ 12) (hd1 : 1 ≤ d) (hd : d ≤ daysInMonth Y mo) (hsecs : secs < 86400)
    (hfrac : (frac = [] ∧ v = 0) ∨ ∃ c cs, frac = '.' :: c :: cs ∧ (∀ x ∈ c :: cs, x.isDigit) ∧
      TimeReader.nanosOf (c :: cs) = v) :
    Instant.parse (String.ofList (timeText Y mo d secs frac)) =
      .ok (Instant.ofCivil Y mo d (secs / 3600) (secs / 60 % 60) (secs % 60) v) := by
  obtain ⟨a, b, c, e, hsplit, ha, hb, hc, he, hval⟩ := year_padNat hY ('-' :: ((padNat 2 mo).toList ++
      '-' :: ((padNat 2 d).toList ++ 'T' :: ((padNat 2 (secs / 3600)).toList ++
      ':' :: ((padNat 2 (secs / 60 % 60)).toList ++ ':' :: ((padNat 2 (secs % 60)).toList ++
      (frac ++ ['Z'])))))))
  unfold Instant.parse
  rw [String.toList_ofList, timeText, hsplit]
  have hd' : d < 100 := by have := daysInMonth_le Y mo; omega
  simp only [ha, hb, hc, he, hval, Bool.and_self, if_true, TimeReader.separator, pure_bind,
    number_padNat _ (show mo < 100 by omega) _, number_padNat _ hd' _,
    number_padNat _ (show secs / 3600 < 100 by omega) _,
    number_padNat _ (show secs / 60 % 60 < 100 by omega) _,
    number_padNat _ (show secs % 60 < 100 by omega) _]
  have hZ : ¬ ('Z').isDigit := by decide
  obtain ⟨h₁, h₂, h₃, h₄, h₅, h₆, h₇⟩ : mo ≠ 0 ∧ ¬ 12 < mo ∧ ¬ 24 ≤ secs / 3600 ∧
      ¬ 60 ≤ secs / 60 % 60 ∧ ¬ 60 ≤ secs % 60 ∧ d ≠ 0 ∧ ¬ daysInMonth Y mo < d := by omega
  rcases hfrac with ⟨rfl, rfl⟩ | ⟨c', cs, rfl, hdig, hnanos⟩
  · simp [h₁, h₂, h₃, h₄, h₅, h₆, h₇, Instant.ofCivil]
    rfl
  · have hcs : ∀ x ∈ cs, x.isDigit := fun x hx => hdig x (List.mem_cons_of_mem c' hx)
    have htake : (cs ++ ['Z']).takeWhile Char.isDigit = cs := by
      rw [List.takeWhile_append_of_pos hcs]
      simp [hZ]
    have hdrop : (cs ++ ['Z']).dropWhile Char.isDigit = ['Z'] := by
      rw [List.dropWhile_append_of_pos hcs]
      simp [hZ]
    simp [h₁, h₂, h₃, h₄, h₅, h₆, h₇, Instant.ofCivil, htake, hdrop, hnanos,
      hdig c' List.mem_cons_self]
    rfl

/-- The text of an instant in UTC whose year is not negative is its date, from
`civilFromDays`, and the time of its day, laid out as `timeText`. -/
theorem toList_render {t : Instant} (hoff : t.offset = 0) {Y : Int} {mo d : Nat}
    (hc : civilFromDays (t.ns / nanosPerDay - unixEpochDay) = (Y, mo, d)) (hY : 0 ≤ Y) :
    t.render.toList = timeText Y.toNat mo d ((t.ns % nanosPerDay).toNat / 1000000000)
      (Duration.fraction ((t.ns % nanosPerDay).toNat % 1000000000) 9).1.toList := by
  have hwall : t.wallNs = t.ns := by simp [Instant.wallNs, hoff]
  unfold Instant.render
  dsimp only
  rw [hwall, hc]
  rcases Duration.fraction ((t.ns % nanosPerDay).toNat % 1000000000) 9 with ⟨frac, w⟩
  simp [timeText, zoneText, hoff, show ¬ Y < 0 by omega]

/-- An instant whose text the wire keeps exactly: in UTC, in a year of four digits. -/
def Instant.Storable (t : Instant) : Prop := t.offset = 0 ∧ 0 ≤ t.year ∧ t.year ≤ 9999

/-- An instant in UTC whose year is one of 0 to 9999 reads back from its text as itself. -/
theorem Instant.parse_render (t : Instant) (ht : t.Storable) : Instant.parse t.render = .ok t := by
  obtain ⟨hoff, hy0, hy⟩ := ht
  rcases hc : civilFromDays (t.ns / nanosPerDay - unixEpochDay) with ⟨Y, mo, d⟩
  have hyear : t.year = Y := by
    rw [Instant.year, show t.wallNs = t.ns by simp [Instant.wallNs, hoff], hc]
  obtain ⟨hmo1, hmo, hd1, hd, hdays⟩ := civilFromDays_spec hc
  generalize hin : (t.ns % nanosPerDay).toNat = inDay
  have hinDay : inDay < 86400 * 1000000000 := by
    simp only [nanosPerDay] at hin
    omega
  have hfrac := fraction_nine (inDay % 1000000000) (by omega)
  rw [← String.ofList_toList (s := t.render), toList_render hoff hc (by omega), hin,
    parse_timeText (by omega) hmo1 hmo hd1 (by rwa [Int.toNat_of_nonneg (by omega)])
      (by omega) hfrac]
  rcases t with ⟨ns, offset⟩
  dsimp only at hoff hin hdays
  subst hoff
  simp only [Instant.ofCivil, Except.ok.injEq, Instant.mk.injEq, and_true]
  rw [Int.toNat_of_nonneg (by omega), hdays]
  simp only [nanosPerDay] at hin ⊢
  omega

/-! ### Times in JSON -/

/-- A character of the text of a time in UTC. -/
def TimeChar (c : Char) : Prop := c.isDigit ∨ c = '-' ∨ c = 'T' ∨ c = ':' ∨ c = '.' ∨ c = 'Z'

instance (c : Char) : Decidable (TimeChar c) :=
  inferInstanceAs (Decidable (c.isDigit ∨ c = '-' ∨ c = 'T' ∨ c = ':' ∨ c = '.' ∨ c = 'Z'))

/-- The text of a time in UTC holds only the characters of such texts. -/
theorem timeChar_timeText {Y mo d secs : Nat} {frac : List Char}
    (hfrac : ∀ c ∈ frac, c.isDigit ∨ c = '.') : ∀ c ∈ timeText Y mo d secs frac, TimeChar c := by
  have hpad : ∀ (w n : Nat), ∀ c ∈ (padNat w n).toList, TimeChar c :=
    fun w n c hc => .inl (isDigit_of_mem_padNat hc)
  have hfrac' : ∀ c ∈ frac, TimeChar c := fun c hc => by
    rcases hfrac c hc with h | h
    · exact .inl h
    · exact .inr (.inr (.inr (.inr (.inl h))))
  simp only [timeText, List.forall_mem_append, List.forall_mem_cons, List.not_mem_nil,
    IsEmpty.forall_iff, implies_true, and_true]
  exact ⟨hpad _ _, by decide, hpad _ _, by decide, hpad _ _, by decide, hpad _ _, by decide,
    hpad _ _, by decide, hpad _ _, hfrac', by decide⟩

/-- The characters of the text of a time in UTC are written as they are inside a JSON
string. -/
theorem escapeChar_of_timeChar {c : Char} (h : TimeChar c) : escapeChar c = [c] := by
  rcases h with h | rfl | rfl | rfl | rfl | rfl
  · obtain ⟨h₁, h₂⟩ := Decimal.toNat_of_isDigit h
    exact escapeChar_of_range (by omega) h₂
  all_goals decide

/-- The text of a time in UTC is written in a JSON string as it is. -/
theorem flatMap_escapeChar_of_timeChar {l : List Char} (h : ∀ c ∈ l, TimeChar c) :
    l.flatMap escapeChar = l := by
  induction l with
  | nil => rfl
  | cons c rest ih =>
    rw [List.flatMap_cons, escapeChar_of_timeChar (h c List.mem_cons_self),
      ih fun x hx => h x (List.mem_cons_of_mem c hx)]
    rfl

/-- Every character of the text of an instant in UTC whose year is not negative is written as it
is inside a JSON string. -/
theorem timeChar_render {t : Instant} (hoff : t.offset = 0) (hy0 : 0 ≤ t.year) :
    ∀ c ∈ t.render.toList, TimeChar c := by
  rcases hc : civilFromDays (t.ns / nanosPerDay - unixEpochDay) with ⟨Y, mo, d⟩
  have hyear : t.year = Y := by
    rw [Instant.year, show t.wallNs = t.ns by simp [Instant.wallNs, hoff], hc]
  rw [toList_render hoff hc (by omega)]
  apply timeChar_timeText
  rcases fraction_nine ((t.ns % nanosPerDay).toNat % 1000000000) (by omega) with
    ⟨hnil, -⟩ | ⟨c, cs, hcs, hdig, -⟩
  · simp [hnil]
  · rw [hcs]
    rintro x (_ | ⟨_, hx⟩)
    · exact .inr rfl
    · exact .inl (hdig x hx)

namespace Json

/-- A time in UTC whose year is one of 0 to 9999 has its text as its JSON form. -/
theorem ofInstant_of_storable {t : Instant} (ht : t.Storable) : ofInstant t = .str t.render := by
  obtain ⟨hoff, hy0, hy⟩ := ht
  have hstrict : t.strictProblem = none := by
    unfold Instant.strictProblem
    have hrange : (t.year < 0 || t.year > 9999) = false := by simp; omega
    rw [if_neg (by simp [hrange]), if_neg (by simp [hoff])]
  unfold ofInstant
  rw [hstrict]

/-- A time in UTC whose year is one of 0 to 9999, written as JSON, reads back through the reader
of time fields as itself. -/
theorem instantReader_ofInstant (current t : Instant) (ht : t.Storable) (site : Site) :
    instantReader current (Parsed.ofJson (ofInstant t)) site = ⟨t, none⟩ := by
  have hbody : String.ofList (((quote t.render).toList.drop 1).dropLast) = t.render := by
    rw [toList_quote, flatMap_escapeChar_of_timeChar (timeChar_render ht.1 ht.2.1)]
    simp
  rw [ofInstant_of_storable ht, Parsed.ofJson_str]
  simp only [instantReader, hbody, Instant.parse_render t ht]

end Json

end Auction
