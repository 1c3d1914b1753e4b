import Mathlib.Tactic
import Auction.Json.Fields
import Auction.Proofs.Wire.Json

/-!
# Amounts read back from their text

An amount is written in plain positional notation (`Decimal.render`) and read by
`Decimal.parse`. Reading the text of an amount gives back the amount in normal form, the zeros
trailing after the point dropped (`Decimal.parse_render`), as long as its scale is one the
reader's 32-bit exponent reaches; and so an amount field of a JSON record reads back the amount
it was written from (`Json.decimalReader_ofDecimal`).

The text has three shapes: the digits alone for a whole number, the digits with a point inside
them, and `0.` with zeros before the digits when the scale passes the number of digits. The
reader drops the point and counts the digits after it (`parse_point`), or reads the digits as
they are (`parse_whole`); in both cases it finds no exponent, since the text has no `e`.
-/

namespace Auction

namespace Decimal

/-! ### The value of digits -/

/-- Reading digits after a value already read shifts that value by the digits' places. -/
theorem foldl_digit (acc : Nat) (cs : List Char) :
    cs.foldl (fun a c => a * 10 + (c.toNat - '0'.toNat)) acc = acc * 10 ^ cs.length + digitValue cs := by
  induction cs generalizing acc with
  | nil => simp [digitValue]
  | cons c cs ih =>
    simp only [List.foldl_cons, digitValue, List.length_cons]
    rw [ih, ih (0 * 10 + _)]
    ring

/-- The value of two runs of digits is the first shifted by the places of the second, plus the
second. -/
theorem digitValue_append (a b : List Char) :
    digitValue (a ++ b) = digitValue a * 10 ^ b.length + digitValue b := by
  rw [digitValue, List.foldl_append, foldl_digit]
  rfl

/-- A run of zeros has the value zero. -/
theorem digitValue_replicate_zero (n : Nat) : digitValue (List.replicate n '0') = 0 := by
  induction n with
  | zero => rfl
  | succ n ih =>
    rw [List.replicate_succ', digitValue_append, ih]
    rfl

/-- The character of a digit is read back as the digit. -/
theorem digitChar_value : ∀ d < 10, (Nat.digitChar d).toNat - '0'.toNat = d := by decide

/-- The digits of a number read back as the number. -/
theorem digitValue_digitsOf (n : Nat) : digitValue (digitsOf n) = n := by
  induction n using Nat.strong_induction_on with
  | _ n ih =>
    by_cases hn : n < 10
    · rw [digitsOf, Nat.toDigits_of_lt_base hn]
      simp only [digitValue, List.foldl_cons, List.foldl_nil, digitChar_value n hn]
      omega
    · rw [digitsOf, Nat.toDigits_of_base_le (by decide) (by omega), digitValue_append,
        ← digitsOf, ih (n / 10) (by omega)]
      simp only [digitValue, List.foldl_cons, List.foldl_nil, List.length_singleton,
        digitChar_value (n % 10) (Nat.mod_lt _ (by decide))]
      omega

/-- The sign of a written amount. -/
def signChars (neg : Bool) : List Char := if neg then ['-'] else []

/-- A character of a written amount is no exponent mark. -/
theorem not_exponent_mark {c : Char} (h : c.isDigit ∨ c = '-' ∨ c = '.') :
    (c == 'e' || c == 'E') = false := by
  rcases h with h | rfl | rfl
  · have he : c ≠ 'e' := by rintro rfl; revert h; decide
    have hE : c ≠ 'E' := by rintro rfl; revert h; decide
    simp [he, hE]
  · decide
  · decide

/-- Digits hold no point. -/
theorem point_not_mem {ds : List Char} (hd : ∀ c ∈ ds, c.isDigit) : '.' ∉ ds := fun h => by
  have := hd '.' h
  revert this
  decide

/-- A sign holds no point. -/
theorem point_not_mem_sign (neg : Bool) : '.' ∉ signChars neg := by
  cases neg <;> decide

/-- A sign, if any, followed by digits is an optionally signed digit string. -/
theorem isSignedDigits_sign {neg : Bool} {ds : List Char} (hne : ds ≠ [])
    (hd : ∀ c ∈ ds, c.isDigit) : isSignedDigits (signChars neg ++ ds) = true := by
  obtain ⟨c, cs, rfl⟩ := List.exists_cons_of_ne_nil hne
  have hc := hd c (List.mem_cons_self ..)
  have hplus : c ≠ '+' := by rintro rfl; revert hc; decide
  have hminus : c ≠ '-' := by rintro rfl; revert hc; decide
  have hcs : ∀ x ∈ cs, x.isDigit := fun x hx => hd x (List.mem_cons_of_mem c hx)
  cases neg
  · simpa [signChars, isSignedDigits, hplus, hminus, List.all_eq_true, hc] using hcs
  · simpa [signChars, isSignedDigits, List.all_eq_true, hc] using hcs

/-- A sign followed by digits has the value of the digits, negated under a minus. -/
theorem signedValue_sign {neg : Bool} {ds : List Char} (hd : ∀ c ∈ ds, c.isDigit) :
    signedValue (signChars neg ++ ds) =
      if neg then -(digitValue ds : Int) else digitValue ds := by
  cases neg
  · rcases ds with _ | ⟨c, cs⟩
    · rfl
    · have hc := hd c (List.mem_cons_self ..)
      have hplus : c ≠ '+' := by rintro rfl; revert hc; decide
      have hminus : c ≠ '-' := by rintro rfl; revert hc; decide
      simp [signChars, signedValue, hplus, hminus]
  · rfl

/-- Digits with a point inside them read as their value without the point, scaled down by the places
after it. -/
theorem parse_point {neg : Bool} {a b : List Char} (ha : a ≠ []) (hd : ∀ c ∈ a ++ b, c.isDigit)
    (hb : b.length ≤ 2 ^ 31) :
    parse (String.ofList (signChars neg ++ a ++ '.' :: b)) =
      .ok (ofScientific (if neg then -(digitValue (a ++ b) : Int) else digitValue (a ++ b))
        (-(b.length : Int))) := by
  have ha' : ∀ c ∈ a, c.isDigit := fun c hc => hd c (List.mem_append_left b hc)
  have hb' : ∀ c ∈ b, c.isDigit := fun c hc => hd c (List.mem_append_right a hc)
  have hpre : '.' ∉ signChars neg ++ a := by
    simp only [List.mem_append, not_or]
    exact ⟨point_not_mem_sign neg, point_not_mem ha'⟩
  have hE : (signChars neg ++ a ++ '.' :: b).findIdx? (fun c => c == 'e' || c == 'E') = none := by
    rw [List.findIdx?_eq_none_iff]
    intro c hc
    apply not_exponent_mark
    simp only [List.mem_append, List.mem_cons] at hc
    rcases hc with (hc | hc) | hc | hc
    · right; left
      cases neg <;> simp_all [signChars]
    · exact .inl (ha' c hc)
    · exact .inr (.inr hc)
    · exact .inl (hb' c hc)
  have hcount : (signChars neg ++ a ++ '.' :: b).count '.' = 1 := by
    rw [List.count_append, List.count_eq_zero_of_not_mem hpre, List.count_cons_self,
      List.count_eq_zero_of_not_mem (point_not_mem hb')]
  have hidx : (signChars neg ++ a ++ '.' :: b).idxOf? '.' = some (signChars neg ++ a).length := by
    show List.findIdx? _ _ = _
    rw [List.findIdx?_append]
    have hnone : (signChars neg ++ a).findIdx? (· == '.') = none := by
      rw [List.findIdx?_eq_none_iff]
      intro c hc
      simp only [beq_eq_false_iff_ne]
      rintro rfl
      exact hpre hc
    simp [hnone, List.findIdx?_cons]
  have hcut : (signChars neg ++ a ++ '.' :: b).take (signChars neg ++ a).length ++
      (signChars neg ++ a ++ '.' :: b).drop ((signChars neg ++ a).length + 1) =
        signChars neg ++ (a ++ b) := by
    rw [List.take_left' rfl, List.drop_append]
    simp
  have hlen : (signChars neg ++ a ++ '.' :: b).length - ((signChars neg ++ a).length + 1) = b.length := by
    simp; omega
  have hrange : ¬ (-(b.length : Int) < -2147483648 ∨ 2147483647 < -(b.length : Int)) := by
    omega
  simp only [parse, String.toList_ofList, hE, pure_bind, hcount, hidx, hcut, hlen,
    gt_iff_lt, Nat.lt_irrefl, if_false,
    isSignedDigits_sign (List.append_ne_nil_of_left_ne_nil ha b) hd, if_true, Bool.or_eq_true,
    decide_eq_true_eq, signedValue_sign hd, zero_sub]
  rw [if_neg hrange]
  rfl

/-- Digits without a point read as their value. -/
theorem parse_whole {neg : Bool} {ds : List Char} (hne : ds ≠ []) (hd : ∀ c ∈ ds, c.isDigit) :
    parse (String.ofList (signChars neg ++ ds)) =
      .ok (ofScientific (if neg then -(digitValue ds : Int) else digitValue ds) 0) := by
  have hpt : '.' ∉ signChars neg ++ ds := by
    simp only [List.mem_append, not_or]
    exact ⟨point_not_mem_sign neg, point_not_mem hd⟩
  have hE : (signChars neg ++ ds).findIdx? (fun c => c == 'e' || c == 'E') = none := by
    rw [List.findIdx?_eq_none_iff]
    intro c hc
    apply not_exponent_mark
    rcases List.mem_append.mp hc with hc | hc
    · right; left
      cases neg <;> simp_all [signChars]
    · exact .inl (hd c hc)
  have hidx : (signChars neg ++ ds).idxOf? '.' = none := by
    show List.findIdx? _ _ = _
    rw [List.findIdx?_eq_none_iff]
    intro c hc
    simp only [beq_eq_false_iff_ne]
    rintro rfl
    exact hpt hc
  have hrange : ¬ ((0 : Int) < -2147483648 ∨ 2147483647 < (0 : Int)) := by omega
  simp only [parse, String.toList_ofList, hE, pure_bind, List.count_eq_zero_of_not_mem hpt,
    hidx, gt_iff_lt, Nat.not_lt_zero, if_false, isSignedDigits_sign hne hd, if_true,
    Bool.or_eq_true, decide_eq_true_eq, signedValue_sign hd]
  rw [if_neg hrange]
  rfl

/-- Normalizing a value in normal form leaves it as it is. -/
theorem normalize_normalize (a : Int) (s : Nat) :
    normalize (normalize a s).num (normalize a s).scale = normalize a s := by
  induction s generalizing a with
  | zero => rfl
  | succ s ih =>
    rw [normalize]
    split
    · exact ih _
    · rename_i h
      simp [normalize, h]

/-- Normalizing never raises the scale. -/
theorem scale_normalize_le (a : Int) (s : Nat) : (normalize a s).scale ≤ s := by
  induction s generalizing a with
  | zero => simp [normalize]
  | succ s ih =>
    rw [normalize]
    split
    · exact (ih _).trans (Nat.le_succ s)
    · exact le_refl _

/-- A number scaled down by a positive number of places is that number normalized at that scale. -/
theorem ofScientific_neg (v : Int) {s : Nat} (hs : 0 < s) :
    ofScientific v (-(s : Int)) = normalize v s := by
  rw [ofScientific, if_neg (by omega), Int.natAbs_neg, Int.natAbs_natCast]

/-- The written form of an amount reads back as the amount in normal form, when its scale is
one the reader's 32-bit exponent reaches. -/
theorem parse_render (d : Decimal) (h : d.scale ≤ 2 ^ 31) :
    parse (render d) = .ok (normalize d.num d.scale) := by
  have hnormal := normalize_normalize d.num d.scale
  have hs := (scale_normalize_le d.num d.scale).trans h
  unfold render
  dsimp only
  generalize normalize d.num d.scale = n at hnormal hs ⊢
  have hdig : ∀ c ∈ digitsOf n.num.natAbs, c.isDigit := fun c hc =>
    Nat.isDigit_of_mem_toDigits (by decide) (by decide) hc
  have hne : digitsOf n.num.natAbs ≠ [] := Nat.toDigits_ne_nil
  have hsigned : (if decide (n.num < 0) then -(digitValue (digitsOf n.num.natAbs) : Int)
      else digitValue (digitsOf n.num.natAbs)) = n.num := by
    rw [digitValue_digitsOf]
    by_cases hneg : n.num < 0
    · simp only [hneg, decide_true, if_true]
      omega
    · simp only [hneg, decide_false, Bool.false_eq_true, if_false]
      omega
  have hsign : ∀ body : List Char,
      (if n.num < 0 then '-' :: body else body) = signChars (decide (n.num < 0)) ++ body := by
    intro body
    by_cases hneg : n.num < 0 <;> simp [signChars, hneg]
  rw [hsign]
  split_ifs with h0 hlt
  · rw [parse_whole hne hdig, hsigned, ofScientific, if_pos le_rfl]
    rcases n with ⟨num, scale⟩
    dsimp only at h0
    subst h0
    simp [normalize]
  · set ds := digitsOf n.num.natAbs
    have hcut : ds.length - (ds.length - n.scale) = n.scale := by omega
    have ha : ds.take (ds.length - n.scale) ≠ [] := by
      simp only [ne_eq, List.take_eq_nil_iff, not_or]
      exact ⟨by omega, hne⟩
    rw [← List.append_assoc, parse_point ha (by rwa [List.take_append_drop])
        (by rw [List.length_drop, hcut]; exact hs),
      List.take_append_drop, hsigned, List.length_drop, hcut,
      ofScientific_neg _ (Nat.pos_of_ne_zero h0), hnormal]
  · set ds := digitsOf n.num.natAbs
    have hlen : (List.replicate (n.scale - ds.length) '0' ++ ds).length = n.scale := by
      simp only [List.length_append, List.length_replicate]
      omega
    have hzeros : ['0'] ++ (List.replicate (n.scale - ds.length) '0' ++ ds) =
        List.replicate (n.scale - ds.length + 1) '0' ++ ds := rfl
    have hall : ∀ c ∈ ['0'] ++ (List.replicate (n.scale - ds.length) '0' ++ ds), c.isDigit := by
      rw [hzeros]
      intro c hc
      rcases List.mem_append.mp hc with hc | hc
      · rw [(List.mem_replicate.mp hc).2]
        decide
      · exact hdig c hc
    rw [show ('0' :: '.' :: List.replicate (n.scale - ds.length) '0' ++ ds) =
        ['0'] ++ '.' :: (List.replicate (n.scale - ds.length) '0' ++ ds) from rfl,
      ← List.append_assoc, parse_point (List.cons_ne_nil _ _) hall (by rw [hlen]; exact hs),
      hzeros, digitValue_append, digitValue_replicate_zero, zero_mul, zero_add, hsigned, hlen,
      ofScientific_neg _ (Nat.pos_of_ne_zero h0), hnormal]

/-! ### An amount field read back -/

/-- A digit's code point lies between those of `0` and `9`. -/
theorem toNat_of_isDigit {c : Char} (h : c.isDigit) : 48 ≤ c.toNat ∧ c.toNat ≤ 57 := by
  simp only [Char.isDigit, Bool.and_eq_true, decide_eq_true_eq, ge_iff_le,
    UInt32.le_iff_toNat_le] at h
  exact h

/-- A written amount has only digits, the sign and the point. -/
theorem mem_render {d : Decimal} {c : Char} (hc : c ∈ (render d).toList) :
    c.isDigit ∨ c = '-' ∨ c = '.' := by
  unfold render at hc
  simp only [String.toList_ofList] at hc
  generalize normalize d.num d.scale = n at hc
  have hdig : ∀ x ∈ digitsOf n.num.natAbs, x.isDigit := fun x hx =>
    Nat.isDigit_of_mem_toDigits (by decide) (by decide) hx
  have hbody : c ∈ (if n.scale = 0 then digitsOf n.num.natAbs
      else if n.scale < (digitsOf n.num.natAbs).length then
        (digitsOf n.num.natAbs).take ((digitsOf n.num.natAbs).length - n.scale) ++
          '.' :: (digitsOf n.num.natAbs).drop ((digitsOf n.num.natAbs).length - n.scale)
      else '0' :: '.' :: List.replicate (n.scale - (digitsOf n.num.natAbs).length) '0' ++
        digitsOf n.num.natAbs) → c.isDigit ∨ c = '.' := by
    intro hb
    split_ifs at hb
    · exact .inl (hdig c hb)
    · rcases List.mem_append.mp hb with hb | hb
      · exact .inl (hdig c (List.mem_of_mem_take hb))
      · rcases List.mem_cons.mp hb with rfl | hb
        · exact .inr rfl
        · exact .inl (hdig c (List.mem_of_mem_drop hb))
    · rcases List.mem_cons.mp hb with rfl | hb
      · exact .inl (by decide)
      rcases List.mem_cons.mp hb with rfl | hb
      · exact .inr rfl
      rcases List.mem_append.mp hb with hb | hb
      · rw [(List.mem_replicate.mp hb).2]
        exact .inl (by decide)
      · exact .inl (hdig c hb)
  by_cases hneg : n.num < 0
  · rw [if_pos hneg] at hc
    rcases List.mem_cons.mp hc with rfl | hc
    · exact .inr (.inl rfl)
    · exact (hbody hc).imp_right .inr
  · rw [if_neg hneg] at hc
    exact (hbody hc).imp_right .inr

/-- Every amount is written with at least one character. -/
theorem render_ne_nil (d : Decimal) : (render d).toList ≠ [] := by
  unfold render
  simp only [String.toList_ofList]
  have hne : digitsOf (normalize d.num d.scale).num.natAbs ≠ [] := Nat.toDigits_ne_nil
  split_ifs <;> simp_all

end Decimal

namespace Json

/-- The characters from `-` to `9` are written as they are inside a JSON string. -/
theorem escapeChar_of_range {c : Char} (h₁ : 45 ≤ c.toNat) (h₂ : c.toNat ≤ 57) :
    escapeChar c = [c] := by
  have hne : ∀ x : Char, x.toNat < 45 ∨ 57 < x.toNat → c ≠ x := by
    rintro x hx rfl
    omega
  simp [escapeChar, hne '"' (by decide), hne '\\' (by decide), hne '\n' (by decide),
    hne '\r' (by decide), hne '\t' (by decide), hne '<' (by decide), hne '>' (by decide),
    hne '&' (by decide), show c.toNat ≠ 8 by omega, show c.toNat ≠ 12 by omega,
    show ¬ c.toNat < 32 by omega, show c.toNat ≠ 8232 by omega, show c.toNat ≠ 8233 by omega]

/-- A character of a written amount is written as it is inside a JSON string. -/
theorem escapeChar_of_amount {c : Char} (h : c.isDigit ∨ c = '-' ∨ c = '.') :
    escapeChar c = [c] := by
  rcases h with h | rfl | rfl
  · obtain ⟨h₁, h₂⟩ := Decimal.toNat_of_isDigit h
    exact escapeChar_of_range (by omega) h₂
  · exact escapeChar_of_range (by decide) (by decide)
  · exact escapeChar_of_range (by decide) (by decide)

/-- Digits, signs and points are written in a string as they are. -/
theorem flatMap_escapeChar_of_amount {l : List Char}
    (h : ∀ c ∈ l, c.isDigit ∨ c = '-' ∨ c = '.') : l.flatMap escapeChar = l := by
  induction l with
  | nil => rfl
  | cons c rest ih =>
    rw [List.flatMap_cons, escapeChar_of_amount (h c (List.mem_cons_self ..)),
      ih fun x hx => h x (List.mem_cons_of_mem c hx)]
    rfl

/-- The text between the quotes of a written amount is the amount's own text. -/
theorem unquoted_quote_render (d : Decimal) : unquoted (quote d.render) = d.render := by
  have hflat := flatMap_escapeChar_of_amount fun c hc => Decimal.mem_render (d := d) hc
  have hne := Decimal.render_ne_nil d
  have hlen : 0 < d.render.toList.length := List.length_pos_iff.mpr hne
  simp only [unquoted, quote, String.toList_ofList, hflat, List.length_cons, List.length_append,
    List.head?_cons, List.getLast?_cons, List.getLast?_append, Option.some_or,
    List.drop_succ_cons, List.drop_zero, List.dropLast_concat, String.ofList_toList]
  rw [if_pos (by simp; omega)]

/-- An amount written as a JSON string reads back, through the reader of amount fields, as the
amount in normal form, when its scale is one the reader's 32-bit exponent reaches. -/
theorem decimalReader_ofDecimal (current d : Decimal) (h : d.scale ≤ 2 ^ 31) (site : Site) :
    decimalReader current (Parsed.ofJson (ofDecimal d)) site =
      ⟨Decimal.normalize d.num d.scale, none⟩ := by
  have hj : Parsed.ofJson (ofDecimal d) = .str d.render (quote d.render) := rfl
  unfold decimalReader
  rw [hj]
  dsimp only [Parsed.raw]
  rw [unquoted_quote_render, Decimal.parse_render d h]

end Json

end Auction
