import Mathlib.Tactic
import Auction.Json.Parse
import Auction.Json.Decode

/-!
# Reading back what was written

`Json.render` writes a value and `Json.read` reads one; this module proves that reading the text
of a value gives the value back (`read_render`), each string, array and object together with the
exact text it was read from (`Parsed.ofJson`). The values are those whose numbers are integer
literals (`Plain`), which covers every number the service writes; a value with no JSON form is
written as `null` and read as `null`.

The proof follows the reader:

* a string's escapes (`escapeChar`) are each read back as the character they stand for, so the
  body of a quoted string is read whole (`scanString_escaped`);
* an integer literal is read whole by the number reader when a separator or a closing bracket
  follows it (`scanNumber_intLiteral`);
* each kind of value is read from its text by one step of `scanValue`, an element by one step of
  `scanItems` and a member by one step of `scanMembers`; the round trip itself
  (`scanValue_render`, `scanItems_render`, `scanMembers_render`) goes by recursion on the
  value, as `render` does, with fuel enough for the length of the text.

Positions count characters, and the reader's text of a part is the span between the positions
it started and stopped at, so the text kept for a part is the part's own text.

A record is then read member by member into its fields (`recordReader_obj`); a field hands
its member to the reader of its kind (`Field.read_of`), and a text or a flag is read as written
(`textReader_str`, `boolReader_bool`). The readers of amounts and times have their own modules.
-/

namespace Auction

namespace Json

/-! ### Strings -/

/-- Each hexadecimal digit written is read back. -/
theorem hexValue?_hexDigit : ∀ d < 16, hexValue? (hexDigit d) = some d := by decide

/-- The four digits of a `\u` escape are read back as the code point. -/
theorem hex4?_unicodeEscape {n : Nat} (hn : n < 0x10000) :
    hex4? [hexDigit (n / 4096 % 16), hexDigit (n / 256 % 16), hexDigit (n / 16 % 16),
      hexDigit (n % 16)] = some n := by
  simp only [hex4?, hexValue?_hexDigit _ (Nat.mod_lt _ (by decide))]
  show some _ = some n
  congr 1
  omega

/-- A list is at most as long as what a map to non-empty lists makes of it. -/
theorem length_le_length_flatMap {α β : Type} {f : α → List β} (hf : ∀ a, f a ≠ [])
    (l : List α) : l.length ≤ (l.flatMap f).length := by
  induction l with
  | nil => simp
  | cons a l ih =>
    have := List.length_pos_of_ne_nil (hf a)
    simp only [List.flatMap_cons, List.length_append, List.length_cons]
    omega

/-- Every character is written as at least one byte. -/
theorem utf8_ne_nil (c : Char) : Text.utf8 c ≠ [] := by
  unfold Text.utf8
  dsimp only
  split_ifs <;> simp

/-- Every character is written as at least one character inside a string. -/
theorem escapeChar_ne_nil (c : Char) : escapeChar c ≠ [] := by
  unfold escapeChar
  split_ifs <;> simp [unicodeEscape]

/-- A `\u` escape of a character below the surrogates is read back as that character. -/
theorem scanString_unicodeEscape (fuel : Nat) (acc : List Char) (c : Char) (rest : List Char)
    (pos : Nat) (hc : c.toNat < 0xD800) :
    scanString (fuel + 1) acc ⟨unicodeEscape c.toNat ++ rest, pos⟩ =
      scanString fuel (c :: acc) ⟨rest, pos + 6⟩ := by
  have hdec : decodeEscape c.toNat rest = (c, 0) := by
    simp only [decodeEscape, Bool.and_eq_true, decide_eq_true_eq]
    rw [if_neg (by omega), if_neg (by omega), Char.ofNat_toNat]
  have hbytes : ¬ (List.take 6 (Text.utf8Bytes (unicodeEscape c.toNat))).length < 6 := by
    have := length_le_length_flatMap utf8_ne_nil (unicodeEscape c.toNat)
    rw [List.length_take]
    simp only [Text.utf8Bytes, unicodeEscape, List.length_cons, List.length_nil] at this ⊢
    omega
  simp only [unicodeEscape, List.cons_append, List.nil_append] at hbytes ⊢
  rw [scanString]
  simp only [Char.reduceEq, reduceIte, List.take_succ_cons, List.take_zero, List.drop_succ_cons,
    List.drop_zero]
  rw [if_neg hbytes, hex4?_unicodeEscape (by omega)]
  simp only [hdec, List.drop_zero, Nat.add_zero]

/-- The escape of a character is read back as the character. -/
theorem scanString_escapeChar (fuel : Nat) (acc : List Char) (c : Char) (rest : List Char)
    (pos : Nat) :
    scanString (fuel + 1) acc ⟨escapeChar c ++ rest, pos⟩ =
      scanString fuel (c :: acc) ⟨rest, pos + (escapeChar c).length⟩ := by
  unfold escapeChar
  split_ifs with h₁ h₂ h₃ h₄ h₅ h₆ h₇ h₈
  · subst h₁
    rfl
  · subst h₂
    rfl
  · subst h₃
    rfl
  · subst h₄
    rfl
  · subst h₅
    rfl
  · rw [← Char.ofNat_toNat c, h₆]
    rfl
  · rw [← Char.ofNat_toNat c, h₇]
    rfl
  · have hc : c.toNat < 0xD800 := by
      simp only [Bool.or_eq_true, decide_eq_true_eq] at h₈
      rcases h₈ with ((((h | rfl) | rfl) | rfl) | h) | h <;> first | omega | decide
    rw [scanString_unicodeEscape _ _ _ _ _ hc]
    rfl
  · simp only [Bool.or_eq_true, decide_eq_true_eq, not_or] at h₈
    simp [scanString, h₁, h₂, h₈.1.1.1.1.1]

/-- The escaped body of a string is read back whole, up to its closing quote. -/
theorem scanString_escaped (cs : List Char) : ∀ (fuel : Nat) (acc rest : List Char) (pos : Nat),
    cs.length < fuel →
    scanString fuel acc ⟨cs.flatMap escapeChar ++ '"' :: rest, pos⟩ =
      .ok (String.ofList (acc.reverse ++ cs), ⟨rest, pos + (cs.flatMap escapeChar).length + 1⟩) := by
  induction cs with
  | nil =>
    intro fuel acc rest pos hf
    obtain ⟨fuel, rfl⟩ : ∃ f, fuel = f + 1 := ⟨fuel - 1, by simp at hf; omega⟩
    simp [scanString]
  | cons c cs ih =>
    intro fuel acc rest pos hf
    obtain ⟨fuel, rfl⟩ : ∃ f, fuel = f + 1 := ⟨fuel - 1, by simp at hf; omega⟩
    rw [List.flatMap_cons, List.append_assoc, scanString_escapeChar,
      ih fuel (c :: acc) rest _ (by simp at hf; omega)]
    simp only [List.reverse_cons, List.append_assoc, List.singleton_append, List.length_append]
    congr 3
    omega

/-! ### Integer literals -/

/-- The literal of an integer: an optional minus sign, then the digits with no leading zero. -/
def IntLiteral (lit : String) : Prop :=
  ∃ (neg : Bool) (n : Nat), lit.toList = (if neg then ['-'] else []) ++ Nat.toDigits 10 n

/-- The digits of a number start with a digit, which is `0` only for zero itself. -/
theorem toDigits_cons (n : Nat) :
    ∃ d ds, Nat.toDigits 10 n = d :: ds ∧ d.isDigit ∧ (d = '0' → n = 0 ∧ ds = []) := by
  induction n using Nat.strong_induction_on with
  | _ n ih =>
    by_cases hn : n < 10
    · refine ⟨n.digitChar, [], Nat.toDigits_of_lt_base hn, ?_, fun h => ⟨?_, rfl⟩⟩
      · simp [Nat.isDigit_digitChar, hn]
      · simpa using h
    · obtain ⟨d, ds, hds, hd, hzero⟩ := ih (n / 10) (by omega)
      refine ⟨d, ds ++ [(n % 10).digitChar], ?_, hd, fun h => absurd (hzero h).1 (by omega)⟩
      rw [Nat.toDigits_of_base_le (by decide) (by omega), hds, List.cons_append]

/-- Digits followed by a character that is no digit split there. -/
theorem spanDigits_digits {ds rest : List Char} (hds : ∀ c ∈ ds, c.isDigit)
    (hr : ∀ c ∈ rest.head?, ¬ c.isDigit) : spanDigits (ds ++ rest) = (ds, rest) := by
  have htake : rest.takeWhile Char.isDigit = [] := by
    rcases rest with _ | ⟨c, r⟩
    · rfl
    · simp [hr c rfl]
  have hdrop : rest.dropWhile Char.isDigit = rest := by
    rcases rest with _ | ⟨c, r⟩
    · rfl
    · simp [hr c rfl]
  simp [spanDigits, List.takeWhile_append_of_pos hds, List.dropWhile_append_of_pos hds, htake,
    hdrop]

/-- Reading a number takes an integer literal whole, when what follows cannot continue it. -/
theorem scanNumber_intLiteral {lit : String} (hl : IntLiteral lit) {rest : List Char}
    (hr : ∀ c ∈ rest.head?, ¬ c.isDigit ∧ c ≠ '.' ∧ c ≠ 'e' ∧ c ≠ 'E') :
    scanNumber (lit.toList ++ rest) = .ok (lit, rest) := by
  obtain ⟨neg, n, hlit⟩ := hl
  obtain ⟨d, ds, hds, hd, hzero⟩ := toDigits_cons n
  have hall : ∀ c ∈ d :: ds, c.isDigit := fun c hc =>
    Nat.isDigit_of_mem_toDigits (by decide) (by decide) (hds ▸ hc)
  have hdm : d ≠ '-' := by
    rintro rfl
    revert hd
    decide
  have hspan := spanDigits_digits hall fun c hc => (hr c hc).1
  have hlit' : lit = String.ofList ((if neg then ['-'] else []) ++ d :: ds) := by
    rw [← hds, ← hlit, String.ofList_toList]
  rw [hlit, hds]
  subst hlit'
  by_cases h0 : d = '0'
  · obtain ⟨rfl, rfl⟩ := hzero h0
    subst h0
    rcases rest with _ | ⟨c, r⟩
    · cases neg <;> rfl
    · obtain ⟨hc, hdot, he, hE⟩ := hr c rfl
      cases neg <;> simp [scanNumber, hdot, he, hE] <;> rfl
  · rw [List.cons_append] at hspan
    rcases rest with _ | ⟨c, r⟩
    · rw [List.append_nil] at hspan
      cases neg <;> simp [scanNumber, hdm, hd, hspan] <;> rfl
    · obtain ⟨hc, hdot, he, hE⟩ := hr c rfl
      cases neg <;> simp [scanNumber, hdm, hd, hspan, hdot, he, hE] <;> rfl

/-- A digit opens no value of another kind and is no blank. -/
theorem digit_opens_number {d : Char} (hd : d.isDigit) :
    d ≠ '{' ∧ d ≠ '[' ∧ d ≠ '"' ∧ d ≠ 't' ∧ d ≠ 'f' ∧ d ≠ 'n' ∧ isBlank d = false := by
  refine ⟨?_, ?_, ?_, ?_, ?_, ?_, ?_⟩ <;>
  · first
    | (rintro rfl; revert hd; decide)
    | (simp only [isBlank, Bool.or_eq_false_iff, decide_eq_false_iff_not]
       refine ⟨⟨⟨?_, ?_⟩, ?_⟩, ?_⟩ <;> (rintro rfl; revert hd; decide))

/-! ### The texts of values -/

mutual
/-- Values whose every number is an integer literal. -/
def Plain : Json → Prop
  | .number lit => IntLiteral lit
  | .arr items => ItemsPlain items
  | .obj fields => FieldsPlain fields
  | _ => True

/-- Elements whose every number is an integer literal. -/
def ItemsPlain : List Json → Prop
  | [] => True
  | x :: rest => Plain x ∧ ItemsPlain rest

/-- Members whose every number is an integer literal. -/
def FieldsPlain : List (String × Json) → Prop
  | [] => True
  | (_, v) :: rest => Plain v ∧ FieldsPlain rest
end

/-- The members of two lists have integer numbers exactly when those of each list do. -/
theorem fieldsPlain_append (a b : List (String × Json)) :
    FieldsPlain (a ++ b) ↔ FieldsPlain a ∧ FieldsPlain b := by
  induction a with
  | nil => simp [FieldsPlain]
  | cons x rest ih =>
    obtain ⟨k, v⟩ := x
    simp only [List.cons_append, FieldsPlain, ih, and_assoc]

mutual
/-- The value read from the text of a value: each string, array and object with its own text. -/
def Parsed.ofJson : Json → Parsed
  | .null => .null
  | .bool b => .bool b
  | .number lit => .number lit
  | .str s => .str s (quote s)
  | .arr items => .arr (Parsed.ofItems items) (render (.arr items))
  | .obj fields => .obj (Parsed.ofFields fields) (render (.obj fields))
  | .unencodable _ => .null

/-- The elements read from the text of an array. -/
def Parsed.ofItems : List Json → List Parsed
  | [] => []
  | x :: rest => Parsed.ofJson x :: Parsed.ofItems rest

/-- The members read from the text of an object. -/
def Parsed.ofFields : List (String × Json) → List (String × Parsed)
  | [] => []
  | (k, v) :: rest => (k, Parsed.ofJson v) :: Parsed.ofFields rest
end

/-- A string reads back as itself, with its quoted text. -/
@[simp] theorem Parsed.ofJson_str (s : String) : Parsed.ofJson (.str s) = .str s (quote s) := by
  simp [Parsed.ofJson]

/-- A flag reads back as itself. -/
@[simp] theorem Parsed.ofJson_bool (b : Bool) : Parsed.ofJson (.bool b) = .bool b := by
  simp [Parsed.ofJson]

/-- An object reads back as its members read back, with its text. -/
@[simp] theorem Parsed.ofJson_obj (fields : List (String × Json)) :
    Parsed.ofJson (.obj fields) = .obj (Parsed.ofFields fields) (render (.obj fields)) := by
  simp [Parsed.ofJson]

/-- No members read back as none. -/
@[simp] theorem Parsed.ofFields_nil : Parsed.ofFields [] = [] := by
  simp [Parsed.ofFields]

/-- Members read back one by one, each under its name. -/
@[simp] theorem Parsed.ofFields_cons (k : String) (v : Json) (rest : List (String × Json)) :
    Parsed.ofFields ((k, v) :: rest) = (k, Parsed.ofJson v) :: Parsed.ofFields rest := by
  simp [Parsed.ofFields]

/-- Two lists of members read back as the first, then the second. -/
@[simp] theorem Parsed.ofFields_append (a b : List (String × Json)) :
    Parsed.ofFields (a ++ b) = Parsed.ofFields a ++ Parsed.ofFields b := by
  induction a with
  | nil => simp
  | cons x rest ih =>
    obtain ⟨k, v⟩ := x
    simp [ih]

/-! The characters of the texts `render` writes. -/

/-- A quoted string is its escaped characters between quotes. -/
theorem toList_quote (s : String) :
    (quote s).toList = '"' :: (s.toList.flatMap escapeChar ++ ['"']) := by
  simp [quote]

/-- An array is its items between brackets. -/
theorem toList_render_arr (items : List Json) :
    (render (.arr items)).toList = '[' :: ((renderItems items).toList ++ [']']) := by
  simp [render]

/-- An object is its members between braces. -/
theorem toList_render_obj (fields : List (String × Json)) :
    (render (.obj fields)).toList = '{' :: ((renderFields fields).toList ++ ['}']) := by
  simp [render]

/-- Items are written one after the other, with commas between them. -/
theorem toList_renderItems_cons_cons (x y : Json) (rest : List Json) :
    (renderItems (x :: y :: rest)).toList =
      (render x).toList ++ ',' :: (renderItems (y :: rest)).toList := by
  simp [renderItems]

/-- Members are written one after the other, each name quoted before a colon, with commas between
them. -/
theorem toList_renderFields_cons_cons (k : String) (v : Json) (f : String × Json)
    (rest : List (String × Json)) :
    (renderFields ((k, v) :: f :: rest)).toList =
      (quote k).toList ++ ':' :: ((render v).toList ++ ',' :: (renderFields (f :: rest)).toList) := by
  simp [renderFields]

/-- The first character of the text of a value: no blank, and nothing that closes or separates. -/
theorem render_head {j : Json} (hj : Plain j) :
    ∃ c cs, (render j).toList = c :: cs ∧ isBlank c = false ∧ c ≠ ']' ∧ c ≠ '}' ∧ c ≠ ',' := by
  cases j with
  | number lit =>
    obtain ⟨neg, n, hlit⟩ := (show IntLiteral lit from hj)
    obtain ⟨d, ds, hds, hd, -⟩ := toDigits_cons n
    obtain ⟨-, -, -, -, -, -, hb⟩ := digit_opens_number hd
    cases neg
    · refine ⟨d, ds, by simp [render, hlit, hds], hb, ?_, ?_, ?_⟩ <;> (rintro rfl; revert hd; decide)
    · exact ⟨'-', d :: ds, by simp [render, hlit, hds], by decide, by decide, by decide, by decide⟩
  | str s =>
    exact ⟨'"', s.toList.flatMap escapeChar ++ ['"'], by simp [render, toList_quote], by decide,
      by decide, by decide, by decide⟩
  | arr items => exact ⟨'[', _, toList_render_arr items, by decide, by decide, by decide, by decide⟩
  | obj fields =>
    exact ⟨'{', _, toList_render_obj fields, by decide, by decide, by decide, by decide⟩
  | null => exact ⟨'n', ['u', 'l', 'l'], by simp [render], by decide, by decide, by decide, by decide⟩
  | bool b =>
    cases b
    · exact ⟨'f', ['a', 'l', 's', 'e'], by simp [render], by decide, by decide, by decide, by decide⟩
    · exact ⟨'t', ['r', 'u', 'e'], by simp [render], by decide, by decide, by decide, by decide⟩
  | unencodable r =>
    exact ⟨'n', ['u', 'l', 'l'], by simp [render], by decide, by decide, by decide, by decide⟩

/-- The text from a cursor up to a later position is what the cursor passed over. -/
theorem upTo_append (l rest : List Char) (pos : Nat) :
    Cursor.upTo ⟨l ++ rest, pos⟩ (pos + l.length) = String.ofList l := by
  simp [Cursor.upTo]

/-- The text of a part from its opening character to its closing one. -/
theorem upTo_enclosed (o c : Char) (body rest : List Char) (pos : Nat) :
    Cursor.upTo ⟨o :: (body ++ c :: rest), pos⟩ (pos + 1 + body.length + 1) =
      String.ofList (o :: (body ++ [c])) := by
  have := upTo_append (o :: (body ++ [c])) rest pos
  simp only [List.cons_append, List.append_assoc, List.length_cons, List.length_append,
    List.length_nil, List.nil_append] at this
  rw [← this]
  congr 1
  omega

/-! ### Reading each kind of value -/

/-- What may follow a value in the text of a larger one, or end the text. -/
def Follows (rest : List Char) : Prop := ∀ c ∈ rest.head?, c = ',' ∨ c = ']' ∨ c = '}'

/-- Skipping blanks stops at once before a character that is not blank. -/
theorem skipBlank_of_not_blank {c : Char} {cs : List Char} {pos : Nat} (hc : isBlank c = false) :
    Cursor.skipBlank ⟨c :: cs, pos⟩ = ⟨c :: cs, pos⟩ := by
  simp [Cursor.skipBlank, skipBlankFrom, hc]

/-- `null`, and also a value with no JSON form, which is written as `null`. -/
theorem scanValue_null (fuel : Nat) (rest : List Char) (pos : Nat) :
    scanValue (fuel + 1) ⟨(render .null).toList ++ rest, pos⟩ = .ok (.null, ⟨rest, pos + 4⟩) := by
  simp [render, scanValue, Cursor.skipBlank, skipBlankFrom, isBlank, scanWord]

/-- A boolean. -/
theorem scanValue_bool (fuel : Nat) (b : Bool) (rest : List Char) (pos : Nat) :
    scanValue (fuel + 1) ⟨(render (.bool b)).toList ++ rest, pos⟩ =
      .ok (.bool b, ⟨rest, pos + (render (.bool b)).toList.length⟩) := by
  cases b <;> simp [render, scanValue, Cursor.skipBlank, skipBlankFrom, isBlank, scanWord]

/-- An integer literal, followed by a separator, a closing bracket or the end. -/
theorem scanValue_number (fuel : Nat) {lit : String} (hl : IntLiteral lit) {rest : List Char}
    (hr : Follows rest) (pos : Nat) :
    scanValue (fuel + 1) ⟨(render (.number lit)).toList ++ rest, pos⟩ =
      .ok (.number lit, ⟨rest, pos + (render (.number lit)).toList.length⟩) := by
  have hn := scanNumber_intLiteral hl fun c hc => by
    rcases hr c hc with rfl | rfl | rfl <;> decide
  obtain ⟨neg, n, hlit⟩ := hl
  obtain ⟨d, ds, hds, hd, -⟩ := toDigits_cons n
  obtain ⟨h₁, h₂, h₃, h₄, h₅, h₆, hb⟩ := digit_opens_number hd
  simp only [render]
  rw [hlit, hds] at hn ⊢
  have hlen : lit.length = ((if neg then ['-'] else []) ++ d :: ds).length := by
    rw [← String.length_toList, hlit, hds]
  cases neg
  · simp only [Bool.false_eq_true, if_false, List.nil_append, List.cons_append] at hn hlen ⊢
    simp [scanValue, skipBlank_of_not_blank hb, h₁, h₂, h₃, h₄, h₅, h₆, hd, hn, hlen]
  · simp only [if_true, List.cons_append, List.nil_append] at hn hlen ⊢
    simp [scanValue, Cursor.skipBlank, skipBlankFrom, isBlank, hn, hlen]

/-- A string. -/
theorem scanValue_str (fuel : Nat) (s : String) (rest : List Char) (pos : Nat) :
    scanValue (fuel + 1) ⟨(render (.str s)).toList ++ rest, pos⟩ =
      .ok (.str s (quote s), ⟨rest, pos + (render (.str s)).length⟩) := by
  set L := s.toList.flatMap escapeChar
  have hlen : s.toList.length ≤ L.length := length_le_length_flatMap escapeChar_ne_nil s.toList
  have hscan := scanString_escaped s.toList ((L ++ '"' :: rest).length + 1) [] rest (pos + 1)
    (by simp only [List.length_append, List.length_cons]; omega)
  have hq : (render (.str s)).length = L.length + 2 := by
    simp [render, ← String.length_toList, toList_quote, L]
  have hup : Cursor.upTo ⟨'"' :: (L ++ '"' :: rest), pos⟩ (pos + 1 + L.length + 1) = quote s :=
    upTo_enclosed '"' '"' L rest pos
  rw [hq]
  simp only [render, toList_quote, List.cons_append, List.append_assoc, List.nil_append]
  rw [scanValue, skipBlank_of_not_blank (by decide)]
  simp only [if_neg (show '"' ≠ '{' by decide), if_neg (show '"' ≠ '[' by decide), if_true]
  rw [hscan]
  simp only [List.reverse_nil, List.nil_append, String.ofList_toList]
  show Except.ok (Parsed.str s (Cursor.upTo _ (pos + 1 + L.length + 1)), _) = _
  rw [hup]
  simp only [Except.ok.injEq, Prod.mk.injEq, Cursor.mk.injEq, true_and, L]
  omega

/-- One element of an array: after it, a comma reads on and a bracket closes the array. -/
theorem scanItems_cons {fuel : Nat} {acc : List Parsed} {first : Bool} {c : Char}
    {cs : List Char} {pos : Nat} {v : Parsed} {d : Char} {more : List Char} {q : Nat}
    (hb : isBlank c = false) (hc : c ≠ ']')
    (hv : scanValue fuel ⟨c :: cs, pos⟩ = .ok (v, ⟨d :: more, q⟩)) (hd : isBlank d = false) :
    scanItems (fuel + 1) acc first ⟨c :: cs, pos⟩ =
      if d = ',' then scanItems fuel (v :: acc) false ⟨more, q + 1⟩
      else if d = ']' then .ok ((v :: acc).reverse, ⟨more, q + 1⟩)
      else .error (.invalidChar d .afterElement) := by
  rw [scanItems]
  · rw [skipBlank_of_not_blank hb, hv]
    dsimp only [bind, Except.bind]
    rw [skipBlank_of_not_blank hd]
  · intro rest _ h
    rw [skipBlank_of_not_blank hb, List.cons.injEq] at h
    exact hc h.1

/-- One member of an object: its name, a colon and its value; after it, a comma reads on and a
brace closes the object. -/
theorem scanMembers_cons {fuel : Nat} {acc : List (String × Parsed)} {first : Bool} (key : String)
    {vs : List Char} {pos : Nat} {v : Parsed} {e : Char} {more : List Char} {q : Nat}
    (hv : scanValue fuel ⟨vs, pos + (quote key).length + 1⟩ = .ok (v, ⟨e :: more, q⟩))
    (he : isBlank e = false) :
    scanMembers (fuel + 1) acc first ⟨(quote key).toList ++ ':' :: vs, pos⟩ =
      if e = ',' then scanMembers fuel ((key, v) :: acc) false ⟨more, q + 1⟩
      else if e = '}' then .ok (((key, v) :: acc).reverse, ⟨more, q + 1⟩)
      else .error (.invalidChar e .afterMember) := by
  set K := key.toList.flatMap escapeChar
  have hlen : key.toList.length ≤ K.length := length_le_length_flatMap escapeChar_ne_nil key.toList
  have hq : (quote key).length = K.length + 2 := by
    simp [← String.length_toList, toList_quote, K]
  have hscan := scanString_escaped key.toList ((K ++ '"' :: ':' :: vs).length + 1) [] (':' :: vs)
    (pos + 1) (by simp only [List.length_append, List.length_cons]; omega)
  rw [hq] at hv
  simp only [toList_quote, List.cons_append, List.append_assoc, List.nil_append]
  rw [scanMembers, skipBlank_of_not_blank (by decide)]
  simp only [Bool.and_eq_true, decide_eq_true_eq, show ('"' : Char) ≠ '}' by decide, and_false,
    if_false, if_true]
  rw [hscan]
  dsimp only [bind, Except.bind]
  rw [skipBlank_of_not_blank (by decide)]
  simp only [if_true, List.reverse_nil, List.nil_append, String.ofList_toList]
  rw [show pos + 1 + K.length + 1 + 1 = pos + (K.length + 2) + 1 by omega, hv]
  dsimp only [bind, Except.bind]
  rw [skipBlank_of_not_blank he]

/-- An array whose elements read to `items`. -/
theorem scanValue_arr {fuel : Nat} {body rest : List Char} {pos : Nat} {items : List Parsed}
    (hI : scanItems fuel [] true ⟨body ++ ']' :: rest, pos + 1⟩ =
      .ok (items, ⟨rest, pos + 1 + body.length + 1⟩)) :
    scanValue (fuel + 1) ⟨'[' :: (body ++ ']' :: rest), pos⟩ =
      .ok (.arr items (String.ofList ('[' :: (body ++ [']']))), ⟨rest, pos + 1 + body.length + 1⟩) := by
  rw [scanValue, skipBlank_of_not_blank (by decide)]
  simp only [if_neg (show '[' ≠ '{' by decide), if_true]
  rw [hI]
  dsimp only [bind, Except.bind]
  rw [upTo_enclosed]
  rfl

/-- An object whose members read to `members`. -/
theorem scanValue_obj {fuel : Nat} {body rest : List Char} {pos : Nat}
    {members : List (String × Parsed)}
    (hM : scanMembers fuel [] true ⟨body ++ '}' :: rest, pos + 1⟩ =
      .ok (members, ⟨rest, pos + 1 + body.length + 1⟩)) :
    scanValue (fuel + 1) ⟨'{' :: (body ++ '}' :: rest), pos⟩ =
      .ok (.obj members (String.ofList ('{' :: (body ++ ['}']))),
        ⟨rest, pos + 1 + body.length + 1⟩) := by
  rw [scanValue, skipBlank_of_not_blank (by decide)]
  simp only [if_true]
  rw [hM]
  dsimp only [bind, Except.bind]
  rw [upTo_enclosed]
  rfl

mutual
/-- The text of a value reads back as the value, each part with its own text, and the reader
stops right after it. -/
theorem scanValue_render (j : Json) (hj : Plain j) (fuel : Nat) (rest : List Char) (pos : Nat)
    (hf : (render j).length < fuel) (hr : Follows rest) :
    scanValue fuel ⟨(render j).toList ++ rest, pos⟩ =
      .ok (Parsed.ofJson j, ⟨rest, pos + (render j).length⟩) := by
  obtain ⟨fuel, rfl⟩ : ∃ f, fuel = f + 1 := ⟨fuel - 1, by omega⟩
  match j, hj with
  | .null, _ => exact scanValue_null fuel rest pos
  | .unencodable r, _ =>
    rw [show render (.unencodable r) = render .null by simp [render],
      show Parsed.ofJson (.unencodable r) = .null by simp [Parsed.ofJson]]
    exact scanValue_null fuel rest pos
  | .bool b, _ => rw [scanValue_bool, String.length_toList]; rfl
  | .number lit, hl => rw [scanValue_number fuel hl hr, String.length_toList]; rfl
  | .str s, _ => exact scanValue_str fuel s rest pos
  | .arr items, hj =>
    rw [Plain] at hj
    have hlen : (render (.arr items)).length = (renderItems items).length + 2 := by
      rw [← String.length_toList, toList_render_arr]
      simp [String.length_toList]
    have hI : scanItems fuel [] true ⟨(renderItems items).toList ++ ']' :: rest, pos + 1⟩ =
        .ok (Parsed.ofItems items, ⟨rest, pos + 1 + (renderItems items).toList.length + 1⟩) := by
      cases items with
      | nil =>
        obtain ⟨fuel, rfl⟩ : ∃ f, fuel = f + 1 := ⟨fuel - 1, by omega⟩
        simp [renderItems, scanItems, Cursor.skipBlank, skipBlankFrom, isBlank, Parsed.ofItems]
      | cons x xs =>
        simpa [String.length_toList] using
          scanItems_render (x :: xs) (List.cons_ne_nil x xs) hj fuel [] true rest (pos + 1)
            (by omega)
    have hraw : String.ofList ('[' :: ((renderItems items).toList ++ [']'])) = render (.arr items) := by
      rw [← toList_render_arr, String.ofList_toList]
    rw [toList_render_arr, List.cons_append, List.append_assoc, List.singleton_append, scanValue_arr hI, hraw, hlen]
    simp only [Parsed.ofJson, String.length_toList, Except.ok.injEq, Prod.mk.injEq, Cursor.mk.injEq, true_and]
    omega
  | .obj fields, hj =>
    rw [Plain] at hj
    have hlen : (render (.obj fields)).length = (renderFields fields).length + 2 := by
      rw [← String.length_toList, toList_render_obj]
      simp [String.length_toList]
    have hM : scanMembers fuel [] true ⟨(renderFields fields).toList ++ '}' :: rest, pos + 1⟩ =
        .ok (Parsed.ofFields fields, ⟨rest, pos + 1 + (renderFields fields).toList.length + 1⟩) := by
      cases fields with
      | nil =>
        obtain ⟨fuel, rfl⟩ : ∃ f, fuel = f + 1 := ⟨fuel - 1, by omega⟩
        simp [renderFields, scanMembers, Cursor.skipBlank, skipBlankFrom, isBlank, Parsed.ofFields]
      | cons f fs =>
        simpa [String.length_toList] using
          scanMembers_render (f :: fs) (List.cons_ne_nil f fs) hj fuel [] true rest (pos + 1)
            (by omega)
    have hraw : String.ofList ('{' :: ((renderFields fields).toList ++ ['}'])) =
        render (.obj fields) := by
      rw [← toList_render_obj, String.ofList_toList]
    rw [toList_render_obj, List.cons_append, List.append_assoc, List.singleton_append,
      scanValue_obj hM, hraw, hlen]
    simp only [Parsed.ofJson, String.length_toList, Except.ok.injEq, Prod.mk.injEq,
      Cursor.mk.injEq, true_and]
    omega
termination_by structural j

/-- The text of items, followed by the closing bracket, is read as the items, up to that bracket. -/
theorem scanItems_render (items : List Json) (hne : items ≠ []) (hp : ItemsPlain items)
    (fuel : Nat) (acc : List Parsed) (first : Bool) (rest : List Char) (pos : Nat)
    (hf : (renderItems items).length + 1 < fuel) :
    scanItems fuel acc first ⟨(renderItems items).toList ++ ']' :: rest, pos⟩ =
      .ok (acc.reverse ++ Parsed.ofItems items, ⟨rest, pos + (renderItems items).length + 1⟩) := by
  obtain ⟨fuel, rfl⟩ : ∃ f, fuel = f + 1 := ⟨fuel - 1, by omega⟩
  match items, hne, hp with
  | [x], _, hp =>
    rw [ItemsPlain] at hp
    obtain ⟨hx, -⟩ := hp
    have hx1 : renderItems [x] = render x := by simp [renderItems]
    obtain ⟨c, cs, hcs, hb, hc, -, -⟩ := render_head hx
    have hv := scanValue_render x hx fuel (']' :: rest) pos (by rw [hx1] at hf; omega)
      (by simp [Follows])
    rw [hcs, List.cons_append] at hv
    rw [hx1, hcs, List.cons_append, scanItems_cons hb hc hv (by decide)]
    simp [Parsed.ofItems]
  | x :: y :: ys, _, hp =>
    rw [ItemsPlain] at hp
    obtain ⟨hx, hys⟩ := hp
    have hsplit := toList_renderItems_cons_cons x y ys
    have hlen : (renderItems (x :: y :: ys)).length =
        (render x).length + 1 + (renderItems (y :: ys)).length := by
      rw [← String.length_toList, hsplit]
      simp [String.length_toList]
      omega
    obtain ⟨c, cs, hcs, hb, hc, -, -⟩ := render_head hx
    have hv := scanValue_render x hx fuel (',' :: ((renderItems (y :: ys)).toList ++ ']' :: rest))
      pos (by omega) (by simp [Follows])
    rw [hcs, List.cons_append] at hv
    rw [hsplit, List.append_assoc, hcs, List.cons_append, List.cons_append,
      scanItems_cons hb hc hv (by decide), if_pos rfl,
      scanItems_render (y :: ys) (List.cons_ne_nil _ _) hys fuel _ false rest _ (by omega)]
    simp only [Parsed.ofItems, List.reverse_cons, List.append_assoc, List.singleton_append,
      Except.ok.injEq, Prod.mk.injEq, Cursor.mk.injEq, true_and]
    omega
termination_by structural items

/-- The text of members, followed by the closing brace, is read as the members, up to that brace. -/
theorem scanMembers_render (fields : List (String × Json)) (hne : fields ≠ [])
    (hp : FieldsPlain fields) (fuel : Nat) (acc : List (String × Parsed)) (first : Bool)
    (rest : List Char) (pos : Nat) (hf : (renderFields fields).length < fuel) :
    scanMembers fuel acc first ⟨(renderFields fields).toList ++ '}' :: rest, pos⟩ =
      .ok (acc.reverse ++ Parsed.ofFields fields, ⟨rest, pos + (renderFields fields).length + 1⟩) := by
  obtain ⟨fuel, rfl⟩ : ∃ f, fuel = f + 1 := ⟨fuel - 1, by omega⟩
  rcases fields with _ | ⟨⟨k, v⟩, _ | ⟨f, fs⟩⟩
  · exact absurd rfl hne
  · rw [FieldsPlain] at hp
    obtain ⟨hv, -⟩ := hp
    have hsplit : (renderFields [(k, v)]).toList = (quote k).toList ++ ':' :: (render v).toList := by
      simp [renderFields]
    have hlen : (renderFields [(k, v)]).length = (quote k).length + 1 + (render v).length := by
      rw [← String.length_toList, hsplit]
      simp [String.length_toList]
      omega
    have hval := scanValue_render v hv fuel ('}' :: rest) (pos + (quote k).length + 1) (by omega)
      (by simp [Follows])
    rw [hsplit, List.append_assoc, List.cons_append, scanMembers_cons k hval (by decide)]
    simp only [show ('}' : Char) ≠ ',' by decide, if_false, if_true, Parsed.ofFields,
      List.reverse_cons, Except.ok.injEq, Prod.mk.injEq, Cursor.mk.injEq, true_and]
    omega
  · rw [FieldsPlain] at hp
    obtain ⟨hv, hfs⟩ := hp
    have hsplit := toList_renderFields_cons_cons k v f fs
    have hlen : (renderFields ((k, v) :: f :: fs)).length =
        (quote k).length + 1 + (render v).length + 1 + (renderFields (f :: fs)).length := by
      rw [← String.length_toList, hsplit]
      simp [String.length_toList]
      omega
    have hval := scanValue_render v hv fuel (',' :: ((renderFields (f :: fs)).toList ++ '}' :: rest))
      (pos + (quote k).length + 1) (by omega) (by simp [Follows])
    rw [hsplit, List.append_assoc, List.cons_append, List.append_assoc, List.cons_append,
      scanMembers_cons k hval (by decide), if_pos rfl,
      scanMembers_render (f :: fs) (List.cons_ne_nil _ _) hfs fuel _ false rest _ (by omega)]
    simp only [Parsed.ofFields, List.reverse_cons, List.append_assoc, List.singleton_append,
      Except.ok.injEq, Prod.mk.injEq, Cursor.mk.injEq, true_and]
    omega
termination_by structural fields
end

/-- Reading the text of a value gives the value back, each part with its own text. -/
theorem read_render {j : Json} (hj : Plain j) : read (render j) = .ok (Parsed.ofJson j) := by
  have h := scanValue_render j hj (2 * (render j).toList.length + 2) [] 0
    (by rw [String.length_toList]; omega) (by simp [Follows])
  rw [List.append_nil] at h
  simp only [read, h]
  rfl

/-! ### Reading records -/

section Records

variable {σ α : Type}

/-- A text field reads the string written. -/
@[simp] theorem textReader_str (target current s raw : String) (site : Site) :
    textReader target current (.str s raw) site = ⟨s, none⟩ := rfl

/-- A flag field reads the flag written. -/
@[simp] theorem boolReader_bool (current b : Bool) (site : Site) :
    boolReader current (.bool b) site = ⟨b, none⟩ := rfl

/-- A field built from a reader is named as it was built. -/
@[simp] theorem Field.name_of (name : String) (get : σ → α) (set : σ → α → σ) (r : α → Reader α) :
    (Field.of name get set r).name = name := rfl

/-- A field reads its member through the reader of its kind, from the value the record holds,
and keeps that reader's fault. -/
@[simp] theorem Field.read_of (name : String) (get : σ → α) (set : σ → α → σ) (r : α → Reader α)
    (s : σ) (j : Parsed) (site : Site) :
    (Field.of name get set r).read s j site =
      ⟨set s (r (get s) j site).value, (r (get s) j site).fault⟩ := rfl

/-- No first fault yet leaves the next one. -/
@[simp] theorem firstFault_none (b : Option Fault) : firstFault none b = b := rfl

/-- An object is read member by member into the record, with no fault yet. -/
@[simp] theorem recordReader_obj (target : String) (fields : List (Field σ)) (current : σ)
    (members : List (String × Parsed)) (raw : String) (site : Site) :
    recordReader target fields current (.obj members raw) site =
      readMembers fields site current none members := rfl

end Records

end Json
end Auction
