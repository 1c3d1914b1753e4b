import Auction.Proofs.Wire.Time
import Auction.Proofs.Wire.Replay
import Auction.Text

/-!
# Books read back from their JSON

The ledger on the shared server keeps a book as the text of its JSON (`Book.toJson`) and its
version as the text of an integer, and reads both back when the book is loaded. This module
proves that the reading gives the book back (`Book.decode_toJson`, with `Json.read_render` for
the text), its amounts in normal form and its statuses read by name (`Book.readBack`), and that
the version text reads back as the version (`IntText.parse_toString`).

What the wire keeps is said once per record (`Bid.Storable`, `AutoBid.Storable`,
`Book.Storable`): amounts whose scale a 32-bit exponent reaches, times in UTC in years of four
digits (`Instant.Storable`), and versions of 64 bits (`Fits64`). A storable book also has a JSON
form with nothing left out (`Book.failure?_toJson`) and whose numbers are integer literals
(`Book.plain_toJson`), so its text is read whole.

Each record is read member by member as in `Wire.Replay`: the members left out when empty read
as the blank record's empty value, and the lists of bids and auto-bids read entry by entry
(`Json.entriesReader_arr`).
-/

namespace Auction

/-- The text of an integer: a minus sign for a negative one, then the digits of its size. -/
theorem toList_intToString (v : Int) :
    (toString v).toList = (if v < 0 then ['-'] else []) ++ Nat.toDigits 10 v.natAbs := by
  cases v with
  | ofNat m =>
    show (Nat.repr m).toList = _
    simp [Nat.toList_repr]
  | negSucc m =>
    show ("-" ++ Nat.repr (m + 1)).toList = _
    simp [Nat.toList_repr, Int.natAbs_negSucc]

/-- An integer of the signed 64-bit range. -/
def Fits64 (v : Int) : Prop := -(2 ^ 63) ≤ v ∧ v < 2 ^ 63

namespace Json

/-- The text of an integer is an integer literal. -/
theorem intLiteral_toString (v : Int) : IntLiteral (toString v) :=
  ⟨decide (v < 0), v.natAbs, by rw [toList_intToString]; by_cases h : v < 0 <;> simp [h]⟩

/-- The digits of a number read back as the number, whatever the digit before them. -/
theorem foldl_toDigits (n : Nat) :
    (Nat.toDigits 10 n).foldl (fun a c => a * 10 + (c.toNat - 48)) 0 = n :=
  Decimal.digitValue_digitsOf n

/-- The digits of an integer's size start with a digit that is no sign, and read back as the
size. -/
theorem toDigits_natAbs (v : Int) : ∃ d ds, Nat.toDigits 10 v.natAbs = d :: ds ∧
    d ≠ '-' ∧ (∀ c ∈ d :: ds, c.isDigit) ∧
    (d :: ds).foldl (fun a c => a * 10 + (c.toNat - 48)) 0 = v.natAbs := by
  obtain ⟨d, ds, hds, hd, -⟩ := toDigits_cons v.natAbs
  refine ⟨d, ds, hds, by rintro rfl; revert hd; decide, fun c hc =>
    Nat.isDigit_of_mem_toDigits (by decide) (by decide) (hds ▸ hc), ?_⟩
  rw [← hds]
  exact foldl_toDigits v.natAbs

/-- The number reader takes the text of an integer as an integer. -/
theorem isIntegerLiteral_toString (v : Int) : isIntegerLiteral (toString v) = true := by
  obtain ⟨d, ds, hds, hdm, hall, -⟩ := toDigits_natAbs v
  unfold isIntegerLiteral
  rw [toList_intToString, hds]
  by_cases h : v < 0
  · simp [h, List.all_eq_true.mpr hall]
  · simp only [h, if_false, List.nil_append]
    split
    · rename_i r hr
      cases hr
      exact absurd rfl hdm
    · simp [List.all_eq_true.mpr hall]

/-- The number reader reads the text of an integer as that integer. -/
theorem integerValue_toString (v : Int) : integerValue (toString v) = v := by
  obtain ⟨d, ds, hds, hdm, -, hval⟩ := toDigits_natAbs v
  unfold integerValue
  rw [toList_intToString, hds]
  by_cases h : v < 0
  · simp only [h, if_true, List.cons_append, List.nil_append, hval]
    omega
  · simp only [h, if_false, List.nil_append]
    split
    · rename_i r hr
      cases hr
      exact absurd rfl hdm
    · rw [hval]
      omega

/-- The JSON number of an integer of the signed 64-bit range reads back as the integer. -/
theorem integerReader_ofInt (target : String) (current v : Int) (hv : Fits64 v) (site : Site) : integerReader target current (Parsed.ofJson (.ofInt v)) site = ⟨v, none⟩ := by
  obtain ⟨h₁, h₂⟩ := hv
  simp only [Parsed.ofJson, ofInt, integerReader, isIntegerLiteral_toString, integerValue_toString,
    if_true]
  rw [if_pos (by simp; omega)]

end Json

namespace IntText

/-- Reading digits under a limit that their value does not pass gives their value. -/
theorem digits_eq_ok (limit : Nat) : ∀ (cs : List Char) (acc : Nat), (∀ c ∈ cs, c.isDigit) →
    acc * 10 ^ cs.length + Decimal.digitValue cs ≤ limit →
    digits limit acc cs = .ok ((acc * 10 ^ cs.length + Decimal.digitValue cs : Nat) : Int)
  | [], acc, _, _ => by simp [digits, Decimal.digitValue]
  | c :: rest, acc, hall, hle => by
    have hc := hall c List.mem_cons_self
    have hstep : acc * 10 ^ (rest.length + 1) + Decimal.digitValue (c :: rest) =
        (acc * 10 + (c.toNat - 48)) * 10 ^ rest.length + Decimal.digitValue rest := by
      have hc1 : Decimal.digitValue [c] = c.toNat - 48 := by
        simp only [Decimal.digitValue, List.foldl_cons, List.foldl_nil, zero_mul, zero_add]
        rfl
      rw [show c :: rest = [c] ++ rest from rfl, Decimal.digitValue_append, hc1]
      ring
    have hpow : 1 ≤ 10 ^ rest.length := Nat.one_le_pow _ _ (by decide)
    rw [List.length_cons, hstep] at hle ⊢
    have hn : acc * 10 + (c.toNat - 48) ≤ limit :=
      le_trans (Nat.le_mul_of_pos_right _ hpow) (le_trans (Nat.le_add_right _ _) hle)
    rw [digits, if_pos hc, if_neg (by omega)]
    exact digits_eq_ok limit rest _ (fun x hx => hall x (List.mem_cons_of_mem c hx)) hle

/-- The text of an integer of the signed 64-bit range reads back as the integer. -/
theorem parse_toString (v : Int) (hv : Fits64 v) : parse 64 (toString v) = .ok v := by
  obtain ⟨hv₁, hv₂⟩ := hv
  obtain ⟨d, ds, hds, hdm, hall, hval⟩ := Json.toDigits_natAbs v
  have hdigits : digits 18446744073709551615 0 (d :: ds) = .ok v.natAbs := by
    have hval' : Decimal.digitValue (d :: ds) = v.natAbs := hval
    rw [digits_eq_ok _ _ _ hall (by simp only [hval']; omega), zero_mul, zero_add, hval']
  unfold parse
  rw [toList_intToString, hds]
  by_cases h : v < 0
  · simp [h, hdigits, abs_of_neg h]
    omega
  · have hdp : d ≠ '+' := fun hp => by
      have := hall d List.mem_cons_self
      rw [hp] at this
      revert this
      decide
    simp only [h, if_false, List.nil_append]
    split
    · rename_i r hr
      cases hr
      exact absurd rfl hdp
    · rename_i r hr
      cases hr
      exact absurd rfl hdm
    · simp [hdigits, abs_of_nonneg (not_lt.mp h)]
      omega

end IntText

/-- Two integers with the same text are the same integer. -/
theorem intToString_inj {a b : Int} (h : toString a = toString b) : a = b := by
  obtain ⟨d, ds, hds, hdm, -, hval⟩ := Json.toDigits_natAbs a
  obtain ⟨e, es, hes, hem, -, hval'⟩ := Json.toDigits_natAbs b
  have hl := congrArg String.toList h
  rw [toList_intToString, toList_intToString, hds, hes] at hl
  by_cases ha : a < 0 <;> by_cases hb : b < 0 <;>
    simp only [ha, hb, if_true, if_false, List.cons_append, List.nil_append, List.cons.injEq,
      true_and] at hl
  · obtain ⟨rfl, rfl⟩ := hl
    omega
  · exact absurd hl.1.symm hem
  · exact absurd hl.1 hdm
  · obtain ⟨rfl, rfl⟩ := hl
    omega

/-! ### Bids -/

/-- A bid its JSON form keeps: an amount whose scale a 32-bit exponent reaches, a time the wire
keeps exactly, and a version of 64 bits. -/
structure Bid.Storable (b : Bid) : Prop where
  amount : b.amount.scale ≤ 2 ^ 31
  bidTime : b.bidTime.Storable
  version : Fits64 b.version

/-- A bid as its JSON reads back: the status by its name and the amount in normal form. -/
def Bid.readBack (b : Bid) : Bid :=
  { b with amount := Decimal.normalize b.amount.num b.amount.scale,
           status := BidStatus.ofName b.status.name }

open Json in
/-- The JSON of a storable bid reads back as the bid, its status by name and its amount in normal
form. -/
theorem Bid.reader_toJson (b : Bid) (hb : b.Storable) (site : Site) :
    Bid.reader Bid.blank (Parsed.ofJson b.toJson) site = ⟨b.readBack, none⟩ := by
  obtain ⟨ha, ht, hv⟩ := hb
  unfold Bid.reader Bid.toJson
  by_cases h : b.autoBidId = "" <;>
    simp [h, String.isEmpty_iff, readMembers, selectField, int64Reader,
      decimalReader_ofDecimal _ _ ha,
      instantReader_ofInstant _ _ ht, integerReader_ofInt _ _ _ hv, Bid.readBack,
      Bid.blank]

/-! ### Auto-bids -/

/-- An optional time written as JSON, when there is one, reads back as that time. -/
theorem Json.optionReader_ofInstant (current : Option Instant) {t : Instant} (ht : t.Storable)
    (site : Json.Site) :
    Json.optionReader Instant.zero Json.instantReader current (Json.Parsed.ofJson (Json.ofInstant t))
      site = ⟨some t, none⟩ := by
  have h := Json.instantReader_ofInstant (current.getD Instant.zero) t ht site
  rw [Json.ofInstant_of_storable ht, Json.Parsed.ofJson_str] at h ⊢
  simp [Json.optionReader, h]

/-- An auto-bid its JSON form keeps: amounts whose scales a 32-bit exponent reaches and times the
wire keeps exactly. -/
structure AutoBid.Storable (a : AutoBid) : Prop where
  maxAmount : a.maxAmount.scale ≤ 2 ^ 31
  currentBidAmount : a.currentBidAmount.scale ≤ 2 ^ 31
  createdAt : a.createdAt.Storable
  lastBidAt : ∀ t ∈ a.lastBidAt, t.Storable
  cancelledAt : ∀ t ∈ a.cancelledAt, t.Storable

/-- An auto-bid as its JSON reads back: the amounts in normal form. -/
def AutoBid.readBack (a : AutoBid) : AutoBid :=
  { a with maxAmount := Decimal.normalize a.maxAmount.num a.maxAmount.scale,
           currentBidAmount := Decimal.normalize a.currentBidAmount.num a.currentBidAmount.scale }

open Json in
/-- The JSON of a storable auto-bid reads back as the auto-bid, its amounts in normal form. -/
theorem AutoBid.reader_toJson (a : AutoBid) (ha : a.Storable) (site : Site) :
    AutoBid.reader AutoBid.blank (Parsed.ofJson a.toJson) site = ⟨a.readBack, none⟩ := by
  obtain ⟨hm, hc, ht, hl, hx⟩ := ha
  rcases a with ⟨id, auctionId, userId, username, maxAmount, currentBidAmount, isActive, createdAt,
    lastBidAt, cancelledAt⟩
  unfold AutoBid.reader AutoBid.toJson
  dsimp only at hm hc ht hl hx ⊢
  rcases lastBidAt with _ | tl <;> rcases cancelledAt with _ | tc <;>
    simp [readMembers, selectField, decimalReader_ofDecimal _ _ hm, decimalReader_ofDecimal _ _ hc,
      instantReader_ofInstant _ _ ht, optionReader_ofInstant, hl, hx, AutoBid.readBack,
      AutoBid.blank]

/-! ### Lists of entries -/

namespace Json

/-- Elements that each read back, read into a list that had none, give the list read back. -/
theorem readElements_ofItems {α β : Type} (elem : α → Reader α) (fresh : α) (site : Site)
    (toJ : β → Json) (f : β → α) : ∀ (xs : List β),
    (∀ x ∈ xs, ∀ s, elem fresh (Parsed.ofJson (toJ x)) s = ⟨f x, none⟩) → ∀ (i : Nat) (acc : List α),
    readElements elem fresh site i [] acc none (Parsed.ofItems (xs.map toJ)) =
      ⟨acc.reverse ++ xs.map f, none⟩
  | [], _, i, acc => by simp [Parsed.ofItems, readElements]
  | x :: xs, h, i, acc => by
    simp only [List.map_cons, Parsed.ofItems, readElements, List.headD_nil, List.tail_nil,
      h x List.mem_cons_self, firstFault]
    rw [readElements_ofItems elem fresh site toJ f xs (fun y hy => h y (List.mem_cons_of_mem x hy))]
    simp

/-- A list of entries that each read back reads back as the list, with no entry missing. -/
theorem entriesReader_arr {α β : Type} (target : String) (fresh : α) (r : α → Reader α)
    (toJ : β → Json) (f : β → α) (xs : List β)
    (h : ∀ x ∈ xs, ∀ s, optionReader fresh r none (Parsed.ofJson (toJ x)) s = ⟨some (f x), none⟩)
    (site : Site) :
    entriesReader target fresh r none (Parsed.ofJson (.arr (xs.map toJ))) site =
      ⟨some (xs.map fun x => some (f x)), none⟩ := by
  unfold entriesReader listReader
  simp only [Parsed.ofJson, Option.getD_none]
  rw [readElements_ofItems (optionReader fresh r) none site toJ (fun x => some (f x)) xs h]
  simp

end Json

open Json in
/-- A bid written as an entry of the list of bids reads back as an entry that is there. -/
theorem Bid.entry_toJson (b : Bid) (hb : b.Storable) (s : Site) :
    optionReader Bid.blank Bid.reader none (Parsed.ofJson b.toJson) s = ⟨some b.readBack, none⟩ := by
  have h := Bid.reader_toJson b hb s
  obtain ⟨ms, raw, hobj⟩ : ∃ ms raw, Parsed.ofJson b.toJson = .obj ms raw :=
    ⟨_, _, Parsed.ofJson_obj _⟩
  rw [hobj] at h ⊢
  simp only [optionReader, Option.getD_none, h]

open Json in
/-- An auto-bid written as an entry of the list of auto-bids reads back as an entry that is there.
-/
theorem AutoBid.entry_toJson (a : AutoBid) (ha : a.Storable) (s : Site) :
    optionReader AutoBid.blank AutoBid.reader none (Parsed.ofJson a.toJson) s =
      ⟨some a.readBack, none⟩ := by
  have h := AutoBid.reader_toJson a ha s
  obtain ⟨ms, raw, hobj⟩ : ∃ ms raw, Parsed.ofJson a.toJson = .obj ms raw :=
    ⟨_, _, Parsed.ofJson_obj _⟩
  rw [hobj] at h ⊢
  simp only [optionReader, Option.getD_none, h]

/-! ### Books -/

/-- A book its JSON form keeps: a version of 64 bits, bids and auto-bids it keeps, an amount
whose scale a 32-bit exponent reaches and times the wire keeps exactly. -/
structure Book.Storable (b : Book) : Prop where
  version : Fits64 b.version
  bids : ∀ x ∈ b.bids, x.Storable
  autoBids : ∀ a ∈ b.autoBids, a.Storable
  highestAmount : b.highestAmount.scale ≤ 2 ^ 31
  closedAt : ∀ t ∈ b.closedAt, t.Storable
  updatedAt : b.updatedAt.Storable

/-- A book as its JSON reads back: each bid and auto-bid read back, the amount in normal form. -/
def Book.readBack (b : Book) : Book :=
  { b with bids := b.bids.map Bid.readBack, autoBids := b.autoBids.map AutoBid.readBack,
           highestAmount := Decimal.normalize b.highestAmount.num b.highestAmount.scale }

/-- A book never written reads back as itself. -/
@[simp] theorem Book.readBack_empty (a : String) : (Book.empty a).readBack = Book.empty a := rfl

open Json in
/-- The JSON of a storable book reads back as the draft of the book, its lists of entries each
there. -/
theorem BookDraft.reader_toJson (b : Book) (hb : b.Storable) (site : Site) :
    BookDraft.reader { book := Book.blank } (Parsed.ofJson b.toJson) site =
      ⟨{ book := { b.readBack with bids := [], autoBids := [] },
         bids := some (b.bids.map fun x => some x.readBack),
         autoBids := some (b.autoBids.map fun a => some a.readBack) }, none⟩ := by
  obtain ⟨hv, hbids, hautos, hh, hc, hu⟩ := hb
  have hB := entriesReader_arr "[]*domain.Bid" Bid.blank Bid.reader Bid.toJson Bid.readBack b.bids
    fun x hx s => Bid.entry_toJson x (hbids x hx) s
  have hA := entriesReader_arr "[]*domain.AutoBid" AutoBid.blank AutoBid.reader AutoBid.toJson
    AutoBid.readBack b.autoBids fun a ha s => AutoBid.entry_toJson a (hautos a ha) s
  rcases b with ⟨auctionId, version, bids, autoBids, highestBidId, highestAmount, highestBidderId,
    closed, closedAt, updatedAt⟩
  unfold BookDraft.reader Book.toJson Book.jsonWith
  dsimp only at hv hh hc hu hB hA ⊢
  by_cases h₁ : highestBidId = "" <;> by_cases h₂ : highestBidderId = "" <;>
    rcases closedAt with _ | tc <;>
    simp [h₁, h₂, String.isEmpty_iff, readMembers, selectField, int64Reader,
      integerReader_ofInt _ _ _ hv, hB, hA,
      decimalReader_ofDecimal _ _ hh, instantReader_ofInstant _ _ hu,
      optionReader_ofInstant, hc, Book.readBack, Book.blank, Book.empty]

/-- The JSON of a book reads back as the book, each entry there. -/
theorem Book.decode_toJson (b : Book) (hb : b.Storable) :
    Book.decode (Json.Parsed.ofJson b.toJson) = .ok (b.readBack, true) := by
  unfold Book.decode Json.decodeParsed
  rw [BookDraft.reader_toJson b hb]
  simp [Except.map, BookDraft.finish, Book.readBack, List.filterMap_map]

/-! ### The text of a book -/

namespace Json

/-- A time is written with no number. -/
theorem plain_ofInstant (t : Instant) : Plain (ofInstant t) := by
  unfold ofInstant
  split <;> trivial

/-- Items each written with integer numbers only have integer numbers only. -/
theorem itemsPlain_map {β : Type} (toJ : β → Json) (xs : List β) (h : ∀ x ∈ xs, Plain (toJ x)) :
    ItemsPlain (xs.map toJ) := by
  induction xs with
  | nil => trivial
  | cons x xs ih =>
    exact ⟨h x List.mem_cons_self, ih fun y hy => h y (List.mem_cons_of_mem x hy)⟩

/-- The first member of two lists without a JSON form is in the first list, or else in the second.
-/
theorem fieldsFailure?_append (a b : List (String × Json)) :
    fieldsFailure? (a ++ b) = (fieldsFailure? a).orElse fun _ => fieldsFailure? b := by
  induction a with
  | nil => rfl
  | cons x rest ih =>
    obtain ⟨k, v⟩ := x
    simp only [List.cons_append, fieldsFailure?, ih]
    cases failure? v <;> rfl

/-- Items each with a JSON form have one together. -/
theorem itemsFailure?_map {β : Type} (toJ : β → Json) (xs : List β)
    (h : ∀ x ∈ xs, (toJ x).failure? = none) : itemsFailure? (xs.map toJ) = none := by
  induction xs with
  | nil => rfl
  | cons x xs ih =>
    simp [itemsFailure?, h x List.mem_cons_self, ih fun y hy => h y (List.mem_cons_of_mem x hy)]

/-- A storable time has a JSON form. -/
theorem failure?_ofInstant {t : Instant} (ht : t.Storable) : (ofInstant t).failure? = none := by
  rw [ofInstant_of_storable ht]
  rfl

end Json

open Json in
/-- A bid is written with integer numbers only. -/
theorem Bid.plain_toJson (b : Bid) : Plain b.toJson := by
  unfold Bid.toJson
  simp only [Plain, fieldsPlain_append]
  split_ifs <;> simp [FieldsPlain, Plain, ofDecimal, ofInt, plain_ofInstant] <;>
    exact intLiteral_toString _

open Json in
/-- A storable bid has a JSON form. -/
theorem Bid.failure?_toJson (b : Bid) (hb : b.Storable) : b.toJson.failure? = none := by
  unfold Bid.toJson
  split_ifs <;> simp [failure?, fieldsFailure?, failure?_ofInstant hb.bidTime, ofDecimal, ofInt]

open Json in
/-- An auto-bid is written with integer numbers only. -/
theorem AutoBid.plain_toJson (a : AutoBid) : Plain a.toJson := by
  unfold AutoBid.toJson
  simp only [Plain, fieldsPlain_append]
  split <;> split <;> simp [FieldsPlain, Plain, ofDecimal, plain_ofInstant]

open Json in
/-- A storable auto-bid has a JSON form. -/
theorem AutoBid.failure?_toJson (a : AutoBid) (ha : a.Storable) : a.toJson.failure? = none := by
  obtain ⟨-, -, hc, hl, hx⟩ := ha
  rcases a with ⟨id, auctionId, userId, username, maxAmount, currentBidAmount, isActive, createdAt,
    lastBidAt, cancelledAt⟩
  dsimp only at hc hl hx
  unfold AutoBid.toJson
  rcases lastBidAt with _ | tl <;> rcases cancelledAt with _ | tc <;>
    simp [failure?, fieldsFailure?, failure?_ofInstant hc, failure?_ofInstant, hl, hx, ofDecimal]

open Json in
/-- A book is written with integer numbers only. -/
theorem Book.plain_toJson (b : Book) : Plain b.toJson := by
  unfold Book.toJson Book.jsonWith
  simp only [Plain, fieldsPlain_append]
  have hbids := itemsPlain_map Bid.toJson b.bids fun x _ => x.plain_toJson
  have hautos := itemsPlain_map AutoBid.toJson b.autoBids fun a _ => a.plain_toJson
  split_ifs <;> split <;> simp [FieldsPlain, Plain, ofDecimal, ofInt, plain_ofInstant, hbids, hautos] <;>
    exact intLiteral_toString _

open Json in
/-- A storable book has a JSON form. -/
theorem Book.failure?_toJson (b : Book) (hb : b.Storable) : b.toJson.failure? = none := by
  obtain ⟨-, hbids, hautos, -, hc, hu⟩ := hb
  have hB := itemsFailure?_map Bid.toJson b.bids fun x hx => x.failure?_toJson (hbids x hx)
  have hA := itemsFailure?_map AutoBid.toJson b.autoBids fun a ha => a.failure?_toJson (hautos a ha)
  rcases b with ⟨auctionId, version, bids, autoBids, highestBidId, highestAmount, highestBidderId,
    closed, closedAt, updatedAt⟩
  dsimp only at hc hu hB hA
  unfold Book.toJson Book.jsonWith
  split_ifs <;> rcases closedAt with _ | tc <;>
    simp [failure?, fieldsFailure?, hB, hA, failure?_ofInstant hu, failure?_ofInstant, hc,
      ofDecimal, ofInt]

end Auction
