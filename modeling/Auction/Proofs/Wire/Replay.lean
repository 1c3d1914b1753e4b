import Auction.Proofs.Amount
import Auction.Proofs.Wire.Amount
import Auction.Service.Place

/-!
# A stored outcome replays the outcome that was stored

The idempotency guard keeps a decided placement as text (`Guard.storedText`): the result as
JSON, with the code and the message of the refusal beside it, and a repeated request gets what
`Guard.replay` reads back from that text. This module proves that the reading gives the caller
what the first request got (`Guard.replay_storedText`): the same result as a caller sees it
(`BidResult.Same`: the same ids, flags, status, code and message, and amounts of the same
value) and, when the first request was refused, a refusal with the same code and message.

Two things are needed of the outcome (`Outcome.Storable`). Its amounts must have a scale that
the reader's 32-bit exponent reaches, as every amount of the service has; and a refusal must
carry a code, since the stored text marks a refusal by a code that is not empty.

The reading goes member by member: each member of the stored text selects its field by its
exact name, and each field reads back the value it was written from (`BidResult.reader_toJson`).
-/

namespace Auction

open Json

/-! ### A placement result read back -/

/-- Every amount of a result has a scale that a 32-bit exponent reaches. -/
def BidResult.Scaled (r : BidResult) : Prop :=
  r.amount.scale ≤ 2 ^ 31 ∧ r.minimumNextBid.scale ≤ 2 ^ 31 ∧ r.highestAmount.scale ≤ 2 ^ 31

/-- A result as its JSON reads back: the status by its name and the amounts in normal form. -/
def BidResult.readBack (r : BidResult) : BidResult :=
  { r with status := BidStatus.ofName r.status.name,
           amount := Decimal.normalize r.amount.num r.amount.scale,
           minimumNextBid := Decimal.normalize r.minimumNextBid.num r.minimumNextBid.scale,
           highestAmount := Decimal.normalize r.highestAmount.num r.highestAmount.scale }

/-- Two placement results a caller cannot tell apart: the same ids, flags, code and message,
the status of the same name, and amounts of the same value. -/
structure BidResult.Same (r s : BidResult) : Prop where
  bidId : r.bidId = s.bidId
  auctionId : r.auctionId = s.auctionId
  status : r.status.name = s.status.name
  amount : r.amount.toRat = s.amount.toRat
  minimumNextBid : r.minimumNextBid.toRat = s.minimumNextBid.toRat
  isLeading : r.isLeading = s.isLeading
  highestAmount : r.highestAmount.toRat = s.highestAmount.toRat
  highestBidderId : r.highestBidderId = s.highestBidderId
  reserveMet : r.reserveMet = s.reserveMet
  errorCode : r.errorCode = s.errorCode
  message : r.message = s.message

/-- The name a status is read from is its name. -/
@[simp] theorem BidStatus.name_ofName (n : String) : (BidStatus.ofName n).name = n := by
  unfold BidStatus.ofName
  split
  · rename_i c hc
    simpa using List.find?_some hc
  · rfl

/-- Normalizing an amount keeps its value. -/
theorem Decimal.toRat_normalize_self (d : Decimal) :
    (Decimal.normalize d.num d.scale).toRat = d.toRat := by
  rw [Decimal.toRat_normalize]
  rfl

/-- A caller cannot tell a result read back from JSON from the result. -/
theorem BidResult.same_readBack (r : BidResult) : r.readBack.Same r :=
  ⟨rfl, rfl, BidStatus.name_ofName _, Decimal.toRat_normalize_self _,
    Decimal.toRat_normalize_self _, rfl, Decimal.toRat_normalize_self _, rfl, rfl, rfl, rfl⟩

/-- A result reads back as an object. -/
theorem BidResult.ofJson_toJson (r : BidResult) :
    ∃ members raw, Parsed.ofJson r.toJson = .obj members raw :=
  ⟨_, _, Parsed.ofJson_obj _⟩

/-- A result is written with integer numbers only. -/
theorem plain_toJson (r : BidResult) : Plain r.toJson := by
  unfold BidResult.toJson
  simp only [Plain, fieldsPlain_append]
  split_ifs <;> simp [FieldsPlain, Plain, ofDecimal]

/-- The JSON of a result reads back as the result, its status by name and its amounts in normal
form. -/
theorem BidResult.reader_toJson (r : BidResult) (hr : r.Scaled) (site : Site) :
    BidResult.reader BidResult.blank (Parsed.ofJson r.toJson) site = ⟨r.readBack, none⟩ := by
  obtain ⟨ha, hm, hh⟩ := hr
  unfold BidResult.reader BidResult.toJson
  by_cases h₁ : r.highestBidderId.isEmpty <;> by_cases h₂ : r.errorCode.isEmpty <;>
    by_cases h₃ : r.message.isEmpty <;>
    simp [h₁, h₂, h₃, readMembers, selectField, decimalReader_ofDecimal _ _ ha,
      decimalReader_ofDecimal _ _ hm,
      decimalReader_ofDecimal _ _ hh, BidResult.readBack, BidResult.blank] <;>
    simp_all [String.isEmpty_iff]

/-! ### The stored text of an outcome read back -/

/-- A decided outcome the store can keep and give back: its result's amounts have scales a
32-bit exponent reaches, and its refusal, if any, carries a code. -/
structure Outcome.Storable (o : Outcome BidResult) : Prop where
  scaled : ∀ r ∈ o.result, r.Scaled
  coded : ∀ e, o.fault.bind Fault.bidError? = some e → e.code.name ≠ ""

/-- `o'` answers as `o` did: the same result as a caller sees it and, whenever `o` refused, a
refusal with a code of the same name and the same message. -/
structure Outcome.Replays (o' o : Outcome BidResult) : Prop where
  result : Option.Rel BidResult.Same o'.result o.result
  refusal : ∀ e, o.fault.bind Fault.bidError? = some e →
    ∃ e', o'.fault.bind Fault.bidError? = some e' ∧ e'.code.name = e.code.name ∧
      e'.message = e.message

/-- The name an error code is read from is its name. -/
@[simp] theorem ErrorCode.name_ofName (n : String) : (ErrorCode.ofName n).name = n := by
  unfold ErrorCode.ofName
  split
  · rename_i c hc
    simpa using List.find?_some hc
  · rfl

/-- Reading back the stored text of an outcome gives its result as JSON reads it back and, for
a refusal, a refusal with the code of the same name and the same message. -/
theorem Guard.replay_storedText (o : Outcome BidResult) (ho : o.Storable) :
    Guard.replay (Guard.storedText o) =
      ⟨o.result.map BidResult.readBack,
       (o.fault.bind Fault.bidError?).map fun e => .bid ⟨ErrorCode.ofName e.code.name, e.message⟩⟩ := by
  obtain ⟨hscaled, hcoded⟩ := ho
  rcases o with ⟨result, fault⟩
  unfold Guard.storedText Guard.replay
  dsimp only at hscaled hcoded ⊢
  generalize fault.bind Fault.bidError? = be at hcoded ⊢
  have hname : ∀ e, be = some e → e.code.name.isEmpty = false := fun e he => by
    simpa [String.isEmpty_iff] using hcoded e he
  rcases result with _ | r <;> rcases be with _ | e
  · rw [decodeText, read_render (by simp [Plain, FieldsPlain])]
    simp [decodeParsed, Guard.Stored.reader, readMembers]
  · have hn := hname e rfl
    by_cases hm : e.message.isEmpty
    · rw [decodeText, read_render (by simp [hn, hm, Plain, FieldsPlain])]
      simp [hn, String.isEmpty_iff.mp hm, decodeParsed, Guard.Stored.reader, readMembers,
        selectField]
    · rw [decodeText, read_render (by simp [hn, hm, Plain, FieldsPlain])]
      simp [hn, hm, decodeParsed, Guard.Stored.reader, readMembers, selectField]
  · have hr := BidResult.reader_toJson r (hscaled r rfl)
    obtain ⟨ms, raw, hobj⟩ := r.ofJson_toJson
    rw [hobj] at hr
    rw [decodeText, read_render (by simp [Plain, FieldsPlain, plain_toJson])]
    simp [hr, hobj, decodeParsed, Guard.Stored.reader, readMembers, selectField, optionReader]
  · have hr := BidResult.reader_toJson r (hscaled r rfl)
    obtain ⟨ms, raw, hobj⟩ := r.ofJson_toJson
    rw [hobj] at hr
    have hn := hname e rfl
    by_cases hm : e.message.isEmpty
    · rw [decodeText, read_render (by simp [hn, hm, Plain, FieldsPlain, plain_toJson])]
      simp [hr, hobj, hn, String.isEmpty_iff.mp hm, decodeParsed, Guard.Stored.reader,
        readMembers, selectField, optionReader]
    · rw [decodeText, read_render (by simp [hn, hm, Plain, FieldsPlain, plain_toJson])]
      simp [hr, hobj, hn, hm, decodeParsed, Guard.Stored.reader, readMembers, selectField,
        optionReader]

/-- A repeated request answers as the request whose outcome was stored. -/
theorem Guard.replays_storedText (o : Outcome BidResult) (ho : o.Storable) :
    (Guard.replay (Guard.storedText o)).Replays o := by
  rw [Guard.replay_storedText o ho]
  constructor
  · cases o.result with
    | none => exact .none
    | some r => exact .some r.same_readBack
  · intro e he
    exact ⟨⟨ErrorCode.ofName e.code.name, e.message⟩, by simp [he, Fault.bidError?], by simp, rfl⟩

end Auction
