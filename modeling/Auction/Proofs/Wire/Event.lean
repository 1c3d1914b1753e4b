import Auction.Proofs.Wire.Book
import Auction.Event.Json

/-!
# Events read back from their JSON

The publisher writes each event as the JSON text of its envelope (`Event.toJson`) and the
subscriber reads it with `Event.ofText`. This module proves that the reading gives the event
back (`Event.ofText_toJson`): the same id, auction and time, a payload of the same kind whose
texts, flags and optional fields are as written, and whose amounts are the written amounts in
normal form (`Event.readBack`), so of the same value. An envelope whose type names none of the
five kinds is refused as an unknown event type (`Event.ofText_envelopeJson_unknown`), whatever
its payload.

What the wire keeps is said once (`Event.Storable`): amounts whose scale the reader's 32-bit
exponent reaches and times in UTC with years of four digits, as for books in `Wire.Book`.

The reading goes in the order of `Event.ofParsed`. The envelope is read member by member with
the payload kept raw (`Envelope.reader_envelopeJson`); the type then names the kind of the
written payload (`EventKind.ofName?_name`), whose record reads back field by field
(`Payload.decode_toJson`).
-/

namespace Auction

open Json

/-! ### What the wire keeps of an event -/

namespace Payload

/-- The same payload with every amount, the optional ones too, replaced by its image under `f`. -/
def mapAmounts (f : Decimal → Decimal) : Payload → Payload
  | .placed p => .placed { p with amount := f p.amount }
  | .accepted p => .accepted { p with amount := f p.amount }
  | .rejected p => .rejected { p with amount := f p.amount }
  | .highestUpdated p =>
    .highestUpdated { p with newHighestAmount := f p.newHighestAmount,
                             previousHighestAmount := p.previousHighestAmount.map f }
  | .retracted p =>
    .retracted { p with amount := f p.amount, newHighestAmount := p.newHighestAmount.map f }

/-- The amounts of a payload, an optional one when it is present. -/
def amounts : Payload → List Decimal
  | .placed p => [p.amount]
  | .accepted p => [p.amount]
  | .rejected p => [p.amount]
  | .highestUpdated p => p.newHighestAmount :: p.previousHighestAmount.toList
  | .retracted p => p.amount :: p.newHighestAmount.toList

/-- The times of a payload. -/
def times : Payload → List Instant
  | .placed p => [p.bidTime]
  | _ => []

/-- Mapping the amounts keeps the kind. -/
@[simp] theorem kind_mapAmounts (f : Decimal → Decimal) (p : Payload) :
    (p.mapAmounts f).kind = p.kind := by
  cases p <;> rfl

/-- Mapping the amounts maps each amount of the payload. -/
theorem amounts_mapAmounts (f : Decimal → Decimal) (p : Payload) :
    (p.mapAmounts f).amounts = p.amounts.map f := by
  cases p <;> simp [mapAmounts, amounts, Option.toList_map]

/-- A payload as its JSON reads back: every amount in normal form. -/
def readBack (p : Payload) : Payload := p.mapAmounts fun d => Decimal.normalize d.num d.scale

end Payload

/-- An event its JSON form keeps: a time in UTC with a year of four digits, and a payload whose
amounts have scales a 32-bit exponent reaches and whose times the wire keeps exactly. -/
structure Event.Storable (e : Event) : Prop where
  occurredAt : e.occurredAt.Storable
  amounts : ∀ d ∈ e.payload.amounts, d.scale ≤ 2 ^ 31
  times : ∀ t ∈ e.payload.times, t.Storable

/-- An event as its JSON reads back: the payload's amounts in normal form. -/
def Event.readBack (e : Event) : Event := { e with payload := e.payload.readBack }

/-- The amounts read back have the values written. -/
theorem Event.amounts_readBack (e : Event) :
    e.readBack.payload.amounts.map Decimal.toRat = e.payload.amounts.map Decimal.toRat := by
  rw [Event.readBack, Payload.readBack, Payload.amounts_mapAmounts, List.map_map]
  exact List.map_congr_left fun d _ => Decimal.toRat_normalize_self d

/-! ### Kinds by name -/

/-- The name of a kind reads back as the kind. -/
@[simp] theorem EventKind.ofName?_name (k : EventKind) : EventKind.ofName? k.name = some k := by
  cases k <;> rfl

/-- A text that names no kind reads as no kind. -/
theorem EventKind.ofName?_eq_none {t : String} (h : ∀ k : EventKind, k.name ≠ t) :
    EventKind.ofName? t = none := by
  unfold EventKind.ofName?
  rw [List.find?_eq_none]
  intro k _
  simpa using h k

/-! ### The JSON of an event -/

/-- The JSON of an envelope whose type is the text `type` and whose payload is the value
`payload`: how an event of any type is written. -/
def Event.envelopeJson (id type auctionId : String) (occurredAt : Instant) (payload : Json) :
    Json :=
  .obj [("event_id", .str id), ("type", .str type), ("auction_id", .str auctionId),
    ("occurred_at", ofInstant occurredAt), ("payload", payload)]

/-- An event is written as the envelope of its id, its kind's name, its auction, its time and its
payload's JSON. -/
theorem Event.toJson_eq_envelopeJson (e : Event) :
    e.toJson = Event.envelopeJson e.id e.kind.name e.auctionId e.occurredAt e.payload.toJson :=
  rfl

/-- A payload is written with integer numbers only. -/
theorem Payload.plain_toJson (p : Payload) : Plain p.toJson := by
  cases p with
  | highestUpdated q =>
    cases h : q.previousHighestAmount <;> by_cases h₁ : q.previousBidderId.isEmpty <;>
      simp [toJson, h, h₁, Plain, FieldsPlain, ofDecimal]
  | retracted q =>
    cases h : q.newHighestAmount <;> by_cases h₁ : q.newHighestBidId.isEmpty <;>
      by_cases h₂ : q.newHighestBidderId.isEmpty <;>
      simp [toJson, h, h₁, h₂, Plain, FieldsPlain, ofDecimal]
  | _ => simp [toJson, FieldsPlain, Plain, ofDecimal, plain_ofInstant]

/-- A payload whose times are storable has a JSON form. -/
theorem Payload.failure?_toJson {p : Payload} (ht : ∀ t ∈ p.times, t.Storable) :
    p.toJson.failure? = none := by
  cases p with
  | placed q =>
    simp [toJson, failure?, fieldsFailure?, ofDecimal, failure?_ofInstant (ht q.bidTime (by simp [times]))]
  | highestUpdated q =>
    cases h : q.previousHighestAmount <;> by_cases h₁ : q.previousBidderId.isEmpty <;>
      simp [toJson, h, h₁, failure?, fieldsFailure?, ofDecimal]
  | retracted q =>
    cases h : q.newHighestAmount <;> by_cases h₁ : q.newHighestBidId.isEmpty <;>
      by_cases h₂ : q.newHighestBidderId.isEmpty <;>
      simp [toJson, h, h₁, h₂, failure?, fieldsFailure?, ofDecimal]
  | _ => simp [toJson, failure?, fieldsFailure?, ofDecimal]

/-- An envelope around a payload written with integer numbers only is too. -/
theorem Event.plain_envelopeJson (id type auctionId : String) (t : Instant) {payload : Json}
    (hp : Plain payload) : Plain (Event.envelopeJson id type auctionId t payload) := by
  simp [Event.envelopeJson, Plain, FieldsPlain, plain_ofInstant, hp]

/-- A storable event is written whole: encoding it meets no part without a JSON form. -/
theorem Event.marshalled_toJson {e : Event} (he : e.Storable) : e.toJson.marshalled = e.toJson := by
  have hp := Payload.failure?_toJson he.times
  unfold marshalled
  rw [show e.toJson.failure? = none by
    simp [Event.toJson, failure?, fieldsFailure?, failure?_ofInstant he.occurredAt, hp]]

/-! ### Reading the payload -/

/-- An optional amount written as JSON, when there is one, reads back in normal form. -/
theorem Json.optionReader_ofDecimal (current : Option Decimal) {d : Decimal}
    (h : d.scale ≤ 2 ^ 31) (site : Site) :
    optionReader 0 decimalReader current (Parsed.ofJson (ofDecimal d)) site =
      ⟨some (Decimal.normalize d.num d.scale), none⟩ := by
  have hd := decimalReader_ofDecimal (current.getD 0) d h site
  rw [show Parsed.ofJson (ofDecimal d) = .str d.render (quote d.render) from rfl] at hd ⊢
  simp only [optionReader, hd]

/-- A text field of a payload is named as it was built. -/
@[simp] theorem Payload.textField_name {α : Type} (name : String) (get : α → String)
    (set : α → String → α) : (Payload.textField name get set).name = name := rfl

/-- An amount field of a payload is named as it was built. -/
@[simp] theorem Payload.amountField_name {α : Type} (name : String) (get : α → Decimal)
    (set : α → Decimal → α) : (Payload.amountField name get set).name = name := rfl

/-- A text field of a payload reads the text written. -/
@[simp] theorem Payload.textField_read {α : Type} (name : String) (get : α → String)
    (set : α → String → α) (s : α) (v raw : String) (site : Site) :
    (Payload.textField name get set).read s (.str v raw) site = ⟨set s v, none⟩ := rfl

/-- An amount field of a payload reads the amount written, in normal form. -/
theorem Payload.amountField_read {α : Type} (name : String) (get : α → Decimal)
    (set : α → Decimal → α) (s : α) {d : Decimal} (h : d.scale ≤ 2 ^ 31) (site : Site) :
    (Payload.amountField name get set).read s (Parsed.ofJson (ofDecimal d)) site =
      ⟨set s (Decimal.normalize d.num d.scale), none⟩ := by
  simp [Payload.amountField, decimalReader_ofDecimal _ _ h]

/-- The JSON of a payload reads back, through the reader of its kind, as the payload with its
amounts in normal form. Each record is read member by member, each member by the lemma of its
field's kind: texts and flags as written, amounts in normal form, the time as written. -/
theorem Payload.decode_toJson (p : Payload) (ha : ∀ d ∈ p.amounts, d.scale ≤ 2 ^ 31)
    (ht : ∀ t ∈ p.times, t.Storable) :
    Payload.decode p.kind (Parsed.ofJson p.toJson) = .ok p.readBack := by
  cases p with
  | placed q =>
    have h₁ : q.amount.scale ≤ 2 ^ 31 := ha _ (by simp [amounts])
    have h₂ : q.bidTime.Storable := ht _ (by simp [times])
    simp [decode, kind, decodeParsed, placedReader, toJson, readMembers, selectField,
      amountField_read _ _ _ _ h₁, instantReader_ofInstant _ _ h₂, readBack, mapAmounts,
      Except.map]
  | accepted q =>
    have h₁ : q.amount.scale ≤ 2 ^ 31 := ha _ (by simp [amounts])
    simp [decode, kind, decodeParsed, acceptedReader, toJson, readMembers, selectField,
      amountField_read _ _ _ _ h₁, readBack, mapAmounts, Except.map]
  | rejected q =>
    have h₁ : q.amount.scale ≤ 2 ^ 31 := ha _ (by simp [amounts])
    simp [decode, kind, decodeParsed, rejectedReader, toJson, readMembers, selectField,
      amountField_read _ _ _ _ h₁, readBack, mapAmounts, Except.map]
  | highestUpdated q =>
    have h₁ : q.newHighestAmount.scale ≤ 2 ^ 31 := ha _ (by simp [amounts])
    cases h : q.previousHighestAmount with
    | none =>
      by_cases h₃ : q.previousBidderId = "" <;>
        simp [decode, kind, decodeParsed, highestUpdatedReader, toJson, h, h₃,
          String.isEmpty_iff, readMembers, selectField, amountField_read _ _ _ _ h₁, readBack,
          mapAmounts, Except.map]
    | some a =>
      have h₂ : a.scale ≤ 2 ^ 31 := ha a (by simp [amounts, h])
      by_cases h₃ : q.previousBidderId = "" <;>
        simp [decode, kind, decodeParsed, highestUpdatedReader, toJson, h, h₃,
          String.isEmpty_iff, readMembers, selectField, amountField_read _ _ _ _ h₁,
          optionReader_ofDecimal _ h₂, readBack, mapAmounts, Except.map]
  | retracted q =>
    have h₁ : q.amount.scale ≤ 2 ^ 31 := ha _ (by simp [amounts])
    cases h : q.newHighestAmount with
    | none =>
      by_cases h₃ : q.newHighestBidId = "" <;> by_cases h₄ : q.newHighestBidderId = "" <;>
        simp [decode, kind, decodeParsed, retractedReader, toJson, h, h₃, h₄, String.isEmpty_iff,
          readMembers, selectField, amountField_read _ _ _ _ h₁, readBack, mapAmounts, Except.map]
    | some a =>
      have h₂ : a.scale ≤ 2 ^ 31 := ha a (by simp [amounts, h])
      by_cases h₃ : q.newHighestBidId = "" <;> by_cases h₄ : q.newHighestBidderId = "" <;>
        simp [decode, kind, decodeParsed, retractedReader, toJson, h, h₃, h₄, String.isEmpty_iff,
          readMembers, selectField, amountField_read _ _ _ _ h₁, optionReader_ofDecimal _ h₂,
          readBack, mapAmounts, Except.map]

/-! ### Reading the envelope -/

/-- The JSON of an envelope reads back as the envelope, its payload kept as the value written. -/
theorem Envelope.reader_envelopeJson (id type auctionId : String) {t : Instant} (ht : t.Storable)
    (payload : Json) (site : Site) :
    Envelope.reader {} (Parsed.ofJson (Event.envelopeJson id type auctionId t payload)) site =
      ⟨{ id, type, auctionId, occurredAt := t, payload := some (Parsed.ofJson payload) }, none⟩ := by
  simp [Envelope.reader, Event.envelopeJson, readMembers, selectField,
    instantReader_ofInstant _ _ ht]

/-- The text of an envelope is read as the envelope, whatever its payload. -/
theorem Event.decode_envelopeJson (id type auctionId : String) {t : Instant} (ht : t.Storable)
    {payload : Json} (hp : Plain payload) :
    Json.read (Event.envelopeJson id type auctionId t payload).render =
        .ok (Parsed.ofJson (Event.envelopeJson id type auctionId t payload)) ∧
      decodeParsed "envelope" Envelope.reader {}
          (Parsed.ofJson (Event.envelopeJson id type auctionId t payload)) =
        .ok { id, type, auctionId, occurredAt := t, payload := some (Parsed.ofJson payload) } := by
  refine ⟨read_render (Event.plain_envelopeJson id type auctionId t hp), ?_⟩
  simp only [decodeParsed, Envelope.reader_envelopeJson id type auctionId ht]

/-! ### Events read back -/

/-- A storable event, written as the text of its JSON, reads back as itself with its amounts in
normal form. -/
theorem Event.ofText_toJson (e : Event) (he : e.Storable) :
    Event.ofText e.toJson.marshalled.render = .ok e.readBack := by
  obtain ⟨hread, henv⟩ := Event.decode_envelopeJson e.id e.kind.name e.auctionId he.occurredAt
    (Payload.plain_toJson e.payload)
  have hpayload : Payload.decode e.kind (Parsed.ofJson e.payload.toJson) = .ok e.payload.readBack :=
    Payload.decode_toJson e.payload he.amounts he.times
  rw [Event.marshalled_toJson he, Event.toJson_eq_envelopeJson, Event.ofText, hread]
  simp only [Event.ofParsed, henv, bind, Except.bind, EventKind.ofName?_name, hpayload]
  rfl

/-- An envelope whose type names none of the kinds is refused as an unknown event type,
whatever its payload. -/
theorem Event.ofText_envelopeJson_unknown (id type auctionId : String) {t : Instant}
    (ht : t.Storable) {payload : Json} (hp : Plain payload)
    (hunknown : ∀ k : EventKind, k.name ≠ type) :
    Event.ofText (Event.envelopeJson id type auctionId t payload).render =
      .error (.other ("unknown event type " ++ Text.quote type)) := by
  obtain ⟨hread, henv⟩ := Event.decode_envelopeJson id type auctionId ht hp
  rw [Event.ofText, hread]
  simp only [Event.ofParsed, henv, bind, Except.bind, EventKind.ofName?_eq_none hunknown]
  rfl

/-- Every event the publisher writes is read back by the subscriber as itself: the same id,
auction and time, a payload of the same kind with the same texts, flags and optional fields,
and amounts of the same value, written in normal form. An envelope whose type names none of the
five kinds is refused as an unknown event type, whatever its payload. -/
theorem events_read_back_from_their_text :
    (∀ e : Event, e.Storable →
      Event.ofText e.toJson.marshalled.render = .ok e.readBack ∧
        e.readBack.payload.amounts.map Decimal.toRat = e.payload.amounts.map Decimal.toRat) ∧
    (∀ (id type auctionId : String) (t : Instant) (payload : Json), t.Storable → Plain payload →
      (∀ k : EventKind, k.name ≠ type) →
      Event.ofText (Event.envelopeJson id type auctionId t payload).render =
        .error (.other ("unknown event type " ++ Text.quote type))) :=
  ⟨fun e he => ⟨Event.ofText_toJson e he, Event.amounts_readBack e⟩,
    fun id type auctionId _ _ ht hp hunknown =>
      Event.ofText_envelopeJson_unknown id type auctionId ht hp hunknown⟩

/-- A new lead of 160 over a lead of 150 reads back with both amounts, and an envelope of type
`Nope` with an empty payload is refused. -/
theorem events_read_back_from_their_text_lead :
    let e : Event := ⟨"e-1", "a-1", Instant.zero, .highestUpdated
      { auctionId := "a-1", bidId := "b-2", bidderId := "u-2", newHighestAmount := 160,
        previousHighestAmount := some 150, previousBidderId := "u-1", isAutoBid := true }⟩
    (e.Storable ∧ Event.ofText e.toJson.marshalled.render = .ok e.readBack) ∧
      (Instant.zero.Storable ∧ (∀ k : EventKind, k.name ≠ "Nope") ∧
        Event.ofText (Event.envelopeJson "e" "Nope" "" Instant.zero (.obj [])).render =
          .error (.other ("unknown event type " ++ Text.quote "Nope"))) := by
  intro e
  have hzero : Instant.zero.Storable := ⟨rfl, by decide, by decide⟩
  have he : e.Storable := ⟨hzero, by decide, by simp [e, Payload.times]⟩
  have hnope : ∀ k : EventKind, k.name ≠ "Nope" := by
    intro k
    cases k <;> decide
  exact ⟨⟨he, (events_read_back_from_their_text.1 e he).1⟩, hzero, hnope,
    events_read_back_from_their_text.2 "e" "Nope" "" Instant.zero (.obj []) hzero trivial hnope⟩

end Auction
