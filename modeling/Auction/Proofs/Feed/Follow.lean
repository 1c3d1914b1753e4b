import Mathlib
import Auction.Proofs.Invariant.Proxy
import Auction.Proofs.Ledger.Pool
import Auction.Feed.Listener
import Auction.Service.Close
import Auction.Scenario.Setup

/-!
# The feed follows the ledger

The feed loads the snapshot of an auction once (`Feed.snapshot_of_uncached`) and from then on
keeps it up to date from the events it is handed (`Feed.deliver_find?`): a placed bid counts one
more bid, a new lead moves the lead and the minimum next bid, and the withdrawal of the lead
moves the lead to what the withdrawal names. The state the service reports is read off the
stored book (`auctionState_of_load`). Both read a book through `Book.shown`, and this module
compares them on the figures the events keep up to date (`Figures`): the lead, its amount and
bidder, the minimum next bid and the number of bids.

Every transaction emits events that keep these figures in step with its working book
(`Txn.Followed`). Accepting a bid emits the placed bid and the new lead (`Txn.accept_followed`),
so the cascade's rounds keep the figures in step (`Cascade.rounds_preserves`, which any property
kept by an accepted bid, a recorded answer and a drawn id passes through the rounds). A
withdrawal announces the lead it settled on before the lead handed back and the cascade's
answers: a later new lead overwrites what it names, and without one nobody leads, so it names
nothing (`Withdrawal.followAll_settled`).

So an operation that commits reports events that take a snapshot of the book it loaded to the
book it stored (`Publishes.follow`), and a snapshot of a reachable book handed the events of
the operations committed after its load, in commit order, shows the figures of the last book
stored (`Published.follow`). Through the feed's own lemmas, the snapshot the feed caches and
then moves by those events shows what the service reports of the last book
(`snapshot_follows_later_operations`). A snapshot that loads a book after an operation
committed, and is then handed that operation's events, counts them twice
(`snapshot_counts_earlier_events_twice`).
-/

namespace Auction

/-! ### The figures a snapshot shows -/

/-- What the events of an auction keep up to date in its snapshot. -/
structure Figures where
  highestBidId : String
  highestAmount : Decimal
  highestBidderId : String
  minimumNextBid : Decimal
  bidCount : Nat

/-- The figures of a state. -/
def AuctionState.figures (s : AuctionState) : Figures :=
  ⟨s.highestBidId, s.highestAmount, s.highestBidderId, s.minimumNextBid, s.bidCount⟩

/-- The state of a book as the service shows it, with the minimum next bid it advertises: what
the auction state reports and what a snapshot loads. -/
def Book.shown (b : Book) : AuctionState := { b.state with minimumNextBid := b.minimumNextBid }

/-- The figures of a book as shown are its lead, its amount and bidder, its minimum next bid and its
number of bids. -/
theorem Book.shown_figures (b : Book) :
    b.shown.figures = ⟨b.highestBidId, b.highestAmount, b.highestBidderId, b.minimumNextBid,
      b.bids.length⟩ := rfl

/-- Whether an event names a new lead. -/
def Payload.leads : Payload → Bool
  | .highestUpdated _ => true
  | _ => false

/-- Whether an event withdraws a bid. -/
def Payload.withdraws : Payload → Bool
  | .retracted _ => true
  | _ => false

namespace Feed

/-- A snapshot once it followed `evs`, in order. -/
def followAll (s : AuctionState) (evs : List Event) : AuctionState :=
  evs.foldl (fun s e => follow s e.payload) s

/-- A snapshot that follows no event is unchanged. -/
@[simp] theorem followAll_nil (s : AuctionState) : followAll s [] = s := rfl

/-- Following two runs of events is following the first, then the second. -/
theorem followAll_append (s : AuctionState) (l₁ l₂ : List Event) :
    followAll s (l₁ ++ l₂) = followAll (followAll s l₁) l₂ := List.foldl_append

/-- Following events is following the first, then the rest. -/
theorem followAll_cons (s : AuctionState) (e : Event) (l : List Event) :
    followAll s (e :: l) = followAll (follow s e.payload) l := rfl

/-- What a snapshot shows after an event depends only on what it showed before. -/
theorem figures_follow {s s' : AuctionState} (h : s.figures = s'.figures) (p : Payload) :
    (follow s p).figures = (follow s' p).figures := by
  simp only [AuctionState.figures, Figures.mk.injEq] at h
  obtain ⟨h₁, h₂, h₃, h₄, h₅⟩ := h
  cases p with
  | retracted q =>
    simp only [follow]
    by_cases hw : q.wasHighestBid
    · cases q.newHighestAmount <;> simp [hw, AuctionState.figures, h₅]
    · simp [hw, AuctionState.figures, h₁, h₂, h₃, h₄, h₅]
  | _ => simp [follow, AuctionState.figures, h₁, h₂, h₃, h₄, h₅]

/-- Snapshots that show the same figures show the same figures after the same events. -/
theorem figures_followAll {s s' : AuctionState} (h : s.figures = s'.figures) (l : List Event) :
    (followAll s l).figures = (followAll s' l).figures := by
  induction l generalizing s s' with
  | nil => exact h
  | cons e l ih => exact ih (figures_follow h e.payload)

/-- Following a withdrawal keeps the count of bids. -/
@[simp] theorem bidCount_follow_retracted (s : AuctionState) (q : BidRetracted) :
    (follow s (.retracted q)).bidCount = s.bidCount := by
  simp only [follow]
  by_cases hw : q.wasHighestBid
  · cases q.newHighestAmount <;> simp [hw]
  · simp [hw]

/-- Following a withdrawal of the lead moves the lead to the bid it names; any other withdrawal
keeps the lead. -/
theorem highestBidId_follow_retracted (s : AuctionState) (q : BidRetracted) :
    (follow s (.retracted q)).highestBidId =
      if q.wasHighestBid then q.newHighestBidId else s.highestBidId := by
  simp only [follow]
  by_cases hw : q.wasHighestBid
  · cases q.newHighestAmount <;> simp [hw]
  · simp [hw]

/-- No event changes the count of bids but a placed bid, whatever the snapshot showed. -/
theorem bidCount_follow {s s' : AuctionState} (h : s.bidCount = s'.bidCount) (p : Payload) :
    (follow s p).bidCount = (follow s' p).bidCount := by
  cases p with
  | retracted q => rw [bidCount_follow_retracted, bidCount_follow_retracted, h]
  | _ => simp [follow, h]

/-- Once an event names a new lead, what two snapshots with the same count of bids show no
longer differs: the new lead overwrites everything else they show. -/
theorem figures_followAll_of_leads {s s' : AuctionState} (h : s.bidCount = s'.bidCount)
    {l : List Event} (hl : ∃ e ∈ l, e.payload.leads = true) :
    (followAll s l).figures = (followAll s' l).figures := by
  induction l generalizing s s' with
  | nil =>
    obtain ⟨e, he, -⟩ := hl
    cases he
  | cons e l ih =>
    rw [followAll_cons, followAll_cons]
    cases hp : e.payload with
    | highestUpdated q =>
      apply figures_followAll
      simp [follow, AuctionState.figures, h]
    | _ =>
      obtain ⟨e', he', hlead⟩ := hl
      rcases List.mem_cons.mp he' with rfl | he'
      · simp [hp, Payload.leads] at hlead
      · exact ih (bidCount_follow h _) ⟨e', he', hlead⟩

/-- Events that neither name a lead nor withdraw a bid keep the lead a snapshot shows. -/
theorem highestBidId_followAll {s : AuctionState} {l : List Event}
    (hl : ∀ e ∈ l, e.payload.leads = false ∧ e.payload.withdraws = false) :
    (followAll s l).highestBidId = s.highestBidId := by
  induction l generalizing s with
  | nil => rfl
  | cons e l ih =>
    rw [followAll_cons, ih fun e' he' => hl e' (List.mem_cons_of_mem _ he')]
    obtain ⟨hlead, hwd⟩ := hl e List.mem_cons_self
    cases hp : e.payload with
    | highestUpdated q => simp [hp, Payload.leads] at hlead
    | retracted q => simp [hp, Payload.withdraws] at hwd
    | _ => rfl

end Feed

/-! ### Transactions emit the events that follow their book -/

namespace Txn

open Feed

variable {s₀ : AuctionState}

/-- The events a transaction emitted so far, followed from a snapshot `s₀`, show the figures of
its working book. -/
def Followed (s₀ : AuctionState) (t : Txn) : Prop :=
  (followAll s₀ t.events).figures = t.book.shown.figures

/-- Entering a bid adds one bid. -/
theorem entered_length (b : Book) (bid : Bid) (now : Instant) :
    (entered b bid now).1.bids.length = b.bids.length + 1 := by
  simpa using congrArg List.length (entered_bid_ids b bid now)

/-- An accepted bid emits, in order, its placement, its acceptance and the new lead it is over
the previous one, all three about the auction of its book. -/
theorem accept_events {t t' : Txn} {bid : Bid} (h : (accept bid).run.run t = (.ok (), t')) :
    ∃ e₁ e₂ e₃ : Event, t'.events = t.events ++ [e₁, e₂, e₃] ∧ (∃ p, e₁.payload = .placed p) ∧
      (∃ a, e₂.payload = .accepted a) ∧
      e₃.payload = highestUpdated (entered t.book bid t.now).2 t.book.highestBid? ∧
      ∀ e ∈ [e₁, e₂, e₃], e.auctionId = t.book.auctionId := by
  cases hr : refusal bid.amount t.book.highestAmount with
  | some e =>
    rw [accept_run_of_refusal hr] at h
    cases h
  | none =>
    rw [accept, run_get_bind] at h
    simp only [hr] at h
    obtain ⟨-, rfl⟩ := Prod.mk.inj h
    dsimp only
    simp only [List.append_assoc, List.cons_append, List.nil_append]
    refine ⟨_, _, _, rfl, ⟨_, rfl⟩, ⟨_, rfl⟩, rfl, fun e he => ?_⟩
    simp only [List.mem_cons, List.not_mem_nil, or_false] at he
    rcases he with rfl | rfl | rfl <;> exact entered_auctionId t.book bid t.now

/-- A bid accepted under a non-empty id emits events that keep the snapshot in step. -/
theorem accept_followed {t t' : Txn} {bid : Bid} (h : (accept bid).run.run t = (.ok (), t'))
    (hid : bid.id ≠ "") (hf : t.Followed s₀) : t'.Followed s₀ := by
  obtain ⟨-, hb, -, -⟩ := accept_eq_ok h
  obtain ⟨e₁, e₂, e₃, he, ⟨p, h₁⟩, ⟨a, h₂⟩, h₃, -⟩ := accept_events h
  unfold Followed at hf ⊢
  rw [he, followAll_append, followAll_cons, followAll_cons, followAll_cons, followAll_nil, h₁,
    h₂, h₃, hb]
  generalize followAll s₀ t.events = s at hf
  have hcount : s.bidCount = t.book.bids.length := congrArg Figures.bidCount hf
  simp [follow, highestUpdated, AuctionState.figures, Book.shown, Book.state, Book.minimumNextBid,
    entered_length, hcount, String.isEmpty_iff, hid]

/-- A failure leaves the transaction as it was. -/
@[simp] theorem run_throw {α : Type} (f : Fault) (t : Txn) :
    (throw f : TxnM α).run.run t = (.error f, t) := rfl

/-- A handler that only rethrows lets a computation succeed exactly where it would alone. -/
theorem run_tryCatch_eq_ok {α : Type} {x : TxnM α} {g : Fault → Fault} {t t' : Txn} {a : α}
    (h : (tryCatch x fun e => throw (g e) : TxnM α).run.run t = (.ok a, t')) :
    x.run.run t = (.ok a, t') := by
  rw [run_tryCatch] at h
  rcases hx : x.run.run t with ⟨e | b, t₁⟩
  · rw [hx] at h
    cases h
  · rw [hx] at h
    exact h

/-- The events a transaction emitted after `base` withdraw nothing. -/
def WithdrawsNothingAfter (base : List Event) (t : Txn) : Prop :=
  ∃ post, t.events = base ++ post ∧ ∀ e ∈ post, e.payload.withdraws = false

/-- An accepted bid withdraws nothing. -/
theorem accept_withdrawsNothingAfter {base : List Event} {t t' : Txn} {bid : Bid}
    (h : (accept bid).run.run t = (.ok (), t')) (hq : t.WithdrawsNothingAfter base) :
    t'.WithdrawsNothingAfter base := by
  obtain ⟨post, hpost, hq⟩ := hq
  obtain ⟨e₁, e₂, e₃, he, ⟨p, h₁⟩, ⟨a, h₂⟩, h₃, -⟩ := accept_events h
  refine ⟨post ++ [e₁, e₂, e₃], by rw [he, hpost, List.append_assoc], fun e he' => ?_⟩
  rcases List.mem_append.mp he' with he' | he'
  · exact hq e he'
  · simp only [List.mem_cons, List.not_mem_nil, or_false] at he'
    rcases he' with rfl | rfl | rfl <;> simp [h₁, h₂, h₃, highestUpdated, Payload.withdraws]

end Txn

namespace Cascade

open Txn

/-- What an answer keeps, every run of the rounds keeps: an answer draws the next id, accepts a
bid under it, and records the bid on its auto-bid. -/
theorem rounds_preserves_answering {P : Txn → Prop}
    (hanswer : ∀ {t t' : Txn} {bid : Bid}, bid.id = idOf (t.drawn + 1) →
      (accept bid).run.run { t with drawn := t.drawn + 1 } = (.ok (), t') → P t → P t')
    (hrecord : ∀ {t : Txn} {i : Nat} {f : AutoBid → AutoBid}, P t →
      P { t with book := t.book.modifyAutoBid i f }) {bound : Nat} :
    ∀ {fuel done n : Nat} {t t' : Txn}, (rounds bound fuel done).run.run t = (.ok n, t') →
      P t → P t'
  | 0, done, n, t, t', h, hP => by
    rw [rounds, run_pure, Prod.mk.injEq] at h
    obtain ⟨-, rfl⟩ := h
    exact hP
  | fuel + 1, done, n, t, t', h, hP => by
    cases hL : t.book.highestBid? with
    | none =>
      rw [rounds_of_no_leader hL, Prod.mk.injEq] at h
      obtain ⟨-, rfl⟩ := h
      exact hP
    | some L =>
      cases hsel : selectResponder t.book L (minimumNextBid L.amount) with
      | none =>
        rw [rounds_of_no_responder hL hsel, Prod.mk.injEq] at h
        obtain ⟨-, rfl⟩ := h
        exact hP
      | some sel =>
        obtain ⟨i, r, c⟩ := sel
        rw [rounds, run_get_bind] at h
        simp only [hL, hsel] at h
        by_cases hdone : done ≥ bound
        · simp only [hdone, if_true] at h
          obtain ⟨_, _, h₁, -⟩ := run_bind_eq_ok h
          rw [run_throw] at h₁
          cases h₁
        · simp only [hdone, if_false] at h
          obtain ⟨_, _, h₁, h⟩ := run_bind_eq_ok h
          rw [run_drawId] at h₁
          cases h₁
          obtain ⟨_, t₂, h₂, h⟩ := run_bind_eq_ok h
          obtain ⟨_, _, h₃, h⟩ := run_bind_eq_ok h
          rw [run_modifyBook] at h₃
          cases h₃
          exact rounds_preserves_answering hanswer hrecord h
            (hrecord (hanswer rfl (run_tryCatch_eq_ok h₂) hP))

/-- What accepting a bid under a non-empty id, recording an answer on its auto-bid and drawing
an id each keep, every run of the rounds keeps. -/
theorem rounds_preserves {P : Txn → Prop}
    (haccept : ∀ {t t' : Txn} {bid : Bid}, bid.id ≠ "" → (accept bid).run.run t = (.ok (), t') →
      P t → P t')
    (hrecord : ∀ {t : Txn} {i : Nat} {f : AutoBid → AutoBid}, P t →
      P { t with book := t.book.modifyAutoBid i f })
    (hdraw : ∀ {t : Txn}, P t → P { t with drawn := t.drawn + 1 }) {bound : Nat}
    {fuel done n : Nat} {t t' : Txn} (h : (rounds bound fuel done).run.run t = (.ok n, t'))
    (hP : P t) : P t' :=
  rounds_preserves_answering
    (fun hid hacc hP => haccept (hid ▸ idOf_ne_empty _) hacc (hdraw hP)) hrecord h hP

/-- What the rounds keep, the whole cascade keeps. -/
theorem resolve_preserves {P : Txn → Prop}
    (haccept : ∀ {t t' : Txn} {bid : Bid}, bid.id ≠ "" → (accept bid).run.run t = (.ok (), t') →
      P t → P t')
    (hrecord : ∀ {t : Txn} {i : Nat} {f : AutoBid → AutoBid}, P t →
      P { t with book := t.book.modifyAutoBid i f })
    (hdraw : ∀ {t : Txn}, P t → P { t with drawn := t.drawn + 1 }) {t t' : Txn} {n : Nat}
    (h : resolve.run.run t = (.ok n, t')) (hP : P t) : P t' := by
  rw [resolve, run_get_bind] at h
  exact rounds_preserves haccept hrecord hdraw h hP

/-- The cascade emits events that keep the snapshot in step. -/
theorem resolve_followed {s₀ : AuctionState} {t t' : Txn} {n : Nat}
    (h : resolve.run.run t = (.ok n, t')) (hf : t.Followed s₀) : t'.Followed s₀ :=
  resolve_preserves (fun hid hacc hf => accept_followed hacc hid hf) id id h hf

/-- The cascade withdraws nothing. -/
theorem resolve_withdrawsNothingAfter {base : List Event} {t t' : Txn} {n : Nat}
    (h : resolve.run.run t = (.ok n, t')) (hq : t.WithdrawsNothingAfter base) :
    t'.WithdrawsNothingAfter base :=
  resolve_preserves (fun _ hacc hq => accept_withdrawsNothingAfter hacc hq) id id h hq

end Cascade

/-! ### A withdrawal announces the lead it settled on -/

namespace Withdrawal

open Txn Feed Cascade

variable {s₀ : AuctionState}

/-- Withdrawing a bid keeps what a snapshot shows: only the lead moves, and not yet. -/
theorem withdrawn_figures (b : Book) (i : Nat) (bidderId : String) (now : Instant) :
    (withdrawn b i bidderId now).shown.figures = b.shown.figures := by
  simp [Book.shown_figures, Book.minimumNextBid]

/-- Withdrawing keeps the ids of the bids. -/
theorem withdrawn_ids (b : Book) (i : Nat) (bidderId : String) (now : Instant) :
    (withdrawn b i bidderId now).bids.map (·.id) = b.bids.map (·.id) := by
  rw [Book.withdrawn_bids]
  exact map_updateAt _ _ _ _ fun _ => rfl

/-- Handing a withdrawn lead on, from a snapshot that shows nobody leading, emits the new lead
when there is one and brings the snapshot back in step. -/
theorem handBack_followed {t t' : Txn} {bid : Bid} (h : (handBack bid).run.run t = (.ok (), t'))
    (hids : ∀ x ∈ t.book.bids, x.id ≠ "")
    (hf : (followAll s₀ t.events).figures = (t.book.setHighest none).shown.figures) :
    t'.Followed s₀ ∧ t'.WithdrawsNothingAfter t.events := by
  rw [handBack, run_get_bind] at h
  cases hs : t.book.bestStanding? with
  | none =>
    simp only [hs] at h
    rw [run_modifyBook] at h
    cases h
    exact ⟨hf, [], by simp, by simp⟩
  | some p =>
    obtain ⟨j, next⟩ := p
    simp only [hs] at h
    obtain ⟨_, _, h₁, h⟩ := run_bind_eq_ok h
    rw [run_modifyBook] at h₁
    cases h₁
    rw [run_emit] at h
    cases h
    have hnext : next.id ≠ "" := by
      obtain h | ⟨k, hk, -⟩ := bestStandingFrom_eq_some hs
      · cases h
      · exact hids next (List.mem_of_getElem? hk)
    refine ⟨?_, [_], rfl, by simp [highestUpdated, Payload.withdraws]⟩
    unfold Followed
    rw [followAll_append, followAll_cons, followAll_nil]
    generalize followAll s₀ t.events = s at hf
    have hcount : s.bidCount = t.book.bids.length := congrArg Figures.bidCount hf
    simp [follow, highestUpdated, AuctionState.figures, Book.shown, Book.state, Book.setHighest,
      Book.minimumNextBid, hcount, String.isEmpty_iff, hnext]

/-- Rewriting the withdrawal's event `R` to name the lead the cascade settled on keeps the
snapshot in step: a new lead after it overwrites what it names, and without one nobody leads
afterwards, so there is no lead to name. -/
theorem followAll_settled {b : Book} {pre post : List Event} {R : Event} {p : BidRetracted}
    {f : Event → Event} (hR : R.payload = .retracted p) (hnew : p.newHighestBidId = "")
    (hfR : f R = { R with payload := .retracted (settle p b) })
    (hfix : ∀ e, e.payload.withdraws = false → f e = e)
    (hpre : ∀ e ∈ pre, e.payload.withdraws = false) (hpost : ∀ e ∈ post, e.payload.withdraws = false)
    (hf : (followAll s₀ (pre ++ R :: post)).figures = b.shown.figures) :
    (followAll s₀ ((pre ++ R :: post).map f)).figures = b.shown.figures := by
  have hmap : (pre ++ R :: post).map f = pre ++ { R with payload := .retracted (settle p b) } :: post := by
    rw [List.map_append, List.map_cons, hfR, List.map_congr_left fun e he => hfix e (hpre e he),
      List.map_congr_left fun e he => hfix e (hpost e he), List.map_id', List.map_id']
  rw [hmap]
  rw [followAll_append, followAll_cons] at hf ⊢
  generalize followAll s₀ pre = s at hf ⊢
  by_cases hlead : ∃ e ∈ post, e.payload.leads = true
  · rw [← hf]
    exact figures_followAll_of_leads (by rw [hR, bidCount_follow_retracted, bidCount_follow_retracted])
      hlead
  · have hquiet : ∀ e ∈ post, e.payload.leads = false ∧ e.payload.withdraws = false :=
      fun e he => ⟨by simpa using fun h => hlead ⟨e, he, h⟩, hpost e he⟩
    have hid : b.highestBidId = (follow s R.payload).highestBidId := by
      rw [← highestBidId_followAll hquiet]
      exact (congrArg Figures.highestBidId hf).symm
    rw [hR, highestBidId_follow_retracted] at hid
    have hsettle : settle p b = p := by
      unfold settle
      by_cases hw : p.wasHighestBid
      · simp [hw, hid, hnew]
      · simp [hw]
    rw [hsettle, ← hR]
    exact hf

/-- A withdrawal emits events that keep the snapshot in step: the withdrawal, rewritten at the
end to name the lead the cascade settled on, then the lead handed back and the cascade's
answers. -/
theorem apply_followed {t t' : Txn} {i : Nat} {bid : Bid} {reason : String} {q : BidRetracted}
    (h : (apply i bid reason).run.run t = (.ok q, t')) (hids : ∀ x ∈ t.book.bids, x.id ≠ "")
    (hquiet : ∀ e ∈ t.events, e.payload.withdraws = false) (hf : t.Followed s₀) :
    t'.Followed s₀ := by
  rw [apply, run_get_bind] at h
  obtain ⟨_, _, h₀, h⟩ := run_bind_eq_ok h
  rw [run_modifyBook] at h₀
  cases h₀
  obtain ⟨_, t₁, h₁, h⟩ := run_bind_eq_ok h
  rw [run_emit, Prod.mk.injEq] at h₁
  obtain ⟨-, ht₁⟩ := h₁
  obtain ⟨_, t₂, h₂, h⟩ := run_bind_eq_ok h
  obtain ⟨_, t₃, h₃, h⟩ := run_bind_eq_ok h
  rw [run_get_bind] at h
  obtain ⟨_, _, h₄, h⟩ := run_bind_eq_ok h
  rw [run_modify] at h₄
  cases h₄
  rw [run_pure] at h
  cases h
  have hids' : ∀ x ∈ (withdrawn t.book i bid.bidderId t.now).bids, x.id ≠ "" := by
    intro x hx
    have : x.id ∈ t.book.bids.map (·.id) := withdrawn_ids t.book i bid.bidderId t.now ▸
      List.mem_map_of_mem hx
    obtain ⟨y, hy, hxy⟩ := List.mem_map.mp this
    exact hxy ▸ hids y hy
  have hstep₂ : t₂.Followed s₀ ∧ t₂.WithdrawsNothingAfter t₁.events := by
    subst ht₁
    unfold Followed at hf
    by_cases hlead : t.book.highestBidId = bid.id
    · rw [if_pos (beq_iff_eq.mpr hlead)] at h₂
      refine handBack_followed h₂ hids' ?_
      rw [followAll_append, followAll_cons, followAll_nil]
      generalize followAll s₀ t.events = s at hf
      have hcount : s.bidCount = t.book.bids.length := congrArg Figures.bidCount hf
      simp [follow, hlead, AuctionState.figures, Book.shown, Book.state, Book.setHighest,
        Book.minimumNextBid, hcount]
    · rw [if_neg (by simpa using hlead), run_pure] at h₂
      cases h₂
      refine ⟨?_, [], by simp, by simp⟩
      unfold Followed
      rw [followAll_append, followAll_cons, followAll_nil, withdrawn_figures, ← hf]
      simp [follow, hlead]
  obtain ⟨hf₃, post, hpost, hpost'⟩ :=
    And.imp (resolve_followed h₃) (resolve_withdrawsNothingAfter h₃) hstep₂
  unfold Followed at hf₃ ⊢
  dsimp only
  rw [hpost] at hf₃ ⊢
  subst ht₁
  dsimp only at hf₃ ⊢
  rw [List.append_assoc, List.singleton_append] at hf₃ ⊢
  refine followAll_settled rfl rfl ?_ ?_ hquiet hpost' hf₃
  · simp
  · intro e he
    cases hp : e.payload with
    | retracted p => simp [hp, Payload.withdraws] at he
    | _ => rfl

end Withdrawal

/-! ### What a committed operation publishes -/

/-- The change `c` of the book `b`, run against the house `h`, writes `w` and reports `out`. -/
def House.Reports {ε α : Type} (c : Book → HouseM (Except ε (House.Change α))) (b w : Book)
    (out : α) (h : House) : Prop :=
  ∃ hooks h', ((c b).run hooks).run h = (.ok (.write w out), h')

/-- A change that reports a write writes. -/
theorem House.Reports.writes {ε α : Type} {c : Book → HouseM (Except ε (House.Change α))}
    {b w : Book} {out : α} {h : House} (hr : House.Reports c b w out h) : House.Writes c b w h :=
  let ⟨hooks, h', hrun⟩ := hr
  ⟨hooks, out, h', hrun⟩

open Txn Cascade Feed

variable {s₀ : AuctionState}

/-- A transaction that has emitted nothing yet is in step with a snapshot of its book. -/
theorem Txn.followed_start {b : Book} {now : Instant} {drawn : Nat}
    (hs : s₀.figures = b.shown.figures) : Txn.Followed s₀ ⟨b, now, [], drawn⟩ :=
  hs

/-- A placement that writes ran its transaction to the book it writes, with its events. -/
theorem Placement.reports_run {req : PlaceRequest} {bid : Bid} {b w : Book} {evs : List Event}
    {h : House} (hw : House.Reports (Placement.change req bid) b w evs h) :
    ∃ t, Txn.run (do accept bid; let _ ← resolve; pure ()) b h.now h.drawn = (.ok (), t) ∧
      w = t.book ∧ evs = t.events := by
  obtain ⟨hooks, h', hrun⟩ := hw
  unfold Placement.change at hrun
  cases hc : b.closed
  · simp only [hc, Bool.false_eq_true, if_false, House.run_runTxn_bind] at hrun
    rcases hr : Txn.run (do accept bid; let _ ← resolve; pure ()) b h.now h.drawn with
      ⟨_ | _, t⟩
    · rw [hr] at hrun
      cases congrArg Prod.fst hrun
    · rw [hr] at hrun
      cases congrArg Prod.fst hrun
      exact ⟨t, rfl, rfl, rfl⟩
  · simp only [hc, if_true] at hrun
    cases congrArg Prod.fst hrun

/-- The events of a placement under a non-empty id take a snapshot of the book it loaded to the
book it writes. -/
theorem Placement.reports_follow {req : PlaceRequest} {bid : Bid} {b w : Book}
    {evs : List Event} {h : House} (hw : House.Reports (Placement.change req bid) b w evs h)
    (hid : bid.id ≠ "") (hs : s₀.figures = b.shown.figures) :
    (followAll s₀ evs).figures = w.shown.figures := by
  obtain ⟨t, hrun, rfl, rfl⟩ := Placement.reports_run hw
  obtain ⟨_, t₁, hacc, hrest⟩ := run_bind_eq_ok hrun
  obtain ⟨_, t₂, hres, hend⟩ := run_bind_eq_ok hrest
  rw [run_pure] at hend
  cases hend
  exact resolve_followed hres (accept_followed hacc hid (followed_start hs))

/-- A withdrawal that writes found the bid at its position, passed the refusals, and ran its
transaction on it to the book it writes, with its events. -/
theorem Withdrawal.reports_run {req : RetractRequest} {auctionId : String} {now : Instant}
    {window : Duration} {b w : Book} {evs : List Event} {p : Option BidRetracted} {h : House}
    (hw : House.Reports (Withdrawal.change req auctionId now window) b w (evs, p) h) :
    ∃ i bid, b.bidIndex? req.bidId = some i ∧ b.findBid? req.bidId = some bid ∧
      Withdrawal.refusal bid req.bidderId now window = none ∧
      ∃ q t, Txn.run (Withdrawal.apply i bid req.reason) b h.now h.drawn = (.ok q, t) ∧
        w = t.book ∧ evs = t.events := by
  obtain ⟨hooks, h', hrun⟩ := hw
  unfold Withdrawal.change at hrun
  cases hc : b.closed
  · simp only [hc, Bool.false_eq_true, if_false] at hrun
    cases hi : b.bidIndex? req.bidId with
    | none =>
      simp only [hi] at hrun
      cases congrArg Prod.fst hrun
    | some i =>
      cases hf : b.findBid? req.bidId with
      | none =>
        simp only [hi, hf] at hrun
        cases congrArg Prod.fst hrun
      | some bid =>
        simp only [hi, hf] at hrun
        cases hr : refusal bid req.bidderId now window with
        | some e =>
          simp only [hr] at hrun
          cases congrArg Prod.fst hrun
        | none =>
          simp only [hr, House.run_runTxn_bind] at hrun
          rcases ht : Txn.run (apply i bid req.reason) b h.now h.drawn with ⟨_ | q, t⟩
          · rw [ht] at hrun
            cases congrArg Prod.fst hrun
          · rw [ht] at hrun
            cases congrArg Prod.fst hrun
            exact ⟨i, bid, rfl, rfl, hr, q, t, ht, rfl, rfl⟩
  · simp only [hc, if_true] at hrun
    cases congrArg Prod.fst hrun

/-- The events of a withdrawal from a book with non-empty ids take a snapshot of the book it
loaded to the book it writes. -/
theorem Withdrawal.reports_follow {req : RetractRequest} {auctionId : String} {now : Instant}
    {window : Duration} {b w : Book} {evs : List Event} {p : Option BidRetracted} {h : House}
    (hw : House.Reports (Withdrawal.change req auctionId now window) b w (evs, p) h)
    (hids : ∀ x ∈ b.bids, x.id ≠ "") (hs : s₀.figures = b.shown.figures) :
    (followAll s₀ evs).figures = w.shown.figures := by
  obtain ⟨i, bid, -, -, -, q, t, hrun, rfl, rfl⟩ := Withdrawal.reports_run hw
  exact apply_followed hrun hids (fun _ he => absurd he List.not_mem_nil) (followed_start hs)

/-- A registration that writes ran the cascade over the book with the new auto-bid. -/
theorem Proxy.register_reports_run {req : AutoBidRequest} {autoBidId : String} {now : Instant}
    {b w : Book} {evs : List Event} {h : House}
    (hw : House.Reports (Proxy.register req autoBidId now) b w evs h) :
    ∃ n t, Txn.run resolve
        { b with autoBids := b.autoBids ++ [req.autoBid autoBidId now], updatedAt := now }
        h.now h.drawn = (.ok n, t) ∧ w = t.book ∧ evs = t.events := by
  obtain ⟨hooks, h', hrun⟩ := hw
  unfold Proxy.register at hrun
  by_cases hc : b.closed = true
  · rw [if_pos hc] at hrun
    cases congrArg Prod.fst hrun
  · rw [if_neg hc] at hrun
    cases ha : b.activeAutoBidFor? req.userId with
    | some a =>
      simp only [ha] at hrun
      cases congrArg Prod.fst hrun
    | none =>
      cases hm : Proxy.maxRefusal b req.userId req.maxAmount with
      | some e =>
        simp only [ha, hm] at hrun
        cases congrArg Prod.fst hrun
      | none =>
        simp only [ha, hm, House.run_runTxn_bind] at hrun
        rcases ht : Txn.run resolve
            { b with autoBids := b.autoBids ++ [req.autoBid autoBidId now], updatedAt := now }
            h.now h.drawn with ⟨_ | n, t⟩
        · rw [ht] at hrun
          cases congrArg Prod.fst hrun
        · rw [ht] at hrun
          cases congrArg Prod.fst hrun
          exact ⟨n, t, rfl, rfl, rfl⟩

/-- The events of a registration take a snapshot of the book it loaded to the book it writes:
the new auto-bid alone shows nothing, and the cascade's answers follow. -/
theorem Proxy.register_reports_follow {req : AutoBidRequest} {autoBidId : String}
    {now : Instant} {b w : Book} {evs : List Event} {h : House}
    (hw : House.Reports (Proxy.register req autoBidId now) b w evs h)
    (hs : s₀.figures = b.shown.figures) : (followAll s₀ evs).figures = w.shown.figures := by
  obtain ⟨n, t, hrun, rfl, rfl⟩ := Proxy.register_reports_run hw
  exact resolve_followed hrun (followed_start hs)

/-- A pause or a resume that writes changed one auto-bid of the book it loaded: a pause writes
that book and publishes nothing, and a resume runs the cascade over it. -/
theorem Proxy.toggle_reports_run {autoBidId userId : String} {active : Bool} {now : Instant}
    {last : List Event} {b w : Book} {evs : List Event} {h : House}
    (hw : House.Reports (Proxy.toggle autoBidId userId active now last) b w evs h) :
    ∃ (i : Nat) (f : AutoBid → AutoBid),
      (evs = [] ∧ w = { b.modifyAutoBid i f with updatedAt := now }) ∨
        ∃ n t, Txn.run resolve { b.modifyAutoBid i f with updatedAt := now } h.now h.drawn =
          (.ok n, t) ∧ w = t.book ∧ evs = t.events := by
  obtain ⟨hooks, h', hrun⟩ := hw
  unfold Proxy.toggle at hrun
  cases ho : Proxy.owned b autoBidId userId with
  | error f =>
    simp only [ho] at hrun
    cases congrArg Prod.fst hrun
  | ok p =>
    obtain ⟨i, ab⟩ := p
    simp only [ho] at hrun
    cases hcan : ab.isCancelled
    · cases active <;> cases hact : ab.isActive
      · simp only [hcan, hact, Bool.false_eq_true, if_false, beq_self_eq_true, if_true] at hrun
        cases congrArg Prod.fst hrun
      · simp only [hcan, hact, Bool.false_eq_true, if_false, Bool.not_false, if_true,
          beq_iff_eq, Bool.true_eq_false] at hrun
        cases congrArg Prod.fst hrun
        exact ⟨i, _, Or.inl ⟨rfl, rfl⟩⟩
      · cases ha : b.activeAutoBidFor? userId with
        | some a =>
          simp only [hcan, hact, ha, Bool.false_eq_true, if_false, if_true, beq_iff_eq,
            Bool.false_eq_true] at hrun
          cases congrArg Prod.fst hrun
        | none =>
          cases hm : Proxy.maxRefusal b userId ab.maxAmount with
          | some e =>
            simp only [hcan, hact, ha, hm, Bool.false_eq_true, if_false, if_true, beq_iff_eq] at hrun
            cases congrArg Prod.fst hrun
          | none =>
            simp only [hcan, hact, ha, hm, Bool.false_eq_true, if_false, if_true, beq_iff_eq,
              Bool.not_true, House.run_runTxn_bind] at hrun
            split at hrun
            · cases congrArg Prod.fst hrun
            · rename_i n hres
              cases congrArg Prod.fst hrun
              exact ⟨i, _, Or.inr ⟨n, _, Prod.ext hres rfl, rfl, rfl⟩⟩
      · simp only [hcan, hact, Bool.false_eq_true, if_false, beq_self_eq_true, if_true] at hrun
        cases congrArg Prod.fst hrun
    · simp only [hcan, if_true] at hrun
      cases congrArg Prod.fst hrun

/-- The events of a pause or a resume that writes take a snapshot of the book it loaded to the
book it writes: a pause publishes nothing and shows nothing new, and a resume is followed by
the cascade's answers. -/
theorem Proxy.toggle_reports_follow {autoBidId userId : String} {active : Bool} {now : Instant}
    {last : List Event} {b w : Book} {evs : List Event} {h : House}
    (hw : House.Reports (Proxy.toggle autoBidId userId active now last) b w evs h)
    (hs : s₀.figures = b.shown.figures) : (followAll s₀ evs).figures = w.shown.figures := by
  obtain ⟨i, f, ⟨rfl, rfl⟩ | ⟨n, t, hrun, rfl, rfl⟩⟩ := Proxy.toggle_reports_run hw
  · exact hs
  · exact resolve_followed hrun (followed_start hs)

/-- A cancellation that writes only stops an auto-bid: the book shows what it showed. -/
theorem Proxy.cancel_reports_figures {autoBidId userId : String} {now : Instant} {b w : Book}
    {h : House} (hw : House.Reports (Proxy.cancel autoBidId userId now) b w () h) :
    w.shown.figures = b.shown.figures := by
  obtain ⟨i, ab, -, -, rfl⟩ := Proxy.cancel_writes hw.writes
  rfl

/-! ### What the feed and the service read -/

/-- A snapshot of an auction not yet cached caches and returns what `Book.shown` gives of the
book it loaded. -/
theorem Feed.snapshot_of_uncached {a : String} {b : Book} {hooks : Hooks} {h h₁ : House}
    (hc : h.snapshots.find? a = none) (hl : ((House.loadBook a).run hooks).run h = (.ok b, h₁)) :
    ((Feed.snapshot a).run hooks).run h =
      (.ok b.shown, { h₁ with snapshots := h₁.snapshots.insert a b.shown }) := by
  rw [Feed.snapshot, House.run_get_bind]
  simp only [hc]
  rw [House.run_bind, hl]
  rfl

/-- The state the service reports of an auction is what `Book.shown` gives of its stored book. -/
theorem auctionState_of_load {a : String} {b : Book} {hooks : Hooks} {h h₁ : House}
    (hl : ((House.loadBook a).run hooks).run h = (.ok b, h₁)) :
    ((auctionState a).run hooks).run h = (.ok b.shown, h₁) := by
  rw [auctionState, House.run_bind, hl]
  rfl

/-- Handing an event to the feed moves the cached snapshot of its auction by `Feed.follow` and
leaves every other snapshot as it was. -/
theorem Feed.deliver_find? (e : Event) (hooks : Hooks) (h : House) (a : String) :
    (((Feed.deliver e).run hooks).run h).2.snapshots.find? a =
      if a = e.auctionId then (h.snapshots.find? a).map (follow · e.payload)
      else h.snapshots.find? a := by
  have hpure : ∀ x : Unit × House, (pure x : Id (Unit × House)).2 = x.2 := fun _ => rfl
  cases hs : h.snapshots.find? e.auctionId <;> by_cases ha : a = e.auctionId <;>
    simp [Feed.deliver, Feed.applyTo, modify, modifyGet, MonadStateOf.modifyGet,
      StateT.modifyGet, StateT.run, hpure, hs, ha, Table.find?_insert]

/-- Handing the events of an auction to the feed one by one leaves its snapshot followed
through all of them. -/
theorem Feed.forM_deliver_find? {a : String} {evs : List Event} (hevs : ∀ e ∈ evs, e.auctionId = a)
    (hooks : Hooks) {h : House} {s : AuctionState} (hs : h.snapshots.find? a = some s) :
    (((forM evs Feed.deliver).run hooks).run h).2.snapshots.find? a = some (followAll s evs) := by
  induction evs generalizing h s with
  | nil => exact hs
  | cons e evs ih =>
    rw [List.forM_cons, House.run_bind, followAll_cons]
    refine ih (fun e' he' => hevs e' (List.mem_cons_of_mem _ he')) ?_
    rw [deliver_find?, if_pos (hevs e List.mem_cons_self).symm, hs]
    rfl

/-! ### Runs of operations and the snapshot -/

/-- One operation of the service committed on the book `b` of its auction, storing `b'` and
publishing the events `evs`: a placement, a withdrawal, a registration, a pause or a resume, or
a cancellation, drawing ids new to the book as in `Committed`. -/
inductive Publishes : Book → List Event → Book → Prop
  | place {b w : Book} {evs : List Event} {h : House} (req : PlaceRequest) (k : Nat)
      (now : Instant) :
      k ≤ h.drawn → (∀ x ∈ b.bids, x.id ≠ idOf k) → b.FreshAbove h.drawn →
      House.Reports (Placement.change req (req.bid (idOf k) now)) b w evs h →
      Publishes b evs { w with version := b.version + 1 }
  | retract {b w : Book} {evs : List Event} {p : Option BidRetracted} {h : House}
      (req : RetractRequest) (auctionId : String) (now : Instant) (window : Duration) :
      b.FreshAbove h.drawn →
      House.Reports (Withdrawal.change req auctionId now window) b w (evs, p) h →
      Publishes b evs { w with version := b.version + 1 }
  | register {b w : Book} {evs : List Event} {h : House} (req : AutoBidRequest) (k : Nat)
      (now : Instant) :
      req.maxAmount.isPos = true → (∀ a ∈ b.autoBids, a.id ≠ idOf k) → b.FreshAbove h.drawn →
      House.Reports (Proxy.register req (idOf k) now) b w evs h →
      Publishes b evs { w with version := b.version + 1 }
  | toggle {b w : Book} {evs : List Event} {h : House} (autoBidId userId : String)
      (active : Bool) (now : Instant) (last : List Event) :
      b.FreshAbove h.drawn →
      House.Reports (Proxy.toggle autoBidId userId active now last) b w evs h →
      Publishes b evs { w with version := b.version + 1 }
  | cancel {b w : Book} {h : House} (autoBidId userId : String) (now : Instant) :
      House.Reports (Proxy.cancel autoBidId userId now) b w () h →
      Publishes b [] { w with version := b.version + 1 }

namespace Publishes

variable {b b' : Book} {evs : List Event}

/-- An operation that publishes events commits. -/
theorem committed (h : Publishes b evs b') : Committed b b' := by
  cases h with
  | place req k now hk hfresh habove hr => exact .place req k now hk hfresh habove hr.writes
  | retract req auctionId now window habove hr =>
    exact .retract req auctionId now window habove hr.writes
  | register req k now hpos hfresh habove hr =>
    exact .register req k now hpos hfresh habove hr.writes
  | toggle autoBidId userId active now last habove hr =>
    exact .toggle autoBidId userId active now last habove hr.writes
  | cancel autoBidId userId now hr => exact .cancel autoBidId userId now hr.writes

/-- The events an operation publishes take every snapshot of the book it loaded to the book it
stored. -/
theorem follow (h : Publishes b evs b') (hw : b.Wf) (hs : s₀.figures = b.shown.figures) :
    (followAll s₀ evs).figures = b'.shown.figures := by
  cases h with
  | place req k now _ _ _ hr => exact (Placement.reports_follow hr (idOf_ne_empty k) hs).trans rfl
  | retract _ _ _ _ _ hr => exact (Withdrawal.reports_follow hr hw.ids_ne hs).trans rfl
  | register _ _ _ _ _ _ hr => exact (Proxy.register_reports_follow hr hs).trans rfl
  | toggle _ _ _ _ _ _ hr => exact (Proxy.toggle_reports_follow hr hs).trans rfl
  | cancel _ _ _ hr => exact hs.trans (Proxy.cancel_reports_figures hr).symm

end Publishes

/-- A run of operations from the stored book `b` to `b'`, publishing `evs` in commit order. -/
inductive Published : Book → List Event → Book → Prop
  | nil (b : Book) : Published b [] b
  | snoc {b b₁ b₂ : Book} {evs evs' : List Event} :
      Published b evs b₁ → Publishes b₁ evs' b₂ → Published b (evs ++ evs') b₂

/-- A run of operations that publish events is a run of committed operations. -/
theorem Published.committed {b b' : Book} {evs : List Event} (h : Published b evs b') :
    Relation.ReflTransGen Committed b b' := by
  induction h with
  | nil => exact .refl
  | snoc _ hop ih => exact ih.tail hop.committed

/-- A snapshot of a reachable book, handed the events of the operations committed after it in
commit order, shows the figures of the book they stored last. The induction runs over the
operations; each keeps the snapshot in step from the book it loaded, which is reachable and so
well formed. -/
theorem Published.follow {b b' : Book} {evs : List Event} (hb : Reachable b)
    (hp : Published b evs b') : (followAll b.shown evs).figures = b'.shown.figures := by
  induction hp with
  | nil => rfl
  | snoc hrun hop ih =>
    rw [followAll_append]
    exact hop.follow (Reachable.wf (Reachable.tail hb hrun.committed)) ih

/-- The feed converges to the ledger. A snapshot of a reachable book, handed the events of the
operations committed after it in commit order, shows the figures of the book they stored last;
so the feed, once it cached its snapshot of an auction from the book `b` and was handed those
events, shows the figures the service reports from the book `b'`. -/
theorem snapshot_follows_later_operations {b b' : Book} {evs : List Event} (hb : Reachable b)
    (hp : Published b evs b') :
    (followAll b.shown evs).figures = b'.shown.figures ∧
      ∀ (a : String) (hooks : Hooks) (h₀ h₁ h' h'₁ : House), (∀ e ∈ evs, e.auctionId = a) →
        h₀.snapshots.find? a = none → ((House.loadBook a).run hooks).run h₀ = (.ok b, h₁) →
        ((House.loadBook a).run hooks).run h' = (.ok b', h'₁) →
        ((((forM evs Feed.deliver).run hooks).run
            (((Feed.snapshot a).run hooks).run h₀).2).2.snapshots.find? a).map
              AuctionState.figures =
          (((auctionState a).run hooks).run h').1.toOption.map AuctionState.figures := by
  have hfig := Published.follow hb hp
  refine ⟨hfig, fun a hooks h₀ h₁ h' h'₁ hevs hc hl hl' => ?_⟩
  have hcached : ({ h₁ with snapshots := h₁.snapshots.insert a b.shown } : House).snapshots.find? a =
      some b.shown := by
    simp [Table.find?_insert]
  rw [Feed.snapshot_of_uncached hc hl, auctionState_of_load hl',
    Feed.forM_deliver_find? hevs hooks hcached]
  simp [hfig, Except.toOption]

/-- Without auto-bids the cascade answers nothing. -/
theorem Cascade.resolve_of_no_autoBids {t : Txn} (h : t.book.autoBids = []) :
    resolve.run.run t = (.ok 0, t) := by
  rw [resolve, run_get_bind]
  cases hL : t.book.highestBid? with
  | none => exact rounds_of_no_leader hL
  | some L =>
    refine rounds_of_no_responder hL (selectResponder_eq_none.mpr (candidates_eq_nil.mpr ?_))
    simp [h]

/-- On an open book without auto-bids a placement that passes the acceptance rule writes the
book with the bid entered. -/
theorem Placement.reports_of_no_autoBids {req : PlaceRequest} {bid : Bid} {b : Book} {h : House}
    (hc : b.closed = false) (hok : refusal bid.amount b.highestAmount = none)
    (hq : b.autoBids = []) :
    ∃ t : Txn, House.Reports (Placement.change req bid) b t.book t.events h ∧
      t.book = (entered b bid h.now).1 ∧ ∀ e ∈ t.events, e.auctionId = b.auctionId := by
  obtain ⟨t, hacc, hb, -, -⟩ := @accept_run ⟨b, h.now, [], h.drawn⟩ bid hok
  obtain ⟨e₁, e₂, e₃, hevs, -, -, -, hauction⟩ := accept_events hacc
  have hids : ∀ e ∈ t.events, e.auctionId = b.auctionId := by
    rw [hevs, List.nil_append]
    exact hauction
  have hres : resolve.run.run t = (.ok 0, t) := resolve_of_no_autoBids (by rw [hb]; simpa using hq)
  have hrun : Txn.run (do accept bid; let _ ← resolve; pure ()) b h.now h.drawn = (.ok (), t) := by
    unfold Txn.run
    rw [run_bind, hacc]
    dsimp only
    rw [run_bind, hres]
    rfl
  refine ⟨t, ⟨⟨pure ()⟩, ?_⟩, hb, hids⟩
  unfold Placement.change
  simp only [hc, Bool.false_eq_true, if_false, House.run_runTxn_bind, hrun]
  exact ⟨_, rfl⟩

/-- A bid of 100 on a new auction: the snapshot of the empty book follows its events to the
book it stored, and so does the feed that cached it from an empty house, against the service
reading a house that stores that book. -/
theorem snapshot_follows_later_operations_placed :
    ∃ evs b', Reachable (Book.empty "a-1") ∧ Published (Book.empty "a-1") evs b' ∧
      (followAll (Book.empty "a-1").shown evs).figures = b'.shown.figures ∧
      ((((forM evs Feed.deliver).run Hooks.quiet).run
          (((Feed.snapshot "a-1").run Hooks.quiet).run default).2).2.snapshots.find? "a-1").map
            AuctionState.figures =
        (((auctionState "a-1").run Hooks.quiet).run
          { (default : House) with ledger := ⟨Table.empty.insert "a-1" b', Table.empty,
            Table.empty⟩ }).1.toOption.map AuctionState.figures := by
  let req : PlaceRequest := ⟨"a-1", "x", "x-name", 100, ""⟩
  let house : House := { (default : House) with drawn := 1 }
  obtain ⟨t, hr, -, hids⟩ := @Placement.reports_of_no_autoBids req (req.bid (idOf 1) house.now)
    (Book.empty "a-1") house rfl (by decide) rfl
  have hb : Reachable (Book.empty "a-1") := ⟨"a-1", .refl⟩
  let b' : Book := { t.book with version := 0 + 1 }
  have hp : Published (Book.empty "a-1") ([] ++ t.events) b' :=
    .snoc (.nil _) (.place req 1 house.now le_rfl (by simp [Book.empty])
      (by simp [Book.FreshAbove, Book.empty]) hr)
  have hevs : ∀ e ∈ [] ++ t.events, e.auctionId = "a-1" := by simpa [Book.empty] using hids
  have hload : ((House.loadBook "a-1").run Hooks.quiet).run default =
      (.ok (Book.empty "a-1"), default) := rfl
  have hload' : ((House.loadBook "a-1").run Hooks.quiet).run
      { (default : House) with ledger := ⟨Table.empty.insert "a-1" b', Table.empty, Table.empty⟩ } =
      (.ok b', { (default : House) with ledger := ⟨Table.empty.insert "a-1" b', Table.empty,
        Table.empty⟩ }) := by
    have hfaults : (default : House).faults.loadErrors = 0 := rfl
    have hledger : (default : House).settings.ledger = .inProcess := rfl
    rw [House.loadBook_run]
    simp [hfaults, hledger, House.storedBook, Ledger.load, Ledger.stored?, Table.find?_insert]
  obtain ⟨hfig, hfeed⟩ := snapshot_follows_later_operations hb hp
  exact ⟨_, _, hb, hp, hfig, hfeed "a-1" Hooks.quiet _ _ _ _ hevs rfl hload hload'⟩

/-- A default scenario after `x` bid 100 on `a-1`, the feed took its snapshot, and then the
feed was handed the events of the bid. -/
def snapshotAfterPlacement : House :=
  let start := (Scenario.house {}).toOption.getD default
  let placed := (((placeBid ⟨"a-1", "x", "x-name", 100, ""⟩).run Hooks.quiet).run start).2
  let cached := (((Feed.snapshot "a-1").run Hooks.quiet).run placed).2
  (((forM (placed.published.drop start.published.length) Feed.deliver).run Hooks.quiet).run
    cached).2

/-- A snapshot loaded after a bid was committed, and then handed the bid's events, counts the
bid twice: it shows two bids where the service reports one. -/
theorem snapshot_counts_earlier_events_twice :
    (snapshotAfterPlacement.snapshots.find? "a-1").map (·.bidCount) = some 2 ∧
      (((auctionState "a-1").run Hooks.quiet).run snapshotAfterPlacement).1.toOption.map
        (·.bidCount) = some 1 := by
  decide +kernel

end Auction
