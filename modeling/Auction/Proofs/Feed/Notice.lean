import Mathlib
import Auction.Proofs.Feed.Follow

/-!
# Outbid notices follow the succession of leaders

The feed tells a user they were outbid from the new-lead events alone: the notice goes to the
previous leader the event names, when there was one and somebody else now leads
(`Feed.messages`). This module says whom the events of one committed operation tell.

Within an operation the lead passes along a succession of bids: the leader before it, then,
when the operation withdrew the leader, the standing bid that took the lead back, then every
bid the operation entered, each leading from its entry on. The notices of the operation's
events are exactly those that succession makes (`Feed.displaced`): each leader whom a bid of
another bidder succeeded, in order. Every entered bid is higher than the lead it took, so the
notices from entered bids go to leaders displaced by a higher bid; but the bid that takes a
withdrawn lead back is lower than the withdrawn one, and its notice goes to the bidder who
withdrew (`outbid_notices_follow_the_succession_of_leaders`,
`withdrawing_leader_is_told_outbid`). Every new lead is announced once
(`Feed.bidUpdates_length`).

The notices are carried through a transaction by `Txn.Succession`: each bid accepted extends
the succession by one and its event adds the notice of that step (`Txn.Succession.accept`);
the cascade is a run of such steps (`Txn.Succession.resolve`). A withdrawal starts its
succession from the withdrawn leader and the bid that takes the lead back
(`Withdrawal.apply_leadPassage`).
-/

namespace Auction

namespace Feed

/-- The user an event tells they were outbid, if it tells anybody. -/
def outbidTarget? (e : Event) : Option String := (messages e).1.map Prod.fst

/-- The users a run of events tells they were outbid, in order. -/
def outbidTargets (evs : List Event) : List String := evs.filterMap outbidTarget?

/-- The new leads a run of events announces to the watchers of their auction. -/
def bidUpdates (evs : List Event) : List Json :=
  (evs.filterMap fun e => (messages e).2).filter (·.strField "type" == "bid_update")

/-- Who is told they were outbid when the lead passes from a leader with bidder `x`, if there
was one, to a bid of `y`: `x`, unless it is empty or `y` itself. -/
def handover : Option String → String → List String
  | some x, y => if x ≠ "" ∧ x ≠ y then [x] else []
  | none, _ => []

/-- Who a succession of leaders, given by their bidders, tells they were outbid: each leader
whom a bid of another bidder succeeded. -/
def displaced : List String → List String
  | x :: y :: rest => handover (some x) y ++ displaced (y :: rest)
  | _ => []

/-- No events tell anybody they were outbid. -/
@[simp] theorem outbidTargets_nil : outbidTargets [] = [] := rfl

/-- The users two runs of events tell they were outbid are those the first tells, then those the
second tells. -/
@[simp] theorem outbidTargets_append (l₁ l₂ : List Event) :
    outbidTargets (l₁ ++ l₂) = outbidTargets l₁ ++ outbidTargets l₂ :=
  List.filterMap_append

/-- Only a new lead tells anybody they were outbid. -/
theorem outbidTarget?_of_leads_false {e : Event} (h : e.payload.leads = false) :
    outbidTarget? e = none := by
  cases hp : e.payload <;> simp_all [outbidTarget?, messages, Payload.leads]

/-- An event that names no new lead tells nobody they were outbid. -/
theorem outbidTargets_cons_of_leads_false {e : Event} (h : e.payload.leads = false)
    (l : List Event) : outbidTargets (e :: l) = outbidTargets l := by
  rw [outbidTargets, List.filterMap_cons, outbidTarget?_of_leads_false h]
  rfl

/-- Rewriting events without changing whom they tell keeps the notices. -/
theorem outbidTargets_map {f : Event → Event} (hf : ∀ e, outbidTarget? (f e) = outbidTarget? e)
    (l : List Event) : outbidTargets (l.map f) = outbidTargets l := by
  rw [outbidTargets, outbidTargets, List.filterMap_map]
  exact List.filterMap_congr fun e _ => hf e

/-- The event of a new lead `bid` over `previous` tells the previous leader, by the handover. -/
theorem outbidTargets_highestUpdated (e : Event) {bid : Bid} {previous : Option Bid}
    (h : e.payload = Txn.highestUpdated bid previous) :
    outbidTargets [e] = handover (previous.map (·.bidderId)) bid.bidderId := by
  cases previous with
  | none => simp [outbidTargets, outbidTarget?, messages, h, Txn.highestUpdated, handover]
  | some p =>
    by_cases hp : p.bidderId = ""
    · simp [outbidTargets, outbidTarget?, messages, h, Txn.highestUpdated, handover, hp]
    · by_cases hb : p.bidderId = bid.bidderId
      · simp [outbidTargets, outbidTarget?, messages, h, Txn.highestUpdated, handover, hb]
      · simp [outbidTargets, outbidTarget?, messages, h, Txn.highestUpdated, handover, hp, hb]

/-- A succession of at most one leader displaces nobody. -/
@[simp] theorem displaced_toList (o : Option String) : displaced o.toList = [] := by
  cases o <;> rfl

/-- One more leader `y` adds the handover from the last leader to `y`. -/
theorem displaced_concat (l : List String) (y : String) :
    displaced (l ++ [y]) = displaced l ++ handover l.getLast? y := by
  induction l with
  | nil => rfl
  | cons x l ih =>
    cases l with
    | nil => simp [displaced]
    | cons z l =>
      rw [List.cons_append] at ih
      simp [displaced, ih]

/-- Every announcement of an event is a new lead exactly when the event names one. -/
theorem isSome_bidUpdate (e : Event) :
    ((messages e).2.filter (·.strField "type" == "bid_update")).isSome = e.payload.leads := by
  cases hp : e.payload <;> simp [messages, hp, Payload.leads, Json.strField, Json.field?]

/-- Every new lead is announced to the watchers once, and nothing else is announced as one. -/
theorem bidUpdates_length (evs : List Event) :
    (bidUpdates evs).length = evs.countP (·.payload.leads) := by
  rw [bidUpdates, List.filter_filterMap, List.length_filterMap_eq_countP]
  exact List.countP_congr fun e _ => by rw [isSome_bidUpdate]

end Feed

/-! ### The succession a transaction carries -/

namespace Txn

open Feed

/-- An entry keeps the bids before it, up to the status it stamps on the leader, and appends the
entered bid. -/
theorem entered_bids_eq (b : Book) (bid : Bid) (now : Instant) :
    ∃ pre, (entered b bid now).1.bids = pre ++ [(entered b bid now).2] ∧
      pre.map Bid.asPlaced = b.bids.map Bid.asPlaced := by
  rw [entered_bids]
  split
  · exact ⟨_, rfl, map_updateAt _ _ _ _ fun _ => rfl⟩
  · exact ⟨_, rfl, rfl⟩

/-- Past a position `n` of the book the entered bid is the last bid. -/
theorem getLast?_drop_entered {b : Book} {n : Nat} (hn : n ≤ b.bids.length) (bid : Bid)
    (now : Instant) : ((entered b bid now).1.bids.drop n).getLast? = some (entered b bid now).2 := by
  obtain ⟨pre, hpre, hmap⟩ := entered_bids_eq b bid now
  have hlen : pre.length = b.bids.length := by simpa using congrArg List.length hmap
  rw [hpre, List.drop_append_of_le_length (hlen ▸ hn), List.getLast?_concat]

/-- Read through what an entry does not stamp, the bids past a position `n` gain the entered
bid. -/
theorem map_drop_entered {α : Type} {f : Bid → α} (hf : ∀ x, f x.asPlaced = f x) {b : Book}
    {n : Nat} (hn : n ≤ b.bids.length) (bid : Bid) (now : Instant) :
    ((entered b bid now).1.bids.drop n).map f = (b.bids.drop n).map f ++ [f bid] := by
  obtain ⟨pre, hpre, hmap⟩ := entered_bids_eq b bid now
  have hf' : pre.map f = b.bids.map f := by
    simpa [List.map_map, Function.comp_def, hf] using congrArg (List.map f) hmap
  have hlen : pre.length = b.bids.length := by simpa using congrArg List.length hmap
  have hlast : f (entered b bid now).2 = f bid := (hf _).symm.trans (hf bid)
  rw [hpre, List.drop_append_of_le_length (hlen ▸ hn), List.map_append, List.map_drop, hf',
    ← List.map_drop, List.map_singleton, hlast]

/-- An entry under a fresh, non-empty id of a positive amount leaves the cached lead agreeing
with the entered bid. -/
theorem leadAgrees_entered {b : Book} {bid : Bid} {now : Instant} (hne : bid.id ≠ "")
    (hnew : ∀ x ∈ b.bids, x.id ≠ bid.id) (hpos : 0 < bid.amount.toRat) :
    (entered b bid now).1.LeadAgrees := by
  intro L hL
  rw [highestBid?_entered hne hnew, Option.some.injEq] at hL
  subst hL
  rw [entered_highestAmount]
  exact ⟨rfl, hpos⟩

/-- An accepted bid tells the leader it took the lead from, by the handover. -/
theorem outbidTargets_accept {t t' : Txn} {bid : Bid} (h : (accept bid).run.run t = (.ok (), t')) :
    outbidTargets t'.events =
      outbidTargets t.events ++ handover (t.book.highestBid?.map (·.bidderId)) bid.bidderId := by
  obtain ⟨e₁, e₂, e₃, he, ⟨p, h₁⟩, ⟨a, h₂⟩, h₃, -⟩ := accept_events h
  rw [he, outbidTargets_append, outbidTargets_cons_of_leads_false (by simp [h₁, Payload.leads]),
    outbidTargets_cons_of_leads_false (by simp [h₂, Payload.leads]),
    outbidTargets_highestUpdated e₃ h₃]
  rfl

/-- An accepted bid is higher than the lead it took, where the cached lead agrees with it. -/
theorem lt_of_accept {t t' : Txn} {bid L : Bid} (h : (accept bid).run.run t = (.ok (), t'))
    (hagree : t.book.LeadAgrees) (hL : t.book.highestBid? = some L) : L.amount < bid.amount := by
  obtain ⟨hLH, hpos⟩ := hagree L hL
  have hlt := Book.lt_of_refusal_eq_none (accept_eq_ok h).1 hpos
  rw [Decimal.lt_iff_toRat] at hlt ⊢
  rwa [hLH]

/-- The succession of leads a transaction has carried: the bids `head` it started from, then the
bids entered into its book past position `n`, each leading from its entry on. -/
def leaders (head : List Bid) (n : Nat) (t : Txn) : List Bid := head ++ t.book.bids.drop n

/-- The transaction `t` carries the succession `leaders head n t`: the last of it leads the
book, whose cached lead agrees; its events told exactly the leaders the succession displaced;
the bids from the last of `head` on rise; and the ids still to be drawn are new to the book. -/
structure Succession (head : List Bid) (n : Nat) (t : Txn) : Prop where
  le_length : n ≤ t.book.bids.length
  lead : t.book.highestBid? = (leaders head n t).getLast?
  agrees : t.book.LeadAgrees
  notices : outbidTargets t.events = displaced ((leaders head n t).map (·.bidderId))
  rises : ((head.getLast?.toList ++ t.book.bids.drop n).map (·.amount)).IsChain (· < ·)
  fresh : t.book.FreshAbove t.drawn

/-- The last element of an optional value's list is the value. -/
theorem getLast?_toList {α : Type} (o : Option α) : o.toList.getLast? = o := by
  cases o <;> rfl

/-- Putting the last element of a list before more elements keeps the last of them all. -/
theorem getLast?_getLast?_toList_append {α : Type} (l m : List α) :
    (l.getLast?.toList ++ m).getLast? = (l ++ m).getLast? := by
  rw [List.getLast?_append, List.getLast?_append, getLast?_toList]

namespace Succession

variable {head : List Bid} {n : Nat} {t t' : Txn}

/-- A transaction starts carrying the lead of its book. -/
theorem start {b : Book} {d : Nat} (hw : b.Wf) (hfresh : b.FreshAbove d) (now : Instant) :
    (⟨b, now, [], d⟩ : Txn).Succession b.highestBid?.toList b.bids.length := by
  cases hL : b.highestBid? <;>
    exact ⟨le_rfl, by simp [leaders, hL], hw.leadAgrees, by simp [leaders, displaced], by simp,
      hfresh⟩

/-- Accepting a bid under an id to come, new to the book, extends the succession by it: its
event tells the leader it displaced, and it is higher than the lead it took. -/
theorem accept {m : Nat} {bid : Bid} (hs : t.Succession head n)
    (h : (accept bid).run.run t = (.ok (), t')) (hid : bid.id = idOf m) (hm : m ≤ t'.drawn)
    (hnew : ∀ x ∈ t.book.bids, x.id ≠ bid.id) : t'.Succession head n := by
  obtain ⟨hok, hb, -, hd⟩ := accept_eq_ok h
  have hne : bid.id ≠ "" := hid ▸ idOf_ne_empty m
  have hbidders := map_drop_entered (f := (·.bidderId)) (fun _ => rfl) hs.le_length bid t.now
  have hamounts := map_drop_entered (f := (·.amount)) (fun _ => rfl) hs.le_length bid t.now
  rw [← hb] at hbidders hamounts
  refine ⟨?_, ?_, ?_, ?_, ?_, ?_⟩
  · rw [hb, entered_length]
    exact Nat.le_succ_of_le hs.le_length
  · rw [leaders, List.getLast?_append, hb, getLast?_drop_entered hs.le_length]
    exact highestBid?_entered hne hnew
  · rw [hb]
    exact leadAgrees_entered hne hnew (Book.pos_of_refusal_eq_none hok)
  · rw [outbidTargets_accept h, hs.notices, hs.lead, ← List.getLast?_map, ← displaced_concat,
      leaders, leaders, List.map_append, List.map_append, hbidders, List.append_assoc]
  · rw [List.map_append, hamounts, ← List.append_assoc, ← List.map_append, List.isChain_append]
    refine ⟨hs.rises, List.isChain_singleton _, fun x hx y hy => ?_⟩
    rw [List.getLast?_map, getLast?_getLast?_toList_append, ← leaders, ← hs.lead] at hx
    obtain ⟨L, hL, rfl⟩ := Option.mem_map.mp hx
    cases hy
    exact lt_of_accept h hs.agrees hL
  · rw [hb]
    exact hs.fresh.entered hid hm (by omega)

/-- Drawing an id keeps the succession. -/
theorem draw (hs : t.Succession head n) : { t with drawn := t.drawn + 1 }.Succession head n :=
  ⟨hs.le_length, hs.lead, hs.agrees, hs.notices, hs.rises, hs.fresh.mono (Nat.le_succ _)⟩

/-- Recording an answer on its auto-bid keeps the succession. -/
theorem record {i : Nat} {f : AutoBid → AutoBid} (hs : t.Succession head n) :
    { t with book := t.book.modifyAutoBid i f }.Succession head n :=
  ⟨hs.le_length, hs.lead, hs.agrees, hs.notices, hs.rises, hs.fresh⟩

/-- The cascade is a run of answers, each accepted under the next id, so it keeps the
succession. -/
theorem resolve {k : Nat} (hs : t.Succession head n)
    (h : Cascade.resolve.run.run t = (.ok k, t')) : t'.Succession head n := by
  rw [Cascade.resolve, run_get_bind] at h
  refine Cascade.rounds_preserves_answering (fun hid hacc hs => ?_) record h hs
  have hdrawn := (accept_eq_ok hacc).2.2.2
  exact hs.draw.accept hacc hid (by simp only at hdrawn; omega)
    fun x hx => hid ▸ hs.fresh x hx _ (Nat.lt_succ_self _)

/-- A cascade run from a book carries the lead of the book. -/
theorem resolve_start {b : Book} {now : Instant} {d k : Nat}
    (h : Txn.run Cascade.resolve b now d = (.ok k, t)) (hw : b.Wf) (hfresh : b.FreshAbove d) :
    t.Succession b.highestBid?.toList b.bids.length :=
  (start hw hfresh now).resolve h

/-- Rewriting events without changing whom they tell keeps the succession. -/
theorem mapEvents {f : Event → Event} (hf : ∀ e, outbidTarget? (f e) = outbidTarget? e)
    (hs : t.Succession head n) : { t with events := t.events.map f }.Succession head n :=
  ⟨hs.le_length, hs.lead, hs.agrees, (outbidTargets_map hf _).trans hs.notices, hs.rises,
    hs.fresh⟩

end Succession

end Txn

/-! ### What an operation tells -/

open Txn Feed Cascade

/-- Whom the events `evs` of an operation that took the book `b` to `b'` told they were outbid.
The lead passed from the leader of `b`, through `back`, the standing bid that took the lead back
when the operation withdrew the leader, to the bids the operation entered, which are the bids
of `b'` past those of `b`. The events told exactly the leaders this succession displaced; each
entered bid is higher than the lead it took; and `back` is lower than the leader whose
withdrawal the events carry. -/
structure LeadPassage (b : Book) (evs : List Event) (b' : Book) (back : Option Bid) : Prop where
  notices : outbidTargets evs =
    displaced ((b.highestBid?.toList ++ back.toList ++ b'.bids.drop b.bids.length).map (·.bidderId))
  rises : (((back.or b.highestBid?).toList ++ b'.bids.drop b.bids.length).map (·.amount)).IsChain
    (· < ·)
  back_below : ∀ x ∈ back, ∃ L, b.highestBid? = some L ∧ x.amount < L.amount ∧
    ∃ e ∈ evs, ∃ p, e.payload = .retracted p ∧ p.bidId = L.id

namespace LeadPassage

variable {b b' : Book} {evs : List Event} {back : Option Bid}

/-- A transaction that carried the succession from the lead of `b`, then `back`, tells what
that succession displaced. -/
theorem of_succession {t : Txn}
    (hs : t.Succession (b.highestBid?.toList ++ back.toList) b.bids.length)
    (hback : ∀ x ∈ back, ∃ L, b.highestBid? = some L ∧ x.amount < L.amount ∧
      ∃ e ∈ t.events, ∃ p, e.payload = .retracted p ∧ p.bidId = L.id) :
    LeadPassage b t.events t.book back := by
  refine ⟨hs.notices, ?_, hback⟩
  have hlast : (b.highestBid?.toList ++ back.toList).getLast? = back.or b.highestBid? := by
    rw [List.getLast?_append, getLast?_toList, getLast?_toList]
  simpa only [hlast] using hs.rises

/-- A transaction carrying the succession from the lead of `b` alone takes `b` to its book with no
lead handed back. -/
theorem of_succession_none {t : Txn} (hs : t.Succession b.highestBid?.toList b.bids.length) :
    LeadPassage b t.events t.book none :=
  of_succession (by rwa [Option.toList_none, List.append_nil]) (by simp)

/-- An operation that publishes nothing and keeps the bids tells nobody. -/
theorem quiet (hbids : b'.bids = b.bids) : LeadPassage b [] b' none := by
  have hdrop : b'.bids.drop b.bids.length = [] := by rw [hbids, List.drop_length]
  refine ⟨?_, ?_, by simp⟩
  · cases b.highestBid? <;> simp [hdrop, displaced]
  · cases b.highestBid? <;> simp [hdrop]

/-- The book stored at the next version is the book written. -/
theorem version (hp : LeadPassage b evs b' back) (v : Int) :
    LeadPassage b evs { b' with version := v } back :=
  ⟨hp.notices, hp.rises, hp.back_below⟩

end LeadPassage

/-- With nobody leading the cascade answers nothing. -/
theorem Cascade.resolve_of_no_leader {t : Txn} (h : t.book.highestBid? = none) :
    resolve.run.run t = (.ok 0, t) := by
  rw [resolve, run_get_bind]
  exact rounds_of_no_leader h

/-- A placement tells the leaders its bid and the cascade's answers displaced. -/
theorem Placement.leadPassage {req : PlaceRequest} {k : Nat} {now : Instant} {b w : Book}
    {evs : List Event} {h : House} (hw : b.Wf) (hk : k ≤ h.drawn)
    (hnew : ∀ x ∈ b.bids, x.id ≠ idOf k) (hfresh : b.FreshAbove h.drawn)
    (hr : House.Reports (Placement.change req (req.bid (idOf k) now)) b w evs h) :
    LeadPassage b evs w none := by
  obtain ⟨t, hrun, rfl, rfl⟩ := Placement.reports_run hr
  obtain ⟨_, t₁, hacc, hrest⟩ := run_bind_eq_ok hrun
  obtain ⟨_, t₂, hres, hend⟩ := run_bind_eq_ok hrest
  rw [run_pure] at hend
  cases hend
  have hdrawn := (accept_eq_ok hacc).2.2.2
  have hs₁ := (Succession.start hw hfresh h.now).accept hacc (m := k) rfl
    (by simp only at hdrawn; omega) hnew
  exact LeadPassage.of_succession_none (hs₁.resolve hres)

/-- A registration tells the leaders the cascade's answers displaced. -/
theorem Proxy.register_leadPassage {req : AutoBidRequest} {autoBidId : String} {now : Instant}
    {b w : Book} {evs : List Event} {h : House} (hw : b.Wf) (hfresh : b.FreshAbove h.drawn)
    (hr : House.Reports (Proxy.register req autoBidId now) b w evs h) :
    LeadPassage b evs w none := by
  obtain ⟨n, t, hrun, rfl, rfl⟩ := Proxy.register_reports_run hr
  have hs := Succession.resolve_start hrun (hw.of_same rfl rfl rfl rfl) hfresh
  exact LeadPassage.of_succession_none hs

/-- A pause tells nobody, and a resume tells the leaders the cascade's answers displaced. -/
theorem Proxy.toggle_leadPassage {autoBidId userId : String} {active : Bool} {now : Instant}
    {last : List Event} {b w : Book} {evs : List Event} {h : House} (hw : b.Wf)
    (hfresh : b.FreshAbove h.drawn)
    (hr : House.Reports (Proxy.toggle autoBidId userId active now last) b w evs h) :
    LeadPassage b evs w none := by
  obtain ⟨i, f, ⟨rfl, rfl⟩ | ⟨n, t, hrun, rfl, rfl⟩⟩ := Proxy.toggle_reports_run hr
  · exact LeadPassage.quiet rfl
  · have hs := Succession.resolve_start hrun (hw.of_same rfl rfl rfl rfl) hfresh
    exact LeadPassage.of_succession_none hs

namespace Withdrawal

/-- Handing the lead back either clears it and emits nothing, or gives it to a standing bid of
the book, accepted again, and emits that new lead over the withdrawn bid. -/
theorem handBack_cases {t t' : Txn} {bid : Bid} (h : (handBack bid).run.run t = (.ok (), t')) :
    t'.book = handedBack t.book ∧
      ((t'.book.highestBidId = "" ∧ t'.events = t.events) ∨
        ∃ next ∈ t.book.bids, t'.book.highestBidId = next.id ∧
          t'.book.highestBidderId = next.bidderId ∧ t'.drawn = t.drawn + 1 ∧
          ∃ e, t'.events = t.events ++ [e] ∧
            e.payload = highestUpdated { next with status := .accepted } (some bid)) := by
  rw [handBack, run_get_bind] at h
  unfold handedBack
  cases hs : t.book.bestStanding? with
  | none =>
    simp only [hs] at h
    rw [run_modifyBook, Prod.mk.injEq] at h
    obtain ⟨-, rfl⟩ := h
    exact ⟨rfl, Or.inl ⟨rfl, rfl⟩⟩
  | some p =>
    obtain ⟨j, next⟩ := p
    simp only [hs] at h
    obtain ⟨_, _, h₁, h⟩ := run_bind_eq_ok h
    rw [run_modifyBook] at h₁
    cases h₁
    rw [run_emit, Prod.mk.injEq] at h
    obtain ⟨-, rfl⟩ := h
    have hmem : next ∈ t.book.bids := by
      obtain h | ⟨k, hk, -⟩ := bestStandingFrom_eq_some hs
      · cases h
      · exact List.mem_of_getElem? hk
    exact ⟨rfl, Or.inr ⟨next, hmem, rfl, rfl, rfl, _, rfl, rfl⟩⟩

/-- A withdrawal of the leader that succeeded emitted its event `R`, handed the lead back, ran
the cascade, and then rewrote `R` to name the lead the cascade settled on; the rewrite keeps
whom every event tells. -/
theorem apply_run {i : Nat} {bid : Bid} {reason : String} {t t' : Txn} {q : BidRetracted}
    (h : (apply i bid reason).run.run t = (.ok q, t')) (hlead : t.book.highestBidId = bid.id) :
    ∃ (R : Event) (t₁ t₂ t₃ : Txn) (k : Nat) (f : Event → Event),
      t₁.book = withdrawn t.book i bid.bidderId t.now ∧ t₁.events = t.events ++ [R] ∧
      t₁.drawn = t.drawn + 1 ∧ (handBack bid).run.run t₁ = (.ok (), t₂) ∧
      Cascade.resolve.run.run t₂ = (.ok k, t₃) ∧ t' = { t₃ with events := t₃.events.map f } ∧
      (∀ e, outbidTarget? (f e) = outbidTarget? e) ∧
      ∃ p, (f R).payload = .retracted p ∧ p.bidId = bid.id := by
  rw [apply, run_get_bind] at h
  obtain ⟨_, _, h₀, h⟩ := run_bind_eq_ok h
  rw [run_modifyBook] at h₀
  cases h₀
  obtain ⟨_, t₁, h₁, h⟩ := run_bind_eq_ok h
  rw [run_emit, Prod.mk.injEq] at h₁
  obtain ⟨-, ht₁⟩ := h₁
  obtain ⟨_, t₂, h₂, h⟩ := run_bind_eq_ok h
  rw [if_pos (beq_iff_eq.mpr hlead)] at h₂
  obtain ⟨k, t₃, h₃, h⟩ := run_bind_eq_ok h
  rw [run_get_bind] at h
  obtain ⟨_, _, h₄, h⟩ := run_bind_eq_ok h
  rw [run_modify] at h₄
  cases h₄
  rw [run_pure] at h
  cases h
  refine ⟨_, t₁, t₂, t₃, k, _, by rw [← ht₁], by rw [← ht₁], by rw [← ht₁], h₂, h₃, rfl,
    fun e => ?_, ?_⟩
  · cases hp : e.payload with
    | retracted p => by_cases hb : p.bidId = bid.id <;> simp [hp, hb, outbidTarget?, messages]
    | _ => simp [hp, outbidTarget?, messages]
  · simp only [settle, beq_self_eq_true, if_true, exists_eq_left', Payload.retracted.injEq]
    split <;> rfl

/-- A bid that takes the lead back from the withdrawn leader `bid` is, up to its status, the last
standing bid under it: it leads the book handed back, which holds the invariant, and it is lower
than `bid`. -/
theorem handedBack_lead {b : Book} {pre post : List Bid} {bid next : Bid} {u : String}
    {now : Instant} (hw : b.Wf) (hL : b.LedBy pre bid post)
    (hnext : next ∈ (withdrawn b pre.length u now).bids)
    (hid : (handedBack (withdrawn b pre.length u now)).highestBidId = next.id) :
    ∃ x : Bid, (handedBack (withdrawn b pre.length u now)).highestBid? = some x ∧
      (handedBack (withdrawn b pre.length u now)).highestBidderId = x.bidderId ∧
      x.amount < bid.amount ∧ (handedBack (withdrawn b pre.length u now)).Wf := by
  have hnext_id : next.id ≠ "" := by
    have hmem : next.id ∈ b.bids.map (·.id) :=
      withdrawn_ids b pre.length u now ▸ List.mem_map_of_mem hnext
    obtain ⟨y, hy, hyid⟩ := List.mem_map.mp hmem
    exact hyid ▸ hw.ids_ne y hy
  have hs : pre.filter (·.status.isStanding) ≠ [] := fun hs =>
    hnext_id (hid.symm.trans (hL.vacant_handedBack hs u now).1)
  obtain ⟨A, x, mid, hpre, hx, hmid⟩ := exists_last_standing hs
  have hL' := hL.ledBy_handedBack hpre hx hmid u now
  have hw' := hL.wf_handedBack_withdrawn hw u now
  exact ⟨_, hL'.highestBid? hw', hL'.highestBidderId_eq, hL.below x (by simp [hpre]) hx, hw'⟩

/-- A withdrawal, from a well-formed book, of a bid it may withdraw: the bid leads. With the lead
cleared nobody leads afterwards and nobody is told. Otherwise a lower bid takes the lead back,
and its event tells the withdrawn bid's bidder, unless the bid taking the lead back is theirs
too; the cascade's answers follow. -/
theorem apply_leadPassage {b : Book} {i : Nat} {bid : Bid} {reason bidId u : String}
    {now now' : Instant} {window : Duration} {d : Nat} {q : BidRetracted} {t : Txn}
    (hw : b.Wf) (hfresh : b.FreshAbove d) (hi : b.bidIndex? bidId = some i)
    (hf : b.findBid? bidId = some bid) (hr : refusal bid u now' window = none)
    (h : Txn.run (apply i bid reason) b now d = (.ok q, t)) :
    ∃ back, LeadPassage b t.events t.book back := by
  obtain ⟨pre, post, hL, rfl⟩ := hw.ledBy_of_withdrawable hi hf hr
  have hlead : b.highestBid? = some bid := hL.highestBid? hw
  obtain ⟨R, t₁, t₂, t₃, k, f, hb₁, he₁, hd₁, h₂, h₃, rfl, hfix, p, hR, hRid⟩ :=
    apply_run h hL.highestBidId_eq
  dsimp only at hb₁ he₁ hd₁
  rw [List.nil_append] at he₁
  have hquiet : outbidTargets [R] = [] := by
    rw [← outbidTargets_map hfix, List.map_singleton,
      outbidTargets_cons_of_leads_false (by rw [hR]; rfl)]
    rfl
  obtain ⟨hb₂, hcases⟩ := handBack_cases h₂
  rw [hb₁] at hb₂
  have hmap : t₂.book.bids.map Bid.asPlaced = b.bids.map Bid.asPlaced := by
    rw [hb₂, Book.handedBack_bids_asPlaced, Book.withdrawn_bids,
      map_updateAt b.bids _ (fun x => { x with status := .retracted }) Bid.asPlaced fun _ => rfl]
  have hlen : t₂.book.bids.length = b.bids.length := by simpa using congrArg List.length hmap
  have hdrop : t₂.book.bids.drop b.bids.length = [] := by rw [← hlen, List.drop_length]
  rcases hcases with ⟨hid₂, he₂⟩ | ⟨next, hnext, hid₂, hbidder₂, hd₂, e, he₂, hpe⟩
  · rw [resolve_of_no_leader (Book.highestBid?_of_empty hid₂), Prod.mk.injEq] at h₃
    obtain ⟨-, rfl⟩ := h₃
    refine ⟨none, ⟨?_, ?_, by simp⟩⟩
    · rw [outbidTargets_map hfix, he₂, he₁, hquiet, hdrop, hlead]
      rfl
    · rw [hdrop, hlead]
      exact List.isChain_singleton _
  · rw [hb₁] at hnext
    rw [hb₂] at hid₂ hbidder₂
    obtain ⟨x, hx, hbidderx, hlt, hw'⟩ := handedBack_lead hw hL hnext hid₂
    have hbidder : next.bidderId = x.bidderId := hbidder₂.symm.trans hbidderx
    rw [← hb₂] at hx hw'
    have hs₂ : t₂.Succession (b.highestBid?.toList ++ (some x).toList) b.bids.length := by
      rw [hlead]
      refine ⟨hlen.ge, ?_, hw'.leadAgrees, ?_, ?_, ?_⟩
      · rw [leaders, hdrop, hx]
        rfl
      · rw [leaders, hdrop, he₂, he₁, outbidTargets_append, hquiet,
          outbidTargets_highestUpdated e hpe]
        simp [displaced, hbidder]
      · rw [hdrop]
        exact List.isChain_singleton _
      · exact (hfresh.of_asPlaced hmap).mono (by omega)
    obtain ⟨post, hpost, -⟩ := resolve_withdrawsNothingAfter h₃
      (⟨[], (List.append_nil _).symm, by simp⟩ : t₂.WithdrawsNothingAfter t₂.events)
    refine ⟨_, LeadPassage.of_succession ((hs₂.resolve h₃).mapEvents hfix) ?_⟩
    intro y hy
    rw [Option.mem_some_iff] at hy
    subst hy
    refine ⟨bid, hlead, hlt, f R, ?_, p, hR, hRid⟩
    rw [hpost, he₂, he₁]
    exact List.mem_map_of_mem (by simp)

/-- A withdrawal that writes, from a well-formed book, tells the leaders its succession
displaced. -/
theorem leadPassage {req : RetractRequest} {auctionId : String} {now : Instant}
    {window : Duration} {b w : Book} {evs : List Event} {p : Option BidRetracted} {h : House}
    (hw : b.Wf) (hfresh : b.FreshAbove h.drawn)
    (hr : House.Reports (Withdrawal.change req auctionId now window) b w (evs, p) h) :
    ∃ back, LeadPassage b evs w back := by
  obtain ⟨i, bid, hi, hf, hrf, q, t, hrun, rfl, rfl⟩ := Withdrawal.reports_run hr
  exact apply_leadPassage hw hfresh hi hf hrf hrun

end Withdrawal

/-- Every operation committed on a well-formed book tells the leaders its succession
displaced. -/
theorem Publishes.leadPassage {b b' : Book} {evs : List Event} (h : Publishes b evs b')
    (hw : b.Wf) : ∃ back, LeadPassage b evs b' back := by
  cases h with
  | place req k now hk hnew hfresh hr =>
    exact ⟨none, (Placement.leadPassage hw hk hnew hfresh hr).version _⟩
  | retract req auctionId now window hfresh hr =>
    obtain ⟨back, hp⟩ := Withdrawal.leadPassage hw hfresh hr
    exact ⟨back, hp.version _⟩
  | register req k now _ _ hfresh hr =>
    exact ⟨none, (Proxy.register_leadPassage hw hfresh hr).version _⟩
  | toggle autoBidId userId active now last hfresh hr =>
    exact ⟨none, (Proxy.toggle_leadPassage hw hfresh hr).version _⟩
  | cancel autoBidId userId now hr =>
    obtain ⟨i, ab, -, -, rfl⟩ := Proxy.cancel_writes hr.writes
    refine ⟨none, LeadPassage.version ?_ _⟩
    exact LeadPassage.quiet rfl

/-- The feed's outbid notices for an operation committed on a reachable book follow the
succession of leaders. The lead passes from the leader of the book, through `back`, the
standing bid that takes the lead back when the operation withdraws the leader, to the bids the
operation enters. Each leader whom a bid of another bidder succeeded, and only those, is told,
in order. Every entered bid is higher than the lead it takes, but `back` is lower than the
withdrawn leader, whose withdrawal is among the events: a leader who withdraws their own bid is
told they were outbid when the lead goes back to somebody else. Every new lead is announced to
the auction's watchers once. -/
theorem outbid_notices_follow_the_succession_of_leaders {b b' : Book} {evs : List Event}
    (hb : Reachable b) (h : Publishes b evs b') :
    (∃ back : Option Bid,
      outbidTargets evs = displaced
        ((b.highestBid?.toList ++ back.toList ++ b'.bids.drop b.bids.length).map (·.bidderId)) ∧
      (((back.or b.highestBid?).toList ++ b'.bids.drop b.bids.length).map (·.amount)).IsChain
        (· < ·) ∧
      ∀ x ∈ back, ∃ L, b.highestBid? = some L ∧ x.amount < L.amount ∧
        ∃ e ∈ evs, ∃ p, e.payload = .retracted p ∧ p.bidId = L.id) ∧
    (bidUpdates evs).length = evs.countP (·.payload.leads) := by
  obtain ⟨back, hp⟩ := h.leadPassage hb.wf
  exact ⟨⟨back, hp.notices, hp.rises, hp.back_below⟩, bidUpdates_length evs⟩

/-- A bid of 100 on a new auction: its events tell nobody, and announce its lead once. -/
theorem outbid_notices_follow_the_succession_of_leaders_placed :
    ∃ evs b', Reachable (Book.empty "a-1") ∧ Publishes (Book.empty "a-1") evs b' ∧
      (∃ back : Option Bid,
        outbidTargets evs = displaced (((Book.empty "a-1").highestBid?.toList ++ back.toList ++
          b'.bids.drop (Book.empty "a-1").bids.length).map (·.bidderId)) ∧
        (((back.or (Book.empty "a-1").highestBid?).toList ++
          b'.bids.drop (Book.empty "a-1").bids.length).map (·.amount)).IsChain (· < ·) ∧
        ∀ x ∈ back, ∃ L, (Book.empty "a-1").highestBid? = some L ∧ x.amount < L.amount ∧
          ∃ e ∈ evs, ∃ p, e.payload = .retracted p ∧ p.bidId = L.id) ∧
      (bidUpdates evs).length = evs.countP (·.payload.leads) := by
  let req : PlaceRequest := ⟨"a-1", "x", "x-name", 100, ""⟩
  let house : House := { (default : House) with drawn := 1 }
  obtain ⟨t, hr, -, -⟩ := @Placement.reports_of_no_autoBids req (req.bid (idOf 1) house.now)
    (Book.empty "a-1") house rfl (by decide) rfl
  have hb : Reachable (Book.empty "a-1") := ⟨"a-1", .refl⟩
  have hp : Publishes (Book.empty "a-1") t.events { t.book with version := 0 + 1 } :=
    .place req 1 house.now le_rfl (by simp [Book.empty]) (by simp [Book.FreshAbove, Book.empty]) hr
  exact ⟨_, _, hb, hp, outbid_notices_follow_the_succession_of_leaders hb hp⟩

/-- A default house after `u` bid 100 on `a-1` and `v` bid 200 over it: `v` leads with the bid
`id-5`. -/
def ledByOutbidder : House :=
  let start := (Scenario.house {}).toOption.getD default
  let first := (((placeBid ⟨"a-1", "u", "u-name", 100, ""⟩).run Hooks.quiet).run start).2
  (((placeBid ⟨"a-1", "v", "v-name", 200, ""⟩).run Hooks.quiet).run first).2

/-- `v` withdrawing their own leading bid is told they were outbid: the lead goes back to `u`'s
lower bid, and the event of that new lead names `v` as the leader it displaced. -/
theorem withdrawing_leader_is_told_outbid :
    outbidTargets ((((retractBid ⟨"id-5", "v", "typo"⟩).run Hooks.quiet).run
      ledByOutbidder).2.published.drop ledByOutbidder.published.length) = ["v"] := by
  decide +kernel

end Auction
