import Mathlib
import Auction.Proofs.Cascade.Round

/-!
# A whole cascade: it settles within its bound

`Cascade.resolve` runs rounds against a bound, the number of auto-bids active at the start. A
round either spends its responder, which bids its whole maximum and can never reach a later
minimum next bid, or clears the ceiling, after which nobody can answer. So the responders are
distinct active auto-bids, a round past the bound never finds one, and the cascade stops on a
quiet book, with every answer accepted.

`Answers b l b'` records a run: each answer is the position of the auto-bid that answered and
the bid it placed, with what made the round go through. `RoundInv` is what holds at the start of
every round; `rounds_run` carries it from round to round, and `resolve_run` starts it.
-/

namespace Auction

/-- The bid as it was placed, before the book stamped its status and version. -/
def Bid.asPlaced (x : Bid) : Bid := { x with status := .pending, version := 0 }

/-- Entering a bid reads, as placed, as the bids before and the new bid after them. -/
theorem Txn.entered_bids_asPlaced (b : Book) (bid : Bid) (now : Instant) :
    (Txn.entered b bid now).1.bids.map Bid.asPlaced = b.bids.map Bid.asPlaced ++ [bid.asPlaced] := by
  rw [Txn.entered_bids, List.map_append]
  split
  · rw [map_updateAt b.bids _ (fun p => { p with status := .outbid }) Bid.asPlaced fun _ => rfl]
    rfl
  · rfl

namespace Cascade

open Txn

/-- The bid of an answer reads as placed already. -/
theorem bidFor_asPlaced (r : AutoBid) (auctionId id : String) (amount : Decimal) (now : Instant) :
    (bidFor r auctionId id amount now).asPlaced = bidFor r auctionId id amount now := rfl

/-- Whether the lead of `b` leaves no candidate to answer it. -/
def Settled (b : Book) : Prop :=
  ∀ L, b.highestBid? = some L → candidates b L (minimumNextBid L.amount) = []

/-- A settled book whose cached lead agrees with its leader is quiet. -/
theorem quiet_of_settled {b : Book} (hlead : b.LeadAgrees) (h : Settled b) : b.Quiet := by
  intro L hL a ha hact huser
  have hnil := candidates_eq_nil.mp (h L hL) a ha hact
  rw [Decimal.lt_iff_toRat, ← minimumNextBid_congr (hlead L hL).1, ← not_le, ← Decimal.le_iff_toRat]
  exact fun hmax => huser (hnil hmax)

/-! ### A record of the answers -/

/-- The answers of a cascade from `b`, ending on `b'`: each is the position of the auto-bid that
answered and the bid it placed. Each answer is by an active auto-bid of another user than the
leader of the moment, above the lead and within the auto-bid's maximum; it passes the acceptance
rule, enters under a fresh id and leads from then on. -/
inductive Answers : Book → List (Nat × Bid) → Book → Prop
  | nil (b : Book) : Answers b [] b
  | cons {b b' : Book} {L : Bid} {i : Nat} {r : AutoBid} {id : String} {amount : Decimal}
      {now : Instant} {rest : List (Nat × Bid)} :
      b.highestBid? = some L → b.autoBids[i]? = some r → r.isActive = true →
      r.userId ≠ L.bidderId → L.amount < amount → amount ≤ r.maxAmount →
      refusal amount b.highestAmount = none → id ≠ "" → (∀ x ∈ b.bids, x.id ≠ id) →
      Answers (afterAnswer b i r id amount now) rest b' →
      Answers b ((i, bidFor r b.auctionId id amount now) :: rest) b'

namespace Answers

variable {b b' : Book} {l : List (Nat × Bid)}

/-- Status and version aside, a cascade keeps the bids and appends its answers. -/
theorem bids_asPlaced (h : Answers b l b') :
    b'.bids.map Bid.asPlaced = b.bids.map Bid.asPlaced ++ l.map Prod.snd := by
  induction h with
  | nil => simp
  | cons _ _ _ _ _ _ _ _ _ _ ih =>
    rw [ih, afterAnswer_bids, entered_bids_asPlaced, bidFor_asPlaced]
    simp

/-- Every answer is by an active auto-bid of the starting book, for its user and within its
maximum. -/
theorem proxy (h : Answers b l b') :
    ∀ p ∈ l, ∃ a, b.autoBids[p.1]? = some a ∧ a.isActive = true ∧ p.2.isAutoBid = true ∧
      p.2.autoBidId = a.id ∧ p.2.bidderId = a.userId ∧ p.2.amount ≤ a.maxAmount := by
  induction h with
  | nil => simp
  | @cons b b' L i r id amount now rest _ hi hact _ _ hmax _ _ _ _ ih =>
    intro p hp
    rcases List.mem_cons.mp hp with rfl | hp
    · exact ⟨r, hi, hact, rfl, rfl, rfl, hmax⟩
    · obtain ⟨a, ha, hact', hauto, hid, huser, hle⟩ := ih p hp
      obtain ⟨a₀, ha₀, hid₀, huser₀, hmax₀, hact₀, -, -⟩ := afterAnswer_autoBid ha
      exact ⟨a₀, ha₀, hact₀ ▸ hact', hauto, hid.trans hid₀, huser.trans huser₀, hmax₀ ▸ hle⟩

/-- Each answer is by another user than the leader of the moment, at a higher amount. -/
theorem chain (h : Answers b l b') {L : Bid} (hL : b.highestBid? = some L) :
    (L :: l.map Prod.snd).IsChain fun x y => x.bidderId ≠ y.bidderId ∧ x.amount < y.amount := by
  induction h generalizing L with
  | nil => exact List.isChain_singleton L
  | @cons b b' L₀ i r id amount now rest hL₀ _ _ huser habove _ _ hne hfresh _ ih =>
    rw [hL, Option.some.injEq] at hL₀
    subst hL₀
    have htail := ih (@highestBid?_afterAnswer b i r id amount now hne hfresh)
    rw [List.map_cons, List.isChain_cons_cons]
    exact ⟨⟨Ne.symm huser, habove⟩, htail.imp_head
      (x := (entered b (bidFor r b.auctionId id amount now) now).2)
      (y := bidFor r b.auctionId id amount now) fun hz => hz⟩

/-- Without a leader the cascade answers nothing. -/
theorem eq_nil_of_no_leader (h : Answers b l b') (hL : b.highestBid? = none) : l = [] := by
  cases h with
  | nil => rfl
  | cons hL' => rw [hL] at hL'; cases hL'

end Answers

/-! ### Counting active auto-bids -/

/-- Distinct positions of active auto-bids are at most as many as the active auto-bids. -/
theorem length_le_activeAutoBids {b : Book} {S : List Nat} (hS : S.Nodup)
    (h : ∀ s ∈ S, ∃ a, b.autoBids[s]? = some a ∧ a.isActive = true) :
    S.length ≤ b.activeAutoBids.length := by
  let P := (b.autoBids.zipIdx.filter (·.1.isActive)).map Prod.snd
  have hsub : S ⊆ P := by
    intro s hs
    obtain ⟨a, ha, hact⟩ := h s hs
    exact List.mem_map.mpr ⟨(a, s), List.mem_filter.mpr ⟨List.mem_zipIdx_iff_getElem?.mpr ha,
      hact⟩, rfl⟩
  have hP : P.length = b.activeAutoBids.length := by
    have : b.activeAutoBids = (b.autoBids.zipIdx.filter (·.1.isActive)).map Prod.fst := by
      conv_lhs => rw [Book.activeAutoBids, ← List.zipIdx_map_fst 0 b.autoBids]
      rw [List.filter_map]
      rfl
    simp [P, this]
  exact hP ▸ (hS.subperm hsub).length_le

/-! ### Round after round -/

/-- What holds at the start of a round, after answers at the positions `spent`, against the
bound `bound`: the lead agrees with its bid, the ids to come are new, `bound` bounds every set
of active auto-bids, and the spent auto-bids are distinct and active; either nobody can answer
the lead, or every spent auto-bid's maximum is at most the lead. -/
structure RoundInv (bound : Nat) (spent : List Nat) (t : Txn) : Prop where
  lead : t.book.LeadAgrees
  fresh : t.book.FreshAbove t.drawn
  count : ∀ S : List Nat, S.Nodup → (∀ s ∈ S, ∃ a, t.book.autoBids[s]? = some a ∧ a.isActive = true) →
    S.length ≤ bound
  nodup : spent.Nodup
  active : ∀ s ∈ spent, ∃ a, t.book.autoBids[s]? = some a ∧ a.isActive = true
  spent : Settled t.book ∨
    ∀ s ∈ spent, ∀ a, t.book.autoBids[s]? = some a → ∀ L, t.book.highestBid? = some L →
      a.maxAmount.toRat ≤ L.amount.toRat

/-- An active auto-bid stays active through an answer, with its maximum. -/
theorem afterAnswer_active {b : Book} {i s : Nat} {r a : AutoBid} {id : String}
    {amount : Decimal} {now : Instant} (h : b.autoBids[s]? = some a) (hact : a.isActive = true) :
    ∃ a', (afterAnswer b i r id amount now).autoBids[s]? = some a' ∧ a'.isActive = true ∧
      a'.maxAmount = a.maxAmount := by
  rw [afterAnswer_autoBids, getElem?_updateAt, h]
  split
  · exact ⟨_, rfl, hact, rfl⟩
  · exact ⟨a, rfl, hact, rfl⟩

section Step

variable {bound : Nat} {spent : List Nat} {t : Txn} {L : Bid} {i : Nat} {r : AutoBid} {c : Decimal}

/-- A responder is never a spent auto-bid, so one more answer stays within the bound. -/
theorem RoundInv.responder_fresh (hinv : RoundInv bound spent t) (hL : t.book.highestBid? = some L)
    (hsel : selectResponder t.book L (minimumNextBid L.amount) = some (i, r, c)) :
    i ∉ spent ∧ spent.length < bound := by
  have hcand := (selectResponder_some hsel).1
  obtain ⟨hi, hact, hmax, -⟩ := mem_candidates.mp hcand
  have hnot : i ∉ spent := by
    intro hs
    rcases hinv.spent with hset | hsp
    · rw [hset L hL] at hcand
      exact List.not_mem_nil hcand
    · have hle := hsp i hs r hi L hL
      rw [Decimal.le_iff_toRat] at hmax
      linarith [lt_minimumNextBid L.amount]
  have hcount := hinv.count (i :: spent) (List.nodup_cons.mpr ⟨hnot, hinv.nodup⟩) (by
    intro s hs
    rcases List.mem_cons.mp hs with rfl | hs
    · exact ⟨r, hi, hact⟩
    · exact hinv.active s hs)
  exact ⟨hnot, by simpa using hcount⟩

/-- One answer keeps the invariant, with its responder spent. -/
theorem RoundInv.answer (hinv : RoundInv bound spent t) (hL : t.book.highestBid? = some L)
    (hsel : selectResponder t.book L (minimumNextBid L.amount) = some (i, r, c)) {t' : Txn}
    (hbook : t'.book = afterAnswer t.book i r (idOf (t.drawn + 1))
      (answerAmount (minimumNextBid L.amount) c r.maxAmount) t.now)
    (hdrawn : t'.drawn = t.drawn + 4) :
    RoundInv bound (spent ++ [i]) t' := by
  obtain ⟨hi, hact, hmax, -⟩ := mem_candidates.mp (selectResponder_some hsel).1
  obtain ⟨hnot, -⟩ := hinv.responder_fresh hL hsel
  obtain ⟨hLH, hpos⟩ := hinv.lead L hL
  set amount := answerAmount (minimumNextBid L.amount) c r.maxAmount with hamount
  have hmin : (minimumNextBid L.amount).toRat ≤ amount.toRat := le_answerAmount hmax
  have habove : L.amount.toRat < amount.toRat := (lt_minimumNextBid L.amount).trans_le hmin
  have hfr : ∀ x ∈ t.book.bids, x.id ≠ idOf (t.drawn + 1) :=
    fun x hx => hinv.fresh x hx _ (by omega)
  have hlead' := @highestBid?_afterAnswer t.book i r (idOf (t.drawn + 1)) amount t.now
    (idOf_ne_empty _) hfr
  rw [← hbook] at hlead'
  have hspent : ∀ s ∈ spent, ∀ a, t.book.autoBids[s]? = some a → a.maxAmount.toRat ≤ L.amount.toRat := by
    rcases hinv.spent with hset | hsp
    · have hcand := (selectResponder_some hsel).1
      rw [hset L hL] at hcand
      exact absurd hcand List.not_mem_nil
    · exact fun s hs a ha => hsp s hs a ha L hL
  refine ⟨?lead, ?fresh, ?count, ?nodup, ?active, ?spent⟩
  case lead =>
    rw [hbook]
    exact leadAgrees_afterAnswer (idOf_ne_empty _) hfr (by linarith)
  case fresh =>
    rw [hbook, hdrawn]
    exact freshAbove_afterAnswer hinv.fresh
  case count =>
    intro S hS hact'
    apply hinv.count S hS
    intro s hs
    obtain ⟨a, ha, hacta⟩ := hact' s hs
    rw [hbook] at ha
    obtain ⟨a₀, ha₀, -, -, -, hact₀, -, -⟩ := afterAnswer_autoBid ha
    exact ⟨a₀, ha₀, hact₀ ▸ hacta⟩
  case nodup => exact List.nodup_append.mpr ⟨hinv.nodup, List.nodup_singleton i,
    fun x hx y hy => by rw [List.mem_singleton.mp hy]; exact fun e => hnot (e ▸ hx)⟩
  case active =>
    intro s hs
    rw [hbook]
    rcases List.mem_append.mp hs with hs | hs
    · obtain ⟨a, ha, hacta⟩ := hinv.active s hs
      obtain ⟨a', ha', hact', -⟩ :=
        @afterAnswer_active t.book i s r a (idOf (t.drawn + 1)) amount t.now ha hacta
      exact ⟨a', ha', hact'⟩
    · rw [List.mem_singleton.mp hs]
      obtain ⟨a', ha', hact', -⟩ :=
        @afterAnswer_active t.book i i r r (idOf (t.drawn + 1)) amount t.now hi hact
      exact ⟨a', ha', hact'⟩
  case spent =>
    rcases answerAmount_spends_or_clears (m := minimumNextBid L.amount) (c := c)
      (M := r.maxAmount) with hspend | hclear
    · right
      intro s hs a ha L' hL'
      rw [hlead', Option.some.injEq] at hL'
      subst hL'
      rw [hbook] at ha
      obtain ⟨a₀, ha₀, -, -, hm, -, -, -⟩ := afterAnswer_autoBid ha
      simp only [entered_snd, bidFor]
      rw [hm]
      rcases List.mem_append.mp hs with hs | hs
      · linarith [hspent s hs a₀ ha₀]
      · rw [List.mem_singleton.mp hs, hi, Option.some.injEq] at ha₀
        rw [← ha₀]
        exact hspend.ge
    · left
      intro L' hL'
      rw [hlead', Option.some.injEq] at hL'
      subst hL'
      rw [hbook]
      exact candidates_afterAnswer_of_clears hsel hmin hclear rfl rfl

end Step

/-- From a round whose invariant holds, and with fuel enough for a round past the bound, the
cascade ends without error on a quiet book, after distinct answers within the bound. -/
theorem rounds_run {bound : Nat} : ∀ (fuel : Nat) (spent : List Nat) (t : Txn),
    RoundInv bound spent t → spent.length + fuel = bound + 1 →
    ∃ l t', (rounds bound fuel spent.length).run.run t = (.ok (spent.length + l.length), t') ∧
      Answers t.book l t'.book ∧ (spent ++ l.map Prod.fst).Nodup ∧
      spent.length + l.length ≤ bound ∧ t'.book.Quiet
  | 0, spent, t, hinv, hfuel => by
    have := hinv.count spent hinv.nodup hinv.active
    omega
  | fuel + 1, spent, t, hinv, hfuel => by
    have hle := hinv.count spent hinv.nodup hinv.active
    cases hL : t.book.highestBid? with
    | none =>
      refine ⟨[], t, by rw [rounds_of_no_leader hL]; simp, .nil _, by simpa using hinv.nodup,
        by simpa using hle, ?_⟩
      intro L h
      rw [hL] at h
      cases h
    | some L =>
      cases hsel : selectResponder t.book L (minimumNextBid L.amount) with
      | none =>
        refine ⟨[], t, by rw [rounds_of_no_responder hL hsel]; simp, .nil _,
          by simpa using hinv.nodup, by simpa using hle, quiet_of_settled hinv.lead ?_⟩
        intro L' hL'
        rw [hL, Option.some.injEq] at hL'
        subst hL'
        exact selectResponder_eq_none.mp hsel
      | some sel =>
        obtain ⟨i, r, c⟩ := sel
        obtain ⟨hi, hact, hmax, huser⟩ := mem_candidates.mp (selectResponder_some hsel).1
        obtain ⟨hLH, hpos⟩ := hinv.lead L hL
        obtain ⟨-, hdone⟩ := hinv.responder_fresh hL hsel
        have hok := refusal_answerAmount (c := c) hLH hpos hmax
        obtain ⟨t₁, hrun, hbook, -, hdrawn⟩ := rounds_answer hL hsel hdone hok
        have hinv₁ := hinv.answer hL hsel hbook hdrawn
        obtain ⟨l, t', hrun', hans, hnodup, hbound, hquiet⟩ :=
          rounds_run fuel (spent ++ [i]) t₁ hinv₁ (by simp; omega)
        have hmin := le_answerAmount (c := c) hmax
        refine ⟨(i, _) :: l, t', ?_, .cons hL hi hact huser ?_ ?_ hok (idOf_ne_empty _)
          (fun x hx => hinv.fresh x hx _ (by omega)) (hbook ▸ hans), ?_, ?_, hquiet⟩
        · rw [hrun]
          simp only [List.length_append, List.length_singleton] at hrun'
          rw [hrun']
          simp only [List.length_cons]
          congr 2
          omega
        · rw [Decimal.lt_iff_toRat]
          exact (lt_minimumNextBid L.amount).trans_le hmin
        · rw [Decimal.le_iff_toRat]
          exact answerAmount_le
        · simpa using hnodup
        · simp only [List.length_append, List.length_singleton] at hbound
          simp only [List.length_cons]
          omega

/-- The cascade from a book whose lead agrees with its bid, drawing ids new to the book. -/
theorem resolve_run {t : Txn} (hlead : t.book.LeadAgrees) (hfresh : t.book.FreshAbove t.drawn) :
    ∃ l t', resolve.run.run t = (.ok l.length, t') ∧ Answers t.book l t'.book ∧
      (l.map Prod.fst).Nodup ∧ l.length ≤ t.book.activeAutoBids.length ∧ t'.book.Quiet := by
  have hinv : RoundInv t.book.activeAutoBids.length [] t :=
    ⟨hlead, hfresh, fun _ hS h => length_le_activeAutoBids hS h, List.nodup_nil,
      fun _ h => absurd h List.not_mem_nil, Or.inr fun _ h => absurd h List.not_mem_nil⟩
  obtain ⟨l, t', hrun, hans, hnodup, hbound, hquiet⟩ := rounds_run (t.book.activeAutoBids.length + 1) [] t hinv (by simp)
  refine ⟨l, t', ?_, hans, by simpa using hnodup, by simpa using hbound, hquiet⟩
  rw [resolve, run_get_bind]
  simpa using hrun

/-- A cascade that ended without error, from a book whose lead agrees with its bid and whose
ids to come are new, made answers and left a quiet book. -/
theorem resolve_eq_ok {t t' : Txn} {n : Nat} (h : resolve.run.run t = (.ok n, t'))
    (hlead : t.book.LeadAgrees) (hfresh : t.book.FreshAbove t.drawn) :
    ∃ l, Answers t.book l t'.book ∧ t'.book.Quiet := by
  obtain ⟨l, t'', hrun, hans, -, -, hquiet⟩ := resolve_run hlead hfresh
  rw [hrun, Prod.mk.injEq] at h
  obtain ⟨-, rfl⟩ := h
  exact ⟨l, hans, hquiet⟩

/-- The cascade never trips its bound. From a book whose cached lead agrees with its leading bid
and is positive, drawing ids new to the book, the cascade returns without error. Its answers are
at most as many as the active auto-bids and each by a different one of them, for its user and
within its maximum; each is by another user than the leader of the moment and above the lead, so
the amounts rise; status and version aside, the book gains exactly these bids; and the book it
leaves is quiet. -/
theorem resolve_settles_within_bound {t : Txn} (hlead : t.book.LeadAgrees)
    (hfresh : t.book.FreshAbove t.drawn) :
    ∃ (answers : List (Nat × Bid)) (t' : Txn),
      resolve.run.run t = (.ok answers.length, t') ∧
      answers.length ≤ t.book.activeAutoBids.length ∧
      (answers.map Prod.fst).Nodup ∧
      (∀ p ∈ answers, ∃ a, t.book.autoBids[p.1]? = some a ∧ a.isActive = true ∧
        p.2.isAutoBid = true ∧ p.2.autoBidId = a.id ∧ p.2.bidderId = a.userId ∧
        p.2.amount ≤ a.maxAmount) ∧
      (∀ L, t.book.highestBid? = some L →
        (L :: answers.map Prod.snd).IsChain fun x y => x.bidderId ≠ y.bidderId ∧ x.amount < y.amount) ∧
      (t.book.highestBid? = none → answers = []) ∧
      t'.book.bids.map Bid.asPlaced = t.book.bids.map Bid.asPlaced ++ answers.map Prod.snd ∧
      t'.book.Quiet := by
  obtain ⟨l, t', hrun, hans, hnodup, hbound, hquiet⟩ := resolve_run hlead hfresh
  exact ⟨l, t', hrun, hbound, hnodup, hans.proxy, fun _ hL => hans.chain hL,
    hans.eq_nil_of_no_leader, hans.bids_asPlaced, hquiet⟩

/-- The lead of `rivalTxn`: 100 under the first id drawn. -/
def rivalLead : Bid :=
  { id := idOf 1, auctionId := "a-1", bidderId := "u1", bidderUsername := "u1", amount := 100,
    bidTime := Instant.zero, status := .accepted, isAutoBid := false, autoBidId := "", version := 1 }

/-- An auto-bid of another user than `rivalLead`'s, up to 150. -/
def rivalProxy : AutoBid :=
  { id := "p-1", auctionId := "a-1", userId := "u2", username := "u2", maxAmount := 150,
    currentBidAmount := 0, isActive := true, createdAt := Instant.zero, lastBidAt := none,
    cancelledAt := none }

/-- A transaction over a book led by `rivalLead`, with `rivalProxy` registered. -/
def rivalTxn : Txn where
  book :=
    { Book.empty "a-1" with
      version := 1, bids := [rivalLead], autoBids := [rivalProxy], highestBidId := idOf 1,
      highestAmount := 100, highestBidderId := "u1" }
  now := Instant.zero
  events := []
  drawn := 1

/-- The cascade over `rivalTxn` settles within the bound, with every listed property of its answers.
-/
theorem resolve_settles_within_bound_rival :
    rivalTxn.book.LeadAgrees ∧ rivalTxn.book.FreshAbove rivalTxn.drawn ∧
    ∃ (answers : List (Nat × Bid)) (t' : Txn),
      resolve.run.run rivalTxn = (.ok answers.length, t') ∧
      answers.length ≤ rivalTxn.book.activeAutoBids.length ∧
      (answers.map Prod.fst).Nodup ∧
      (∀ p ∈ answers, ∃ a, rivalTxn.book.autoBids[p.1]? = some a ∧ a.isActive = true ∧
        p.2.isAutoBid = true ∧ p.2.autoBidId = a.id ∧ p.2.bidderId = a.userId ∧
        p.2.amount ≤ a.maxAmount) ∧
      (∀ L, rivalTxn.book.highestBid? = some L →
        (L :: answers.map Prod.snd).IsChain fun x y => x.bidderId ≠ y.bidderId ∧ x.amount < y.amount) ∧
      (rivalTxn.book.highestBid? = none → answers = []) ∧
      t'.book.bids.map Bid.asPlaced = rivalTxn.book.bids.map Bid.asPlaced ++ answers.map Prod.snd ∧
      t'.book.Quiet := by
  have hlead : rivalTxn.book.LeadAgrees := by
    intro L hL
    have hfirst : rivalTxn.book.highestBid? = some rivalLead := rfl
    rw [hfirst, Option.some.injEq] at hL
    subst hL
    refine ⟨rfl, ?_⟩
    show (0 : ℚ) < Decimal.toRat 100
    rw [Decimal.toRat_ofNat]
    norm_num
  have hfresh : rivalTxn.book.FreshAbove rivalTxn.drawn := by
    intro x hx k hk
    rw [show rivalTxn.book.bids = [rivalLead] from rfl, List.mem_singleton] at hx
    subst hx
    exact fun e => absurd (idOf_injective e) (Nat.ne_of_lt (show 1 < k from hk))
  exact ⟨hlead, hfresh, resolve_settles_within_bound hlead hfresh⟩

end Cascade

end Auction
