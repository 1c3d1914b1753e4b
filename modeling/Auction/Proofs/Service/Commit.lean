import Mathlib
import Auction.Proofs.Cascade.Run
import Auction.Service.Place
import Auction.Service.Retract
import Auction.Service.AutoBid
import Auction.Service.Close

/-!
# What a committed operation writes

Every operation of the service changes the book of its auction through `House.execute`: the
operation's change of the loaded book decides to keep it or to write a new one, and the
compare-and-swap stores what it wrote at the next version. `House.Writes c b w h` says that the
change `c` of `b`, run against the house `h`, writes `w`. For each operation this module reads
off such a `w` in terms of the book, once, so that the invariants never open a change again:

* a placement enters its bid (`Txn.entered`) and runs the cascade (`Placement.change_writes`);
* a withdrawal marks the bid retracted, pauses its bidder's auto-bid, hands a withdrawn lead
  back (`handedBack`) and runs the cascade (`Withdrawal.change_writes`);
* a registration appends the new auto-bid and runs the cascade; pausing or resuming flips one
  auto-bid, and resuming runs the cascade; cancelling pauses one auto-bid for good; closing
  marks the book closed.

`Committed b b'` is one such operation committed on `b`, with the ids it draws new to the book,
and `Reachable` is what a run of them can reach from the empty book.
-/

namespace Auction

/-- The change `c` of the book `b`, run against the house `h`, decides to write `w`. -/
def House.Writes {ε α : Type} (c : Book → HouseM (Except ε (House.Change α))) (b w : Book)
    (h : House) : Prop :=
  ∃ hooks out h', ((c b).run hooks).run h = (.ok (.write w out), h')

/-- Running a transaction on a book at the house's time and count of ids hands its result to what
follows, in a house that counts the ids it drew. -/
theorem House.run_runTxn_bind {α β : Type} (book : Book) (m : TxnM α)
    (f : Except Fault α × Txn → HouseM β) (hooks : Hooks) (h : House) :
    ((House.runTxn book m >>= f).run hooks).run h =
      ((f (Txn.run m book h.now h.drawn)).run hooks).run
        { h with drawn := (Txn.run m book h.now h.drawn).2.drawn } := rfl

open Txn Cascade

/-! ### Placing a bid -/

/-- A placement that writes had an open book and an acceptable bid: the bid entered, and the
cascade ran from there to the book written. -/
theorem Placement.change_writes {req : PlaceRequest} {bid : Bid} {b w : Book} {h : House}
    (hw : House.Writes (Placement.change req bid) b w h) :
    b.closed = false ∧ refusal bid.amount b.highestAmount = none ∧
      ∃ t n t', t.book = (entered b bid h.now).1 ∧ t.drawn = h.drawn + 3 ∧
        resolve.run.run t = (.ok n, t') ∧ w = t'.book := by
  obtain ⟨hooks, out, h', hrun⟩ := hw
  unfold Placement.change at hrun
  cases hc : b.closed
  · simp only [hc, Bool.false_eq_true, if_false, House.run_runTxn_bind] at hrun
    rcases hr : Txn.run (do accept bid; let _ ← resolve; pure ()) b h.now h.drawn with
      ⟨_ | _, t⟩
    · rw [hr] at hrun
      cases congrArg Prod.fst hrun
    · rw [hr] at hrun
      cases congrArg Prod.fst hrun
      obtain ⟨_, t₁, hacc, hrest⟩ := run_bind_eq_ok hr
      obtain ⟨hok, hbook, -, hdrawn⟩ := accept_eq_ok hacc
      obtain ⟨n, t₂, hres, hend⟩ := run_bind_eq_ok hrest
      rw [run_pure, Prod.mk.injEq] at hend
      obtain ⟨-, rfl⟩ := hend
      exact ⟨rfl, hok, t₁, n, t₂, hbook, hdrawn, hres, rfl⟩
  · simp only [hc, if_true] at hrun
    cases congrArg Prod.fst hrun

/-! ### Closing -/

/-- Closing writes only an open book, and writes it closed. -/
theorem Book.closing_writes {closing : Instant} {b w : Book} {h : House}
    (hw : House.Writes (Book.closing closing ()) b w h) : b.closed = false ∧ w = b.close closing := by
  obtain ⟨hooks, out, h', hrun⟩ := hw
  unfold Book.closing at hrun
  cases hc : b.closed
  · simp only [hc, Bool.false_eq_true, if_false] at hrun
    cases congrArg Prod.fst hrun
    exact ⟨rfl, rfl⟩
  · simp only [hc, if_true] at hrun
    cases congrArg Prod.fst hrun

/-! ### Withdrawing a bid -/

/-- The book `Withdrawal.handBack` leaves: the lead handed to the best standing bid, accepted
again, or to nobody. -/
def Withdrawal.handedBack (b : Book) : Book :=
  match b.bestStanding? with
  | none => b.setHighest none
  | some (j, next) =>
    (b.modifyBid j fun _ => { next with status := .accepted }).setHighest
      (some { next with status := .accepted })

/-- Handing the lead back leaves the book `handedBack` gives, at the same time, having drawn ids if
any. -/
theorem Withdrawal.handBack_run (bid : Bid) (t : Txn) :
    ∃ t', (Withdrawal.handBack bid).run.run t = (.ok (), t') ∧
      t'.book = handedBack t.book ∧ t'.now = t.now ∧ t.drawn ≤ t'.drawn := by
  rw [Withdrawal.handBack, run_get_bind]
  unfold handedBack
  cases hs : t.book.bestStanding? with
  | none => exact ⟨_, rfl, rfl, rfl, le_refl _⟩
  | some p =>
    obtain ⟨j, next⟩ := p
    simp only
    rw [run_bind, run_modifyBook]
    exact ⟨_, run_emit _ _, rfl, rfl, Nat.le_succ _⟩

/-- A withdrawal that succeeded withdrew the bid, handed a withdrawn lead back, and ran the
cascade from there; what follows the cascade only rewrites its event. -/
theorem Withdrawal.apply_eq_ok {i : Nat} {bid : Bid} {reason : String} {t t' : Txn}
    {p : BidRetracted} (h : (Withdrawal.apply i bid reason).run.run t = (.ok p, t')) :
    ∃ t₁ n t₂, t₁.book = (if t.book.highestBidId = bid.id
        then handedBack (withdrawn t.book i bid.bidderId t.now)
        else withdrawn t.book i bid.bidderId t.now) ∧
      t.drawn ≤ t₁.drawn ∧ resolve.run.run t₁ = (.ok n, t₂) ∧ t'.book = t₂.book := by
  rw [Withdrawal.apply, run_get_bind] at h
  obtain ⟨_, t₀, h₀, h₁⟩ := run_bind_eq_ok h
  rw [run_modifyBook, Prod.mk.injEq] at h₀
  obtain ⟨-, rfl⟩ := h₀
  obtain ⟨_, t₁, he, h₂⟩ := run_bind_eq_ok h₁
  rw [run_emit, Prod.mk.injEq] at he
  obtain ⟨-, rfl⟩ := he
  obtain ⟨_, t₂, hif, h₃⟩ := run_bind_eq_ok h₂
  obtain ⟨n, t₃, hres, h₄⟩ := run_bind_eq_ok h₃
  rw [run_get_bind] at h₄
  obtain ⟨_, t₄, hm, hp⟩ := run_bind_eq_ok h₄
  rw [run_modify, Prod.mk.injEq] at hm
  obtain ⟨-, rfl⟩ := hm
  rw [run_pure, Prod.mk.injEq] at hp
  obtain ⟨-, rfl⟩ := hp
  by_cases hlead : t.book.highestBidId = bid.id
  · rw [beq_iff_eq.mpr hlead, if_pos rfl] at hif
    obtain ⟨t'', hrun, hb, -, hd⟩ := handBack_run bid _
    rw [hrun, Prod.mk.injEq] at hif
    obtain ⟨-, rfl⟩ := hif
    exact ⟨t'', n, t₃, by rw [if_pos hlead, hb], by simp only at hd; omega, hres, rfl⟩
  · rw [beq_eq_false_iff_ne.mpr hlead, if_neg Bool.false_ne_true, run_pure, Prod.mk.injEq] at hif
    obtain ⟨-, rfl⟩ := hif
    exact ⟨_, n, t₃, by rw [if_neg hlead], Nat.le_succ _, hres, rfl⟩

/-- A withdrawal that writes found the bid on an open book and passed the refusals; the book it
writes is the cascade's after the withdrawal. -/
theorem Withdrawal.change_writes {req : RetractRequest} {auctionId : String} {now : Instant}
    {window : Duration} {b w : Book} {h : House}
    (hw : House.Writes (Withdrawal.change req auctionId now window) b w h) :
    b.closed = false ∧ ∃ i bid, b.bidIndex? req.bidId = some i ∧ b.findBid? req.bidId = some bid ∧
      Withdrawal.refusal bid req.bidderId now window = none ∧
      ∃ t n t', t.book = (if b.highestBidId = bid.id
          then handedBack (withdrawn b i bid.bidderId h.now)
          else withdrawn b i bid.bidderId h.now) ∧
        h.drawn ≤ t.drawn ∧ resolve.run.run t = (.ok n, t') ∧ w = t'.book := by
  obtain ⟨hooks, out, h', hrun⟩ := hw
  unfold Withdrawal.change at hrun
  cases hc : b.closed
  · simp only [hc, Bool.false_eq_true, if_false] at hrun
    cases hi : b.bidIndex? req.bidId with
    | none =>
      simp only [hi] at hrun
      cases congrArg Prod.fst hrun
    | some i =>
      cases hf : b.findBid? req.bidId with
      | none =>
        simp only [hi, hf] at hrun
        cases congrArg Prod.fst hrun
      | some bid =>
        simp only [hi, hf] at hrun
        cases hr : refusal bid req.bidderId now window with
        | some e =>
          simp only [hr] at hrun
          cases congrArg Prod.fst hrun
        | none =>
          simp only [hr, House.run_runTxn_bind] at hrun
          rcases ht : Txn.run (apply i bid req.reason) b h.now h.drawn with ⟨_ | p, t⟩
          · rw [ht] at hrun
            cases congrArg Prod.fst hrun
          · rw [ht] at hrun
            cases congrArg Prod.fst hrun
            obtain ⟨t₁, n, t₂, hb, hd, hres, hend⟩ := apply_eq_ok ht
            exact ⟨rfl, i, bid, rfl, rfl, hr, t₁, n, t₂, hb, hd, hres, hend⟩
  · simp only [hc, if_true] at hrun
    cases congrArg Prod.fst hrun

/-- Conversely, a withdrawal of a bid it finds on an open book, past the refusals, writes the
book its transaction leaves once the transaction succeeds. -/
theorem Withdrawal.change_writes_of_checks {req : RetractRequest} {auctionId : String}
    {now : Instant} {window : Duration} {b : Book} {h : House} {i : Nat} {bid : Bid}
    (hc : b.closed = false) (hi : b.bidIndex? req.bidId = some i)
    (hf : b.findBid? req.bidId = some bid) (hr : Withdrawal.refusal bid req.bidderId now window = none)
    (ht : (Txn.run (Withdrawal.apply i bid req.reason) b h.now h.drawn).1.isOk = true) :
    House.Writes (Withdrawal.change req auctionId now window) b
      (Txn.run (Withdrawal.apply i bid req.reason) b h.now h.drawn).2.book h := by
  refine ⟨⟨pure ()⟩, ?_⟩
  unfold Withdrawal.change
  simp only [hc, hi, hf, hr, Bool.false_eq_true, if_false, House.run_runTxn_bind]
  rcases hrun : Txn.run (Withdrawal.apply i bid req.reason) b h.now h.drawn with ⟨_ | p, t⟩
  · rw [hrun] at ht
    cases ht
  · exact ⟨_, _, rfl⟩

/-! ### Auto-bids -/

/-- An auto-bid found for its owner is on an open book, at its position, under its id. -/
theorem Proxy.owned_eq_ok {b : Book} {autoBidId userId : String} {i : Nat} {ab : AutoBid}
    (h : Proxy.owned b autoBidId userId = .ok (i, ab)) :
    b.closed = false ∧ b.autoBids[i]? = some ab ∧ ab.id = autoBidId ∧ ab.userId = userId := by
  unfold Proxy.owned at h
  cases hc : b.closed
  · simp only [hc, Bool.false_eq_true, if_false] at h
    cases hi : b.autoBidIndex? autoBidId with
    | none => simp [hi] at h
    | some i' =>
      cases hf : b.findAutoBid? autoBidId with
      | none => simp [hi, hf] at h
      | some ab' =>
        simp only [hi, hf] at h
        by_cases hu : ab'.userId = userId
        · simp only [hu, bne_self_eq_false, Bool.false_eq_true, if_false, Except.ok.injEq,
            Prod.mk.injEq] at h
          obtain ⟨rfl, rfl⟩ := h
          refine ⟨rfl, getElem?_of_firstIndex?_find? hi hf, ?_, hu⟩
          simpa using List.find?_some hf
        · simp [hu] at h
  · simp [hc] at h

/-- A registration that writes appended the new auto-bid to an open book where the user had no
active one and the maximum matters, and ran the cascade. -/
theorem Proxy.register_writes {req : AutoBidRequest} {autoBidId : String} {now : Instant}
    {b w : Book} {h : House} (hw : House.Writes (Proxy.register req autoBidId now) b w h) :
    b.closed = false ∧ b.activeAutoBidFor? req.userId = none ∧
      Proxy.maxRefusal b req.userId req.maxAmount = none ∧
      ∃ n t', resolve.run.run
          ⟨{ b with autoBids := b.autoBids ++ [req.autoBid autoBidId now], updatedAt := now },
            h.now, [], h.drawn⟩ = (.ok n, t') ∧ w = t'.book := by
  obtain ⟨hooks, out, h', hrun⟩ := hw
  unfold Proxy.register at hrun
  by_cases hc : b.closed = true
  · rw [if_pos hc] at hrun
    cases congrArg Prod.fst hrun
  · rw [if_neg hc] at hrun
    cases ha : b.activeAutoBidFor? req.userId with
    | some a =>
      simp only [ha] at hrun
      cases congrArg Prod.fst hrun
    | none =>
      cases hm : Proxy.maxRefusal b req.userId req.maxAmount with
      | some e =>
        simp only [ha, hm] at hrun
        cases congrArg Prod.fst hrun
      | none =>
        simp only [ha, hm, House.run_runTxn_bind] at hrun
        rcases ht : Txn.run resolve
            { b with autoBids := b.autoBids ++ [req.autoBid autoBidId now], updatedAt := now }
            h.now h.drawn with ⟨_ | n, t⟩
        · rw [ht] at hrun
          cases congrArg Prod.fst hrun
        · rw [ht] at hrun
          cases congrArg Prod.fst hrun
          exact ⟨by simpa using hc, rfl, rfl, n, t, ht, rfl⟩

/-- Conversely, a registration on an open book, where the user has no active auto-bid and the
maximum matters, writes the book its cascade leaves once the cascade succeeds. -/
theorem Proxy.register_writes_of_checks {req : AutoBidRequest} {autoBidId : String}
    {now : Instant} {b : Book} {h : House} (hc : b.closed = false)
    (ha : b.activeAutoBidFor? req.userId = none)
    (hm : Proxy.maxRefusal b req.userId req.maxAmount = none)
    (hres : (Txn.run resolve
      { b with autoBids := b.autoBids ++ [req.autoBid autoBidId now], updatedAt := now }
      h.now h.drawn).1.isOk = true) :
    House.Writes (Proxy.register req autoBidId now) b
      (Txn.run resolve
        { b with autoBids := b.autoBids ++ [req.autoBid autoBidId now], updatedAt := now }
        h.now h.drawn).2.book h := by
  have hopen : ¬b.closed = true := by simp [hc]
  refine ⟨⟨pure ()⟩, ?_⟩
  unfold Proxy.register
  rw [if_neg hopen]
  simp only [ha, hm, House.run_runTxn_bind]
  rcases ht : Txn.run resolve
      { b with autoBids := b.autoBids ++ [req.autoBid autoBidId now], updatedAt := now }
      h.now h.drawn with ⟨_ | n, t⟩
  · rw [ht] at hres
    cases hres
  · exact ⟨_, _, rfl⟩

/-- A toggle that writes flipped an auto-bid of the caller's that was not cancelled; resuming
passed the checks of a registration and ran the cascade. -/
theorem Proxy.toggle_writes {autoBidId userId : String} {active : Bool} {now : Instant}
    {last : List Event} {b w : Book} {h : House}
    (hw : House.Writes (Proxy.toggle autoBidId userId active now last) b w h) :
    ∃ i ab, Proxy.owned b autoBidId userId = .ok (i, ab) ∧ ab.isCancelled = false ∧
      ab.isActive ≠ active ∧
      (active = true → b.activeAutoBidFor? userId = none ∧
        Proxy.maxRefusal b userId ab.maxAmount = none ∧
        ∃ n t', resolve.run.run
          ⟨{ (b.modifyAutoBid i fun a => { a with isActive := true }) with updatedAt := now },
            h.now, [], h.drawn⟩ = (.ok n, t') ∧ w = t'.book) ∧
      (active = false →
        w = { (b.modifyAutoBid i fun a => { a with isActive := false }) with updatedAt := now }) := by
  obtain ⟨hooks, out, h', hrun⟩ := hw
  unfold Proxy.toggle at hrun
  cases ho : Proxy.owned b autoBidId userId with
  | error f =>
    simp only [ho] at hrun
    cases congrArg Prod.fst hrun
  | ok p =>
    obtain ⟨i, ab⟩ := p
    simp only [ho] at hrun
    cases hcan : ab.isCancelled
    · cases active <;> cases hact : ab.isActive
      · simp only [hcan, hact, Bool.false_eq_true, if_false, beq_self_eq_true, if_true] at hrun
        cases congrArg Prod.fst hrun
      · simp only [hcan, hact, Bool.false_eq_true, if_false, Bool.not_false, if_true,
          beq_iff_eq, Bool.true_eq_false] at hrun
        cases congrArg Prod.fst hrun
        exact ⟨i, ab, rfl, hcan, by simp [hact], by simp, fun _ => rfl⟩
      · cases ha : b.activeAutoBidFor? userId with
        | some a =>
          simp only [hcan, hact, ha, Bool.false_eq_true, if_false, if_true, beq_iff_eq,
            Bool.false_eq_true] at hrun
          cases congrArg Prod.fst hrun
        | none =>
          cases hm : Proxy.maxRefusal b userId ab.maxAmount with
          | some e =>
            simp only [hcan, hact, ha, hm, Bool.false_eq_true, if_false, if_true, beq_iff_eq] at hrun
            cases congrArg Prod.fst hrun
          | none =>
            simp only [hcan, hact, ha, hm, Bool.false_eq_true, if_false, if_true, beq_iff_eq,
              Bool.not_true, House.run_runTxn_bind] at hrun
            split at hrun
            · cases congrArg Prod.fst hrun
            · rename_i n hres
              cases congrArg Prod.fst hrun
              exact ⟨i, ab, rfl, hcan, by simp [hact], fun _ => ⟨rfl, hm, n, _, Prod.ext hres rfl, rfl⟩,
                by simp⟩
      · simp only [hcan, hact, Bool.false_eq_true, if_false, beq_self_eq_true, if_true] at hrun
        cases congrArg Prod.fst hrun
    · simp only [hcan, if_true] at hrun
      cases congrArg Prod.fst hrun

/-- A cancellation that writes paused an auto-bid of the caller's for good. -/
theorem Proxy.cancel_writes {autoBidId userId : String} {now : Instant} {b w : Book} {h : House}
    (hw : House.Writes (Proxy.cancel autoBidId userId now) b w h) :
    ∃ i ab, Proxy.owned b autoBidId userId = .ok (i, ab) ∧ ab.isCancelled = false ∧
      w = { (b.modifyAutoBid i fun a => { a with isActive := false, cancelledAt := some now }) with
        updatedAt := now } := by
  obtain ⟨hooks, out, h', hrun⟩ := hw
  unfold Proxy.cancel at hrun
  cases ho : Proxy.owned b autoBidId userId with
  | error f =>
    simp only [ho] at hrun
    cases congrArg Prod.fst hrun
  | ok p =>
    obtain ⟨i, ab⟩ := p
    simp only [ho] at hrun
    cases hcan : ab.isCancelled
    · simp only [hcan, Bool.false_eq_true, if_false] at hrun
      cases congrArg Prod.fst hrun
      exact ⟨i, ab, rfl, hcan, rfl⟩
    · simp only [hcan, if_true] at hrun
      cases congrArg Prod.fst hrun

/-! ### Runs of committed operations -/

/-- One operation of the service committed on the book `b` of its auction, leaving `b'`: the
operation's change of `b`, run against a house `h`, wrote a book, stored at the next version.
The ids the change draws are new to the book: those after the house's count, and the one the
operation drew before the change, for a bid or an auto-bid. -/
inductive Committed : Book → Book → Prop
  | place {b w : Book} {h : House} (req : PlaceRequest) (k : Nat) (now : Instant) :
      k ≤ h.drawn → (∀ x ∈ b.bids, x.id ≠ idOf k) → b.FreshAbove h.drawn →
      House.Writes (Placement.change req (req.bid (idOf k) now)) b w h →
      Committed b { w with version := b.version + 1 }
  | retract {b w : Book} {h : House} (req : RetractRequest) (auctionId : String) (now : Instant)
      (window : Duration) :
      b.FreshAbove h.drawn → House.Writes (Withdrawal.change req auctionId now window) b w h →
      Committed b { w with version := b.version + 1 }
  | finish {b w : Book} {h : House} (closing : Instant) :
      House.Writes (Book.closing closing ()) b w h → Committed b { w with version := b.version + 1 }
  | register {b w : Book} {h : House} (req : AutoBidRequest) (k : Nat) (now : Instant) :
      req.maxAmount.isPos = true → (∀ a ∈ b.autoBids, a.id ≠ idOf k) → b.FreshAbove h.drawn →
      House.Writes (Proxy.register req (idOf k) now) b w h →
      Committed b { w with version := b.version + 1 }
  | toggle {b w : Book} {h : House} (autoBidId userId : String) (active : Bool) (now : Instant)
      (last : List Event) :
      b.FreshAbove h.drawn → House.Writes (Proxy.toggle autoBidId userId active now last) b w h →
      Committed b { w with version := b.version + 1 }
  | cancel {b w : Book} {h : House} (autoBidId userId : String) (now : Instant) :
      House.Writes (Proxy.cancel autoBidId userId now) b w h →
      Committed b { w with version := b.version + 1 }

/-- The books that runs of committed operations reach from the empty book of an auction. -/
def Reachable (b : Book) : Prop :=
  ∃ auctionId, Relation.ReflTransGen Committed (Book.empty auctionId) b

end Auction
