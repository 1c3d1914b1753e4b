import Auction.Proofs.Ledger.Pool
import Auction.Proofs.Service.Commit
import Auction.Scenario.Setup

/-!
# Which attempt's report the compare-and-swap returns

`House.execute` hands the report of one attempt to the next: a change that finds nothing to
write may report what the attempt before it reported. So the report that comes back with a book
is one of two things (`execute_returned`):

* the attempt whose commit landed wrote the book and reported it (`Landed`), and its commit was
  the last step of the run; or
* the last attempt kept the book it loaded and reported `out` on it, given the report handed
  over: the caller's initial report on the first attempt, or else the report of an attempt
  whose commit met a version conflict and stored nothing (`Superseded`).

The changes of a placement, a withdrawal and a registration never keep the book, so they
return only the landed attempt's report. Pausing or resuming keeps the book when the auto-bid is
already as asked, and then reports exactly what was handed over (`Proxy.toggle_keep`): the
events of an attempt that stored nothing.
-/

namespace Auction

namespace House

variable {ε α : Type} {mutate : α → Book → HouseM (Except ε (Change α))} {hooks : Hooks}

/-- An attempt wrote `working` over the loaded `current` with the report `out`, and its commit
landed, leaving the house `h'`: the book `b` it stored is the working book at the next
version. -/
def Landed (mutate : α → Book → HouseM (Except ε (Change α))) (hooks : Hooks) (b : Book)
    (out : α) (h' : House) : Prop :=
  ∃ last current working h₁ h₂,
    ((mutate last current).run hooks).run h₁ = (.ok (.write working out), h₂) ∧
    ((commitBook (stamp current working)).run hooks).run h₂ = (.ok (), h') ∧
    b = (stamp current working).book

/-- `l` is the report of an attempt whose commit met a version conflict: the attempt wrote a
book with the report `l`, and the commit of that change stored nothing. -/
def Superseded (mutate : α → Book → HouseM (Except ε (Change α))) (hooks : Hooks) (l : α) :
    Prop :=
  ∃ last current working h₁ h₂ f,
    ((mutate last current).run hooks).run h₁ = (.ok (.write working l), h₂) ∧
    (((commitBook (stamp current working)).run hooks).run h₂).1 = .error f ∧
    f.root = .versionConflict

/-- The last attempt kept the loaded book `b`, reporting `out` given the report handed over to
it, which is `init` or the report of a superseded attempt. -/
def Kept (mutate : α → Book → HouseM (Except ε (Change α))) (hooks : Hooks) (init : α)
    (b : Book) (out : α) (h' : House) : Prop :=
  ∃ last h₁, ((mutate last b).run hooks).run h₁ = (.ok (.keep out), h') ∧
    (last = init ∨ Superseded mutate hooks last)

/-- A book kept after a superseded report handed over is kept after any report handed over before
it. -/
theorem Kept.superseded {init l : α} {b : Book} {out : α} {h' : House}
    (hk : Kept mutate hooks l b out h') (hl : Superseded mutate hooks l) :
    Kept mutate hooks init b out h' := by
  obtain ⟨last, h₁, hrun, hlast⟩ := hk
  refine ⟨last, h₁, hrun, .inr ?_⟩
  rcases hlast with rfl | hs
  · exact hl
  · exact hs

/-- The loop of `execute` with `n` attempts left and the report `last` handed over returns a
book only after a landed commit or a kept book. The induction is on the attempts left; a
version conflict hands the conflicting attempt's report to the next turn. -/
theorem loop_returned {auctionId : String} {lift : Fault → ε} {b : Book} {out : α}
    {h' : House} :
    ∀ n last h, ((retry surroundings auctionId lift mutate n last).run hooks).run h =
        (.ok (b, out), h') →
      Landed mutate hooks b out h' ∨ Kept mutate hooks last b out h'
  | 0, _, _, hrun => by cases congrArg Prod.fst hrun
  | n + 1, last, h, hrun => by
    rw [retry, run_bind, surroundings_cancelled, run_pure, run_bind, surroundings_load] at hrun
    rcases hload : ((loadBook auctionId).run hooks).run h with ⟨_ | current, h₁⟩
    · rw [hload] at hrun
      cases congrArg Prod.fst hrun
    rw [hload, run_bind] at hrun
    rcases hmut : ((mutate last current).run hooks).run h₁ with ⟨_ | _ | ⟨working, out'⟩, h₂⟩
    · rw [hmut] at hrun
      cases congrArg Prod.fst hrun
    · rw [hmut] at hrun
      cases hrun
      exact .inr ⟨last, h₁, hmut, .inl rfl⟩
    · rw [hmut, run_bind, surroundings_commit] at hrun
      rcases hcom : ((commitBook (stamp current working)).run hooks).run h₂ with ⟨f | ⟨⟩, h₃⟩
      · rw [hcom] at hrun
        cases hroot : f.root with
        | versionConflict =>
          simp only [hroot] at hrun
          have hsup : Superseded mutate hooks out' :=
            ⟨last, current, working, h₁, h₂, f, hmut, by rw [hcom], hroot⟩
          by_cases hn : n = 0
          · rw [if_pos hn] at hrun
            exact (loop_returned n out' h₃ hrun).imp_right fun hk => hk.superseded hsup
          · rw [if_neg hn, run_bind, surroundings_pause] at hrun
            rcases hw : ((backoff n).run hooks).run h₃ with ⟨_ | text | text, h₄⟩
            · rw [hw] at hrun
              exact (loop_returned n out' h₄ hrun).imp_right fun hk => hk.superseded hsup
            · rw [hw] at hrun
              cases congrArg Prod.fst hrun
            · rw [hw] at hrun
              cases congrArg Prod.fst hrun
        | _ =>
          simp only [hroot] at hrun
          cases congrArg Prod.fst hrun
      · rw [hcom] at hrun
        cases hrun
        exact .inl ⟨last, current, working, h₁, h₂, hmut, hcom, rfl⟩

/-- What `execute` returns with a book is the report of the attempt whose commit landed, or the
report of a last attempt that kept the book it loaded, given the report handed over to it. -/
theorem execute_returned {auctionId : String} {lift : Fault → ε} {init : α} {h h' : House}
    {b : Book} {out : α}
    (hrun : ((execute auctionId lift init mutate).run hooks).run h = (.ok (b, out), h')) :
    Landed mutate hooks b out h' ∨ Kept mutate hooks init b out h' := by
  rw [execute, run_get_bind] at hrun
  exact loop_returned _ _ _ hrun

/-- A change that never keeps the book returns only the report of the attempt whose commit
landed. -/
theorem execute_landed {auctionId : String} {lift : Fault → ε} {init : α} {h h' : House}
    {b : Book} {out : α}
    (hnever : ∀ last b hooks h out, (((mutate last b).run hooks).run h).1 ≠ .ok (.keep out))
    (hrun : ((execute auctionId lift init mutate).run hooks).run h = (.ok (b, out), h')) :
    Landed mutate hooks b out h' := by
  rcases execute_returned hrun with hl | ⟨last, h₁, hkeep, -⟩
  · exact hl
  · exact absurd (congrArg Prod.fst hkeep) (hnever _ _ _ _ _)

end House

/-! ### The changes of the service -/

/-- A placement never keeps the book: it writes or fails. -/
theorem Placement.change_ne_keep (req : PlaceRequest) (bid : Bid) (b : Book) (hooks : Hooks)
    (h : House) (out : List Event) :
    (((Placement.change req bid b).run hooks).run h).1 ≠ .ok (.keep out) := by
  unfold Placement.change
  split
  · exact nofun
  · rw [House.run_runTxn_bind]
    rcases Txn.run (do Txn.accept bid; let _ ← Cascade.resolve; pure ()) b h.now h.drawn with
      ⟨_ | _, t⟩ <;> exact nofun

/-- A withdrawal never keeps the book: it writes or fails. -/
theorem Withdrawal.change_ne_keep (req : RetractRequest) (auctionId : String) (now : Instant)
    (window : Duration) (b : Book) (hooks : Hooks) (h : House)
    (out : List Event × Option BidRetracted) :
    (((Withdrawal.change req auctionId now window b).run hooks).run h).1 ≠ .ok (.keep out) := by
  unfold Withdrawal.change
  split
  · exact nofun
  · split
    · rename_i i bid _ _
      split
      · exact nofun
      · rw [House.run_runTxn_bind]
        rcases Txn.run (Withdrawal.apply i bid req.reason) b h.now h.drawn with
          ⟨_ | _, t⟩ <;> exact nofun
    · exact nofun

/-- A registration never keeps the book: it writes or fails. -/
theorem Proxy.register_ne_keep (req : AutoBidRequest) (autoBidId : String) (now : Instant)
    (b : Book) (hooks : Hooks) (h : House) (out : List Event) :
    (((Proxy.register req autoBidId now b).run hooks).run h).1 ≠ .ok (.keep out) := by
  unfold Proxy.register
  split
  · exact nofun
  · split
    · exact nofun
    · split
      · exact nofun
      · rw [House.run_runTxn_bind]
        rcases Txn.run Cascade.resolve
            { b with autoBids := b.autoBids ++ [req.autoBid autoBidId now], updatedAt := now }
            h.now h.drawn with ⟨_ | _, t⟩ <;> exact nofun

/-- Pausing or resuming keeps the book only when the auto-bid is already as asked, and then
reports what was handed over to it. -/
theorem Proxy.toggle_keep {autoBidId userId : String} {active : Bool} {now : Instant}
    {last out : List Event} {b : Book} {hooks : Hooks} {h : House}
    (hk : (((Proxy.toggle autoBidId userId active now last b).run hooks).run h).1 = .ok (.keep out)) :
    out = last := by
  unfold Proxy.toggle at hk
  dsimp only at hk
  split at hk
  · cases hk
  · split at hk
    · cases hk
    · split at hk
      · cases hk
        rfl
      · exfalso
        repeat' split at hk
        all_goals first
          | cases hk
          | rw [House.run_runTxn_bind] at hk
            split at hk <;> cases hk

/-- A business refusal outside the conflict category is answered with a rejected result that
carries the refusal's code and message, and with one `BidRejected` event for the bid, published
under the next id; nothing else of the house but the id counter and the published events
changes. -/
theorem Placement.reject_of_decided {bid : Bid} {book : Option Book} {f : Fault} {be : BidError}
    (hbe : f.bidError? = some be) (hcat : be.category ≠ .conflict) (hooks : Hooks) (h : House) :
    (((Placement.reject bid book f).run hooks).run h).2 =
        { h with drawn := h.drawn + 1,
                 published := h.published ++
                   [rejectionEvent (Txn.idOf (h.drawn + 1)) bid be.message bid.bidTime] } ∧
      (((Placement.reject bid book f).run hooks).run h).1.fault = some (.bid be) ∧
      ∃ r ∈ (((Placement.reject bid book f).run hooks).run h).1.result,
        r.bidId = bid.id ∧ r.status = .rejected ∧ r.errorCode = be.code.name ∧
          r.message = be.message := by
  unfold Placement.reject
  simp only [hbe, beq_iff_eq, hcat, if_false]
  exact ⟨rfl, rfl, _, rfl, rfl, rfl, rfl, rfl⟩

/-- Any other fault is passed on as it is, with no result and nothing published. -/
theorem Placement.reject_of_undecided {bid : Bid} {book : Option Book} {f : Fault}
    (hf : ∀ be, f.bidError? = some be → be.category = .conflict) (hooks : Hooks) (h : House) :
    ((Placement.reject bid book f).run hooks).run h = (⟨none, some f⟩, h) := by
  unfold Placement.reject
  split
  · rfl
  · rename_i be hbe
    simp only [hf be hbe]
    rfl

open House in
/-- Which events an operation of the service gets back from its compare-and-swap, to publish and
return. A placement, a withdrawal and a registration get a book back only after an attempt's
commit landed, and then the events of that attempt. Pausing or resuming does the same, unless
its last attempt found the auto-bid already as asked and kept the book: it then gets back the
events handed over to that attempt, which are none on the first attempt and otherwise the events
of an attempt whose commit met a version conflict and stored nothing. A placement refused by a
business rule outside the conflict category publishes one `BidRejected` event for its bid and
returns a rejected result with the refusal's code; any other fault publishes nothing. -/
theorem events_of_landed_or_handed_over {hooks : Hooks} {h h' : House} {b : Book} :
    (∀ (req : PlaceRequest) bid (lift : Fault → Fault × Option Book) events,
      ((execute req.auctionId lift [] fun _ => Placement.change req bid).run hooks).run h =
          (.ok (b, events), h') →
        Landed (fun _ => Placement.change req bid) hooks b events h') ∧
    (∀ (req : RetractRequest) auctionId now window out,
      ((execute auctionId id ([], none) fun _ =>
          Withdrawal.change req auctionId now window).run hooks).run h = (.ok (b, out), h') →
        Landed (fun _ => Withdrawal.change req auctionId now window) hooks b out h') ∧
    (∀ (req : AutoBidRequest) autoBidId now events,
      ((execute req.auctionId id [] fun _ => Proxy.register req autoBidId now).run hooks).run h =
          (.ok (b, events), h') →
        Landed (fun _ => Proxy.register req autoBidId now) hooks b events h') ∧
    (∀ auctionId autoBidId userId active now events,
      ((execute auctionId id [] (Proxy.toggle autoBidId userId active now)).run hooks).run h =
          (.ok (b, events), h') →
        Landed (Proxy.toggle autoBidId userId active now) hooks b events h' ∨
          (∃ h₁, ((Proxy.toggle autoBidId userId active now events b).run hooks).run h₁ =
              (.ok (.keep events), h')) ∧
            (events = [] ∨ Superseded (Proxy.toggle autoBidId userId active now) hooks events)) ∧
    (∀ bid book f be, f.bidError? = some be → be.category ≠ .conflict →
      (((Placement.reject bid book f).run hooks).run h).2.published =
          h.published ++ [rejectionEvent (Txn.idOf (h.drawn + 1)) bid be.message bid.bidTime] ∧
        ∃ r ∈ (((Placement.reject bid book f).run hooks).run h).1.result,
          r.bidId = bid.id ∧ r.status = .rejected ∧ r.errorCode = be.code.name) ∧
    (∀ bid book f, (∀ be, f.bidError? = some be → be.category = .conflict) →
      ((Placement.reject bid book f).run hooks).run h = (⟨none, some f⟩, h)) := by
  refine ⟨fun req bid lift events hrun => execute_landed (fun _ => Placement.change_ne_keep req bid) hrun,
    fun req auctionId now window out hrun =>
      execute_landed (fun _ => Withdrawal.change_ne_keep req auctionId now window) hrun,
    fun req autoBidId now events hrun => execute_landed (fun _ => Proxy.register_ne_keep req autoBidId now) hrun,
    fun auctionId autoBidId userId active now events hrun => ?_,
    fun bid book f be hbe hcat => ?_,
    fun bid book f hf => Placement.reject_of_undecided hf hooks h⟩
  · refine (execute_returned hrun).imp_right ?_
    rintro ⟨last, h₁, hkeep, hlast⟩
    obtain rfl := Proxy.toggle_keep (congrArg Prod.fst hkeep)
    exact ⟨⟨h₁, hkeep⟩, hlast⟩
  · obtain ⟨hhouse, -, r, hr, hid, hstatus, hcode, -⟩ := Placement.reject_of_decided hbe hcat hooks h
    exact ⟨by rw [hhouse], r, hr, hid, hstatus, hcode⟩

/-- A default scenario after `x` bid 100, `u` registered an auto-bid `id-5` up to 500 that took
the lead at 110, `u` paused it, and `x` bid 200. -/
def pausedProxyOutbid : House :=
  let start := (Scenario.house {}).toOption.getD default
  let h₁ := (((placeBid ⟨"a-1", "x", "x-name", 100, ""⟩).run Hooks.quiet).run start).2
  let h₂ := (((createAutoBid ⟨"a-1", "u", "u-name", 500⟩).run Hooks.quiet).run h₁).2
  let h₃ := (((toggleAutoBid "id-5" "u" false).run Hooks.quiet).run h₂).2
  (((placeBid ⟨"a-1", "x", "x-name", 200, ""⟩).run Hooks.quiet).run h₃).2

/-- A competing request that resumes `id-5` and commits just before the commit it runs in. -/
def rivalResume : Hooks := ⟨discard ((toggleAutoBid "id-5" "u" true).run Hooks.quiet)⟩

/-- Resuming `id-5` while the competing request resumes it first. -/
def resumedInRace : Outcome AutoBidResult × House :=
  ((toggleAutoBid "id-5" "u" true).run rivalResume).run pausedProxyOutbid

/-- Resuming an auto-bid that a competing request resumed between its load and its commit: the
first attempt's cascade bids `id-14` with the events `id-15` to `id-17`, and its commit meets the
competitor's, which stored bid `id-18` with the events `id-19` to `id-21`. The second attempt
finds the auto-bid active and keeps the book, so the call succeeds and reports three events and
publishes the events of its superseded attempt after the competitor's, for a bid the stored
book does not hold. -/
theorem resume_publishes_superseded_attempt_events :
    resumedInRace.1.fault = none ∧ resumedInRace.1.result.map (·.eventCount) = some 3 ∧
      (resumedInRace.2.published.drop pausedProxyOutbid.published.length).map (·.id) =
        ["id-19", "id-20", "id-21", "id-15", "id-16", "id-17"] ∧
      (resumedInRace.2.ledger.load "a-1").bids.map (·.id) = ["id-1", "id-6", "id-10", "id-18"] := by
  set_option maxRecDepth 20000 in
  decide +kernel

end Auction
