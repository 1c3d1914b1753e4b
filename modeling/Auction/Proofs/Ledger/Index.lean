import Mathlib
import Auction.Proofs.Invariant.Proxy
import Auction.Proofs.Ledger.Pool

/-!
# The id indexes of the ledger

Besides the books, the ledger keeps two indexes, from the id of a bid and from the id of an
auto-bid to its auction. `Ledger.findBidAuction` and `Ledger.findAutoBidAuction` read them, and
withdrawals and the changes of an auto-bid use them to find their book. A commit records in
them only the ids that its book has and the book it was computed from has not
(`Book.newBidIds`, `Book.newAutoBidIds`), and nothing ever removes an id. The indexes stay
right because no operation of the service moves a book to another auction or drops a bid or an
auto-bid from it (`Committed.grows`).

`Ledger.Landed` is one operation of the service landing on the ledger in the process: it ran
on the stored book of its auction (a commit lands only over the book stored when it was loaded,
as `House.Pool.stored_books_form_chain` shows), and its new bids and auto-bids have ids that no
stored book holds, as ids drawn afresh have. Along every run of such commits from the empty
ledger, an id is indexed under an auction exactly when the stored book of that auction holds
it (`Ledger.Inv`), so a lookup answers the auction whose book holds the id and fails with
`bidNotFound` or `autoBidNotFound` when no book does (`lookups_find_stored_books`).
-/

namespace Auction

namespace Book

/-- The ids of the bids of a book, in order. -/
def bidIds (b : Book) : List String := b.bids.map (·.id)

/-- The ids of the auto-bids of a book, in order. -/
def autoBidIds (b : Book) : List String := b.autoBids.map (·.id)

/-- An id is new to a write exactly when the written book has it among its bids and the loaded one
does not. -/
theorem mem_newBidIds {b w : Book} {id : String} :
    id ∈ newBidIds b w ↔ id ∈ w.bidIds ∧ id ∉ b.bidIds := by
  simp [newBidIds, bidIds]

/-- An id is new to a write exactly when the written book has it among its auto-bids and the loaded
one does not. -/
theorem mem_newAutoBidIds {b w : Book} {id : String} :
    id ∈ newAutoBidIds b w ↔ id ∈ w.autoBidIds ∧ id ∉ b.autoBidIds := by
  simp [newAutoBidIds, autoBidIds]

/-- `w` keeps the auction of `b`, and the ids of its bids and of its auto-bids in place. -/
structure Grows (b w : Book) : Prop where
  auctionId : w.auctionId = b.auctionId
  bidIds : b.bidIds <+: w.bidIds
  autoBidIds : b.autoBidIds <+: w.autoBidIds

/-- Every book grows into itself. -/
theorem Grows.refl (b : Book) : b.Grows b := ⟨rfl, List.prefix_refl _, List.prefix_refl _⟩

/-- Growing twice is growing. -/
theorem Grows.trans {b₁ b₂ b₃ : Book} (h₁ : b₁.Grows b₂) (h₂ : b₂.Grows b₃) : b₁.Grows b₃ :=
  ⟨h₂.auctionId.trans h₁.auctionId, h₁.bidIds.trans h₂.bidIds,
    h₁.autoBidIds.trans h₂.autoBidIds⟩

/-- Setting the version changes no id. -/
theorem Grows.version {b w : Book} (h : b.Grows w) (v : Int) : b.Grows { w with version := v } :=
  ⟨h.auctionId, h.bidIds, h.autoBidIds⟩

/-- Bids that are the old ones as placed, with some appended, keep the ids in place. -/
theorem bidIds_prefix_of_asPlaced {b w : Book} {l : List Bid}
    (h : w.bids.map Bid.asPlaced = b.bids.map Bid.asPlaced ++ l) : b.bidIds <+: w.bidIds := by
  have hid := congrArg (List.map (·.id)) h
  simp only [List.map_map, List.map_append] at hid
  exact ⟨l.map (·.id), by simpa [bidIds, Function.comp_def, Bid.asPlaced] using hid.symm⟩

/-- Changing one auto-bid in place, keeping its id, keeps the ids. -/
theorem autoBidIds_updateAt {l : List AutoBid} {i : Nat} {f : AutoBid → AutoBid}
    (hf : ∀ a, (f a).id = a.id) : (updateAt l i f).map (·.id) = l.map (·.id) :=
  map_updateAt l i f _ hf

/-- Changing an auto-bid in place, keeping its id, grows the book. -/
theorem grows_modifyAutoBid (b : Book) (i : Nat) {f : AutoBid → AutoBid}
    (hf : ∀ a, (f a).id = a.id) (now : Instant) :
    b.Grows { b.modifyAutoBid i f with updatedAt := now } := by
  refine ⟨rfl, List.prefix_refl _, ?_⟩
  show b.autoBidIds <+: (updateAt b.autoBids i f).map (·.id)
  rw [autoBidIds_updateAt hf]
  exact List.prefix_refl _

/-- A new auto-bid goes at the end. -/
theorem grows_append_autoBid (b : Book) (a : AutoBid) (now : Instant) :
    b.Grows { b with autoBids := b.autoBids ++ [a], updatedAt := now } :=
  ⟨rfl, List.prefix_refl _, by simp [autoBidIds]⟩

open Txn Cascade Withdrawal

variable {b : Book}

/-- Entering a bid grows the book. -/
theorem grows_entered (b : Book) (bid : Bid) (now : Instant) : b.Grows (entered b bid now).1 :=
  ⟨entered_auctionId b bid now, bidIds_prefix_of_asPlaced (entered_bids_asPlaced b bid now),
    by rw [autoBidIds, autoBidIds, entered_autoBids]⟩

/-- Answering with an auto-bid grows the book. -/
theorem grows_afterAnswer (b : Book) (i : Nat) (r : AutoBid) (id : String) (amount : Decimal)
    (now : Instant) : b.Grows (afterAnswer b i r id amount now) := by
  refine ⟨afterAnswer_auctionId, ?_, ?_⟩
  · show b.bidIds <+: (afterAnswer b i r id amount now).bids.map (·.id)
    rw [afterAnswer_bids]
    exact (grows_entered b _ now).bidIds
  · show b.autoBidIds <+: (afterAnswer b i r id amount now).autoBids.map (·.id)
    rw [afterAnswer_autoBids, autoBidIds_updateAt fun a => recordBid_id a amount now]
    exact List.prefix_refl _

/-- A cascade keeps the book's ids and appends its answers. -/
theorem grows_of_answers {b b' : Book} {l : List (Nat × Bid)} (h : Answers b l b') :
    b.Grows b' := by
  induction h with
  | nil => exact Grows.refl _
  | cons _ _ _ _ _ _ _ _ _ _ ih => exact (grows_afterAnswer _ _ _ _ _ _).trans ih

/-- A cascade that ended well, from a book of the invariant with fresh ids to come, keeps its
ids. -/
theorem grows_of_resolve {t t' : Txn} {n : Nat} (hw : t.book.Wf)
    (hfresh : t.book.FreshAbove t.drawn) (h : resolve.run.run t = (.ok n, t')) :
    t.book.Grows t'.book := by
  obtain ⟨l, hl, -⟩ := Cascade.resolve_eq_ok h hw.leadAgrees hfresh
  exact grows_of_answers hl

/-- Withdrawing keeps the auction. -/
theorem withdrawn_auctionId (i : Nat) (u : String) (now : Instant) :
    (withdrawn b i u now).auctionId = b.auctionId := by
  dsimp only [withdrawn]
  split <;> rfl

/-- Setting the lead keeps the auction. -/
@[simp] theorem setHighest_auctionId (b : Book) (x : Option Bid) :
    (b.setHighest x).auctionId = b.auctionId := by
  cases x <;> rfl

/-- Handing the lead back keeps the auction. -/
theorem handedBack_auctionId (b : Book) : (handedBack b).auctionId = b.auctionId := by
  unfold handedBack
  split <;> simp [modifyBid]

/-- Withdrawing pauses at most one auto-bid, in place. -/
theorem withdrawn_autoBidIds (i : Nat) (u : String) (now : Instant) :
    (withdrawn b i u now).autoBidIds = b.autoBidIds := by
  dsimp only [withdrawn, autoBidIds]
  split
  · rw [modifyAutoBid_autoBids,
      autoBidIds_updateAt (f := fun a => { a with isActive := false }) fun _ => rfl]
    rfl
  · rfl

/-- Withdrawing a bid, and handing the lead back when it led, keeps every id. -/
theorem grows_withdrawn (c : Prop) [Decidable c] (i : Nat) (u : String) (now : Instant) :
    b.Grows (if c then handedBack (withdrawn b i u now) else withdrawn b i u now) := by
  have hbids := withdrawal_bids_asPlaced (b := b) c i u now
  rw [← List.append_nil (b.bids.map Bid.asPlaced)] at hbids
  refine ⟨?_, bidIds_prefix_of_asPlaced hbids, ?_⟩
  · split
    · rw [handedBack_auctionId, withdrawn_auctionId]
    · exact withdrawn_auctionId i u now
  · split
    · show b.autoBidIds <+: (handedBack (withdrawn b i u now)).autoBids.map (·.id)
      rw [handedBack_autoBids]
      show b.autoBidIds <+: (withdrawn b i u now).autoBidIds
      rw [withdrawn_autoBidIds]
    · rw [withdrawn_autoBidIds]

end Book

open Txn Withdrawal Book

/-- A committed operation keeps the auction of its book and the ids of its bids and auto-bids,
adding ids only at the end. -/
theorem Committed.grows {b b' : Book} (hw : b.Wf) (h : Committed b b') : b.Grows b' := by
  cases h with
  | place req k now hk hnew hfresh hwr =>
    obtain ⟨-, hok, t, n, t', ht, hd, hres, rfl⟩ := Placement.change_writes hwr
    have hw₁ : t.book.Wf := ht ▸ hw.entered (idOf_ne_empty k) hnew hok
    have hfresh₁ : t.book.FreshAbove t.drawn := ht ▸ hd ▸ hfresh.entered rfl (by omega) (by omega)
    have h₁ : b.Grows t.book := by
      rw [ht]
      exact grows_entered _ _ _
    exact (h₁.trans (grows_of_resolve hw₁ hfresh₁ hres)).version _
  | retract req auctionId now window hfresh hwr =>
    obtain ⟨-, i, bid, hi, hf, hr, t, n, t', ht, hd, hres, rfl⟩ := Withdrawal.change_writes hwr
    have hw₁ : t.book.Wf := ht ▸ hw.withdrawn_book hi hf hr
    have hmap : t.book.bids.map Bid.asPlaced = b.bids.map Bid.asPlaced :=
      ht ▸ withdrawal_bids_asPlaced _ _ _ _
    have h₁ : b.Grows t.book := by
      rw [ht]
      exact grows_withdrawn _ _ _ _
    exact (h₁.trans (grows_of_resolve hw₁ ((hfresh.of_asPlaced hmap).mono hd) hres)).version _
  | finish closing hwr =>
    obtain ⟨-, rfl⟩ := closing_writes hwr
    have h₁ : b.Grows (b.close closing) := ⟨rfl, List.prefix_refl _, List.prefix_refl _⟩
    exact h₁.version _
  | register req k now hpos hnew hfresh hwr =>
    obtain ⟨-, -, -, n, t', hres, rfl⟩ := Proxy.register_writes hwr
    have h₁ := grows_append_autoBid b (req.autoBid (idOf k) now) now
    exact (h₁.trans (grows_of_resolve (by exact hw.of_same rfl rfl rfl rfl) hfresh hres)).version _
  | toggle autoBidId userId active now last hfresh hwr =>
    obtain ⟨i, ab, -, -, -, hon, hoff⟩ := Proxy.toggle_writes hwr
    cases active with
    | true =>
      obtain ⟨-, -, n, t', hres, rfl⟩ := hon rfl
      have h₁ := grows_modifyAutoBid b i (f := fun a => { a with isActive := true }) (fun _ => rfl) now
      exact (h₁.trans (grows_of_resolve (by exact hw.of_same rfl rfl rfl rfl) hfresh hres)).version _
    | false =>
      obtain rfl := hoff rfl
      exact (grows_modifyAutoBid b i (f := fun a => { a with isActive := false }) (fun _ => rfl)
        now).version _
  | cancel autoBidId userId now hwr =>
    obtain ⟨i, ab, -, -, rfl⟩ := Proxy.cancel_writes hwr
    exact (grows_modifyAutoBid b i
      (f := fun a => { a with isActive := false, cancelledAt := some now }) (fun _ => rfl)
      now).version _

end Auction

namespace Auction

/-! ### An index along commits -/

/-- Writing one value under each key of a list. -/
theorem Table.find?_foldl_insert {α : Type} (ks : List String) (v : α) (t : Table α)
    (k : String) :
    (ks.foldl (fun t x => t.insert x v) t).find? k = if k ∈ ks then some v else t.find? k := by
  induction ks generalizing t with
  | nil => simp
  | cons x ks ih =>
    rw [List.foldl_cons, ih, Table.find?_insert]
    by_cases hk : k ∈ ks
    · simp [hk]
    · by_cases hx : k = x <;> simp [hk, hx]

namespace Ledger

/-- A commit that lands records its new ids under the auction of its book. -/
theorem commit_indexes {l l' : Ledger} {c : BookChange} (h : l.commit c = .ok l') :
    l'.bidIndex = c.newBidIds.foldl (fun t x => t.insert x c.book.auctionId) l.bidIndex ∧
      l'.autoBidIndex =
        c.newAutoBidIds.foldl (fun t x => t.insert x c.book.auctionId) l.autoBidIndex := by
  unfold commit at h
  dsimp only at h
  split at h
  · cases h
  · cases h
    exact ⟨rfl, rfl⟩

/-- An auction whose book is stored loads that book. -/
theorem load_of_stored? {l : Ledger} {a : String} {b : Book} (h : l.stored? a = some b) :
    l.load a = b := by
  simp [load, h]

section Index

variable {l : Ledger} {a : String} {w : Book} {ids : Book → List String} {idx : Table String}
  {new : List String}

/-- One index across a commit that stores `w` for `a`. Before, `idx` holds an id under an
auction exactly when the stored book of that auction has it, among its ids `ids`; the commit
records under `a` the ids `new` that `w` has and the loaded book has not. Then the index after
holds an id under an auction exactly when the book stored after the commit has it, provided
`w` keeps the loaded book's ids and no stored book has a recorded id. -/
theorem index_after_commit
    (hidx : ∀ id a', idx.find? id = some a' ↔ ∃ b, l.stored? a' = some b ∧ id ∈ ids b)
    (hempty : ids (Book.empty a) = []) (hkeep : ∀ id ∈ ids (l.load a), id ∈ ids w)
    (hnew : ∀ id, id ∈ new ↔ id ∈ ids w ∧ id ∉ ids (l.load a))
    (hfresh : ∀ id ∈ new, ∀ a' b, l.stored? a' = some b → id ∉ ids b) (id a' : String) :
    (new.foldl (fun t x => t.insert x a) idx).find? id = some a' ↔
      ∃ b, (if a' = a then some w else l.stored? a') = some b ∧ id ∈ ids b := by
  rw [Table.find?_foldl_insert]
  by_cases hn : id ∈ new
  · rw [if_pos hn]
    constructor
    · rintro ⟨⟩
      exact ⟨w, if_pos rfl, ((hnew id).mp hn).1⟩
    · rintro ⟨b, hb, hid⟩
      split at hb
      · rename_i ha
        rw [ha]
      · exact absurd hid (hfresh id hn a' b hb)
  · rw [if_neg hn, hidx]
    constructor
    · rintro ⟨b, hb, hid⟩
      by_cases ha : a' = a
      · subst ha
        exact ⟨w, if_pos rfl, hkeep id (by rwa [load_of_stored? hb])⟩
      · exact ⟨b, by rwa [if_neg ha], hid⟩
    · rintro ⟨b, hb, hid⟩
      split at hb
      · rename_i ha
        subst ha
        cases hb
        have hold : id ∈ ids (l.load a') := by
          by_contra h
          exact hn ((hnew id).mpr ⟨hid, h⟩)
        cases hs : l.stored? a' with
        | none =>
          rw [load, hs, Option.getD_none, hempty] at hold
          cases hold
        | some b₀ => exact ⟨b₀, rfl, by rwa [load_of_stored? hs] at hold⟩
      · exact ⟨b, hb, hid⟩

end Index

/-- What every ledger that commits of the service reach satisfies: each stored book is of its
auction and satisfies the book invariant, and each index holds an id under an auction exactly
when the stored book of that auction has it. -/
structure Inv (l : Ledger) : Prop where
  keyed : ∀ a b, l.stored? a = some b → b.auctionId = a
  wf : ∀ a b, l.stored? a = some b → b.Wf
  bidIndex : ∀ id a, l.bidIndex.find? id = some a ↔ ∃ b, l.stored? a = some b ∧ id ∈ b.bidIds
  autoBidIndex : ∀ id a, l.autoBidIndex.find? id = some a ↔
    ∃ b, l.stored? a = some b ∧ id ∈ b.autoBidIds

/-- One operation of the service landing on the ledger in the process: run on the stored book
of its auction, with new bids and auto-bids under ids that no stored book has, and committed as
the compare-and-swap loop commits it. -/
inductive Landed : Ledger → Ledger → Prop
  | commit {l l' : Ledger} {a : String} {w : Book} :
      Committed (l.load a) w →
      (∀ id ∈ Book.newBidIds (l.load a) w, ∀ a' b, l.stored? a' = some b → id ∉ b.bidIds) →
      (∀ id ∈ Book.newAutoBidIds (l.load a) w, ∀ a' b, l.stored? a' = some b →
        id ∉ b.autoBidIds) →
      l.commit ⟨w, (l.load a).version, Book.newBidIds (l.load a) w,
        Book.newAutoBidIds (l.load a) w⟩ = .ok l' →
      Landed l l'

/-- The empty ledger holds the invariant. -/
theorem Inv.empty : Ledger.empty.Inv where
  keyed _ _ h := by cases h
  wf _ _ h := by cases h
  bidIndex _ _ := by simp [Ledger.empty, stored?]
  autoBidIndex _ _ := by simp [Ledger.empty, stored?]

/-- A ledger of the invariant loads, for every auction, a book of that auction holding the book
invariant. -/
theorem Inv.load_wf {l : Ledger} (hinv : l.Inv) (a : String) :
    (l.load a).auctionId = a ∧ (l.load a).Wf := by
  cases hs : l.stored? a with
  | none =>
    rw [load, hs, Option.getD_none]
    exact ⟨rfl, Book.empty_wf a⟩
  | some b =>
    rw [load_of_stored? hs]
    exact ⟨hinv.keyed a b hs, hinv.wf a b hs⟩

/-- A landed commit keeps the invariant: the book it stores grew from the stored one, so
every id the index held stays right, and the ids it records are in no other book. -/
theorem Inv.landed {l l' : Ledger} (hinv : l.Inv) (h : Landed l l') : l'.Inv := by
  cases h with
  | @commit a w hc hfb hfa hl =>
  obtain ⟨hkey, hwf⟩ := hinv.load_wf a
  have hg := Committed.grows hwf hc
  have hwa : w.auctionId = a := hg.auctionId.trans hkey
  obtain ⟨-, hst⟩ := commit_eq_ok hl
  obtain ⟨hbi, hai⟩ := commit_indexes hl
  simp only [hwa] at hst hbi hai
  refine ⟨?_, ?_, ?_, ?_⟩
  · intro k b hk
    rw [hst] at hk
    split at hk
    · cases hk
      rw [hwa, ‹k = a›]
    · exact hinv.keyed k b hk
  · intro k b hk
    rw [hst] at hk
    split at hk
    · cases hk
      exact hwf.committed hc
    · exact hinv.wf k b hk
  · intro id a'
    rw [hbi, hst]
    exact index_after_commit hinv.bidIndex rfl (fun _ h => hg.bidIds.subset h)
      (fun _ => Book.mem_newBidIds) hfb id a'
  · intro id a'
    rw [hai, hst]
    exact index_after_commit hinv.autoBidIndex rfl (fun _ h => hg.autoBidIds.subset h)
      (fun _ => Book.mem_newAutoBidIds) hfa id a'

/-- Every ledger that a run of landed commits reaches from the empty ledger keeps the
invariant. -/
theorem Inv.of_run {l : Ledger} (h : Relation.ReflTransGen Landed Ledger.empty l) : l.Inv := by
  induction h with
  | refl => exact Inv.empty
  | tail _ hstep ih => exact ih.landed hstep

/-! ### What the lookups answer -/

/-- The ledger finds the auction of a bid exactly when its index records one. -/
theorem findBidAuction_eq_ok {l : Ledger} {id a : String} :
    l.findBidAuction id = .ok a ↔ l.bidIndex.find? id = some a := by
  unfold findBidAuction
  split <;> simp_all

/-- The ledger refuses a bid as not found exactly when its index records no auction for it. -/
theorem findBidAuction_eq_error {l : Ledger} {id : String} :
    l.findBidAuction id = .error (.bid (BidError.standard .bidNotFound)) ↔
      l.bidIndex.find? id = none := by
  unfold findBidAuction
  split <;> simp_all

/-- The ledger finds the auction of an auto-bid exactly when its index records one. -/
theorem findAutoBidAuction_eq_ok {l : Ledger} {id a : String} :
    l.findAutoBidAuction id = .ok a ↔ l.autoBidIndex.find? id = some a := by
  unfold findAutoBidAuction
  split <;> simp_all

/-- The ledger refuses an auto-bid as not found exactly when its index records no auction for it. -/
theorem findAutoBidAuction_eq_error {l : Ledger} {id : String} :
    l.findAutoBidAuction id = .error (.bid (BidError.standard .autoBidNotFound)) ↔
      l.autoBidIndex.find? id = none := by
  unfold findAutoBidAuction
  split <;> simp_all

/-- An index that holds an id exactly under the auctions whose stored book has it holds nothing
for an id that no stored book has. -/
theorem find?_eq_none_of_index {l : Ledger} {idx : Table String} {ids : Book → List String}
    {id : String} (h : ∀ a, idx.find? id = some a ↔ ∃ b, l.stored? a = some b ∧ id ∈ ids b) :
    idx.find? id = none ↔ ∀ a b, l.stored? a = some b → id ∉ ids b := by
  constructor
  · intro hn a b hb hid
    have hsome := (h a).mpr ⟨b, hb, hid⟩
    rw [hn] at hsome
    cases hsome
  · intro hall
    cases hf : idx.find? id with
    | none => rfl
    | some a =>
      obtain ⟨b, hb, hid⟩ := (h a).mp hf
      exact absurd hid (hall a b hb)

end Ledger

open Ledger

/-- Run the operations of the service one commit after another on the ledger in the process,
from the empty ledger, with new bids and auto-bids under ids that no stored book has. In every
ledger reached, looking up the auction of a bid id answers an auction exactly when the stored
book of that auction has a bid with that id, and fails with `bidNotFound` exactly when no stored
book has one; and the same for auto-bids, failing with `autoBidNotFound`. -/
theorem lookups_find_stored_books {l : Ledger} (hl : Relation.ReflTransGen Landed Ledger.empty l)
    (id : String) :
    (∀ a, l.findBidAuction id = .ok a ↔ ∃ b, l.stored? a = some b ∧ id ∈ b.bidIds) ∧
    (l.findBidAuction id = .error (.bid (BidError.standard .bidNotFound)) ↔
      ∀ a b, l.stored? a = some b → id ∉ b.bidIds) ∧
    (∀ a, l.findAutoBidAuction id = .ok a ↔ ∃ b, l.stored? a = some b ∧ id ∈ b.autoBidIds) ∧
    (l.findAutoBidAuction id = .error (.bid (BidError.standard .autoBidNotFound)) ↔
      ∀ a b, l.stored? a = some b → id ∉ b.autoBidIds) := by
  have hinv := Inv.of_run hl
  refine ⟨fun a => findBidAuction_eq_ok.trans (hinv.bidIndex id a), ?_,
    fun a => findAutoBidAuction_eq_ok.trans (hinv.autoBidIndex id a), ?_⟩
  · rw [findBidAuction_eq_error]
    exact find?_eq_none_of_index (hinv.bidIndex id)
  · rw [findAutoBidAuction_eq_error]
    exact find?_eq_none_of_index (hinv.autoBidIndex id)

end Auction
