import Auction.Proofs.Wire.Book
import Auction.Proofs.Ledger.Index
import Auction.Proofs.Server

/-!
# The ledger on a Redis server

The shared ledger keeps each book as a hash on a Redis server, with the version as text under
`version` and the JSON text of the book under `data`, at the key `bidbook:<auction>`; the two
indexes are the hashes `bidbook:index:bids` and `bidbook:index:autobids`. The server is a
parameter, and all that is used of it is that `HGET` and `HSET` behave as documented
(`RedisServer.HashLaws`): a written field reads back, every other field and key reads as before,
and a key holding a hash or nothing takes a write.

For every such server started empty, and every run of loads, commits and lookups on auctions
whose keys are not the keys of the indexes (`SharedLedger.Ordinary`) and with books their JSON
keeps (`Book.Storable`), the shared ledger answers what the ledger in the process answers, each
book as its JSON reads back (`shared_ledger_answers_as_in_process`).

The proof is a simulation. `SharedLedger.Mirrors` says what the server holds when it mirrors a
ledger: the version text and JSON text of every ordinary stored book, and both indexes field by
field. Each call keeps it and answers alike (`SharedLedger.Mirrors.call`): a load reads the text
back through `Book.decode_toJson`, a commit compares version texts, which are equal only for
equal versions (`intToString_inj`), and its writes are one frame lemma
(`SharedLedger.commit_of_version`) built from the law of one write.

The condition on auction ids is needed: all keys share one space, so on every lawful server the
book of the auction `index:autobids` is written into the auto-bid index, and the lookup of the
auto-bid id `version` then answers that book's version
(`SharedLedger.index_book_answers_autoBid_lookup`).
-/

namespace Auction

/-- Relabelling the error of a success leaves it. -/
@[simp] theorem mapError_ok {ε ε' α : Type} (f : ε → ε') (x : α) :
    (Except.ok x : Except ε α).mapError f = .ok x := rfl

/-- A success hands its value on. -/
@[simp] theorem ok_bind {ε α β : Type} (x : α) (f : α → Except ε β) :
    (Except.ok x >>= f) = f x := rfl

namespace SharedLedger

/-- An auction whose book key is not the key of an index. -/
def Ordinary (a : String) : Prop := a ≠ "index:bids" ∧ a ≠ "index:autobids"

instance (a : String) : Decidable (Ordinary a) := inferInstanceAs (Decidable (_ ∧ _))

/-- Book keys of different auctions differ. -/
theorem bookKey_inj {a b : String} (h : bookKey a = bookKey b) : a = b := by
  simpa [bookKey] using h

/-- The book of an ordinary auction is not the bid index. -/
theorem bookKey_ne_bidIndexKey {a : String} (ha : Ordinary a) : bookKey a ≠ bidIndexKey :=
  fun h => ha.1 (bookKey_inj (b := "index:bids") h)

/-- The book of an ordinary auction is not the auto-bid index. -/
theorem bookKey_ne_autoBidIndexKey {a : String} (ha : Ordinary a) : bookKey a ≠ autoBidIndexKey :=
  fun h => ha.2 (bookKey_inj (b := "index:autobids") h)

/-- The two indexes are two keys. -/
theorem bidIndexKey_ne_autoBidIndexKey : bidIndexKey ≠ autoBidIndexKey := by decide

/-- Two auctions share a book key exactly when they are one auction. -/
@[simp] theorem bookKey_eq_iff {a b : String} : bookKey a = bookKey b ↔ a = b :=
  ⟨bookKey_inj, congrArg bookKey⟩

variable {σ : Type} {srv : RedisServer σ}

/-- Writing one value under each of a list of fields of a key that holds a hash or nothing: the
fields read the value, every other field and key as before. -/
theorem foldlM_hset (hlaws : srv.HashLaws) {k : String} (v : String) :
    ∀ (ids : List String) {s : σ} {f₀ : String} {x : Option String}, srv.hget s k f₀ = .ok x →
    ∃ s', ids.foldlM (fun s b => (srv.hset s k b v).mapError Fault.other) s = .ok s' ∧
      ∀ k' f', srv.hget s' k' f' = if k' = k ∧ f' ∈ ids then .ok (some v) else srv.hget s k' f'
  | [], s, _, _, _ => ⟨s, rfl, fun k' f' => by simp⟩
  | b :: ids, s, _, _, hk => by
    obtain ⟨s₁, h₁⟩ := hlaws.hset_ok hk b v
    have hget₁ := hlaws.hget_hset h₁
    obtain ⟨s', h', hget'⟩ := foldlM_hset hlaws v ids
      (show srv.hget s₁ k b = .ok (some v) by simp [hget₁])
    refine ⟨s', by rw [List.foldlM_cons, h₁]; exact h', fun k' f' => ?_⟩
    rw [hget', hget₁]
    by_cases hk' : k' = k
    · by_cases hb : f' = b <;> simp [hk', hb]
    · simp [hk']

/-- A commit whose stored version text is the expected one writes the version and the text of
the book, then the new ids into the indexes; a later write wins where keys meet. -/
theorem commit_of_version (hlaws : srv.HashLaws) {s : σ} {c : BookChange} {cur : Option String}
    (hfail : c.book.toJson.failure? = none)
    (hcur : srv.hget s (bookKey c.book.auctionId) "version" = .ok cur)
    (hv : cur.getD "0" = toString c.expected)
    (hbid : ∃ f x, srv.hget s bidIndexKey f = .ok x)
    (hauto : ∃ f x, srv.hget s autoBidIndexKey f = .ok x) :
    ∃ s', commit srv s c = .ok s' ∧ ∀ k f, srv.hget s' k f =
      if k = autoBidIndexKey ∧ f ∈ c.newAutoBidIds then .ok (some c.book.auctionId)
      else if k = bidIndexKey ∧ f ∈ c.newBidIds then .ok (some c.book.auctionId)
      else if k = bookKey c.book.auctionId ∧ f = "data" then .ok (some c.book.toJson.render)
      else if k = bookKey c.book.auctionId ∧ f = "version" then
        .ok (some (toString c.book.version))
      else srv.hget s k f := by
  obtain ⟨fb, xb, hxb⟩ := hbid
  obtain ⟨fa, xa, hxa⟩ := hauto
  obtain ⟨s₁, h₁⟩ := hlaws.hset_ok hcur "version" (toString c.book.version)
  have hget₁ := hlaws.hget_hset h₁
  have hversion₁ : srv.hget s₁ (bookKey c.book.auctionId) "version" =
      .ok (some (toString c.book.version)) := by
    rw [hget₁]
    simp
  obtain ⟨s₂, h₂⟩ := hlaws.hset_ok hversion₁ "data" c.book.toJson.render
  have hget₂ := hlaws.hget_hset h₂
  obtain ⟨xb₂, hb₂⟩ : ∃ x, srv.hget s₂ bidIndexKey fb = .ok x := by
    rw [hget₂, hget₁]
    split_ifs <;> simp [hxb]
  obtain ⟨s₃, h₃, hget₃⟩ := foldlM_hset hlaws c.book.auctionId c.newBidIds hb₂
  obtain ⟨xa₃, ha₃⟩ : ∃ x, srv.hget s₃ autoBidIndexKey fa = .ok x := by
    rw [hget₃, hget₂, hget₁]
    split_ifs <;> simp [hxa]
  obtain ⟨s₄, h₄, hget₄⟩ := foldlM_hset hlaws c.book.auctionId c.newAutoBidIds ha₃
  refine ⟨s₄, ?_, fun k f => ?_⟩
  · unfold commit
    simp only [hfail, hcur, mapError_ok, ok_bind, hv, bne_self_eq_false, Bool.false_eq_true,
      if_false, h₁, h₂, h₃, h₄]
  · rw [hget₄, hget₃, hget₂, hget₁]

/-- A commit that finds another version text stored is refused as a conflict. -/
theorem commit_of_conflict {s : σ} {c : BookChange} {cur : Option String}
    (hfail : c.book.toJson.failure? = none)
    (hcur : srv.hget s (bookKey c.book.auctionId) "version" = .ok cur)
    (hv : cur.getD "0" ≠ toString c.expected) :
    commit srv s c = .error .versionConflict := by
  unfold commit
  simp only [hfail, hcur, mapError_ok, ok_bind, bne_iff_ne, ne_eq, hv, not_false_eq_true, if_true]
  rfl

/-! ### The server holding what a ledger holds -/

/-- The server holds what an in-process ledger holds: the version text and the JSON text of the
stored book of every ordinary auction, and both indexes field by field; and every stored book is
one its JSON form keeps. -/
structure Mirrors (srv : RedisServer σ) (l : Ledger) (s : σ) : Prop where
  /-- The version text of every ordinary stored book. -/
  version : ∀ a, Ordinary a →
    srv.hget s (bookKey a) "version" = .ok ((l.stored? a).map fun b => toString b.version)
  /-- The JSON text of every ordinary stored book. -/
  data : ∀ a, Ordinary a →
    srv.hget s (bookKey a) "data" = .ok ((l.stored? a).map (·.toJson.render))
  /-- Every stored book is one its JSON keeps. -/
  storable : ∀ a b, l.stored? a = some b → b.Storable
  /-- The bid index, field by field. -/
  bids : ∀ id, srv.hget s bidIndexKey id = .ok (l.bidIndex.find? id)
  /-- The auto-bid index, field by field. -/
  autoBids : ∀ id, srv.hget s autoBidIndexKey id = .ok (l.autoBidIndex.find? id)

/-- A server where every field reads as nothing mirrors the empty ledger. -/
theorem Mirrors.empty {s : σ} (hempty : ∀ k f, srv.hget s k f = .ok none) :
    Mirrors srv Ledger.empty s where
  version a _ := hempty _ _
  data a _ := hempty _ _
  storable _ _ h := by cases h
  bids _ := hempty _ _
  autoBids _ := hempty _ _

/-- The version text stored for an auction falls back to the text of the version a change
must have been computed from. -/
theorem getD_versionText (l : Ledger) (a : String) :
    ((l.stored? a).map fun b => toString b.version).getD "0" = toString (l.storedVersion a) := by
  unfold Ledger.storedVersion
  cases l.stored? a <;> rfl

variable {l : Ledger} {s : σ}

/-- The server reads back the stored book of an ordinary auction. -/
theorem Mirrors.stored? (h : Mirrors srv l s) {a : String} (ha : Ordinary a) :
    stored? srv s a = .ok ((l.stored? a).map Book.readBack) := by
  unfold SharedLedger.stored?
  simp only [h.version a ha, h.data a ha, mapError_ok, ok_bind]
  cases hs : l.stored? a with
  | none => rfl
  | some b =>
    have hb := h.storable a b hs
    simp only [Option.map_some, Json.read_render b.plain_toJson, mapError_ok, Except.bind,
      Book.decode_toJson b hb, ok_bind, IntText.parse_toString _ hb.version]
    rfl

/-- A load on the server answers the ledger's book, as its JSON reads back. -/
theorem Mirrors.load (h : Mirrors srv l s) {a : String} (ha : Ordinary a) :
    load srv s a = .ok (l.load a).readBack := by
  unfold SharedLedger.load Ledger.load
  simp only [h.stored? ha, ok_bind]
  cases l.stored? a <;> rfl

/-- A bid lookup on the server answers the ledger's. -/
theorem Mirrors.findBidAuction (h : Mirrors srv l s) (id : String) :
    findBidAuction srv s id = l.findBidAuction id := by
  unfold SharedLedger.findBidAuction Ledger.findBidAuction
  rw [h.bids id]
  cases l.bidIndex.find? id <;> rfl

/-- An auto-bid lookup on the server answers the ledger's. -/
theorem Mirrors.findAutoBidAuction (h : Mirrors srv l s) (id : String) :
    findAutoBidAuction srv s id = l.findAutoBidAuction id := by
  unfold SharedLedger.findAutoBidAuction Ledger.findAutoBidAuction
  rw [h.autoBids id]
  cases l.autoBidIndex.find? id <;> rfl

/-- A change refused by the ledger is refused by the server with the same fault. -/
theorem Mirrors.commit_error (h : Mirrors srv l s) {c : BookChange}
    (ha : Ordinary c.book.auctionId) (hc : c.book.Storable) {f : Fault}
    (hl : l.commit c = .error f) : commit srv s c = .error f := by
  obtain ⟨rfl, hv⟩ := Ledger.commit_eq_error hl
  refine commit_of_conflict (Book.failure?_toJson _ hc) (h.version _ ha) ?_
  rw [getD_versionText]
  exact fun he => hv (intToString_inj he)

/-- A change the ledger writes, the server writes too, and it goes on holding what the ledger
holds. -/
theorem Mirrors.commit_ok (hlaws : srv.HashLaws) (h : Mirrors srv l s) {c : BookChange}
    (ha : Ordinary c.book.auctionId) (hc : c.book.Storable) {l' : Ledger}
    (hl : l.commit c = .ok l') : ∃ s', commit srv s c = .ok s' ∧ Mirrors srv l' s' := by
  obtain ⟨hv, hstored⟩ := Ledger.commit_eq_ok hl
  have hl' : l' = ⟨l.books.insert c.book.auctionId c.book,
      c.newBidIds.foldl (fun t b => t.insert b c.book.auctionId) l.bidIndex,
      c.newAutoBidIds.foldl (fun t a => t.insert a c.book.auctionId) l.autoBidIndex⟩ := by
    simp [Ledger.commit, hv] at hl
    exact hl.symm
  obtain ⟨s', hcommit, hget⟩ := commit_of_version hlaws (Book.failure?_toJson _ hc)
    (h.version _ ha) (by rw [getD_versionText, hv]) ⟨"", _, h.bids ""⟩ ⟨"", _, h.autoBids ""⟩
  have hbook : ∀ a, Ordinary a → ∀ f, srv.hget s' (bookKey a) f =
      if a = c.book.auctionId ∧ f = "data" then .ok (some c.book.toJson.render)
      else if a = c.book.auctionId ∧ f = "version" then .ok (some (toString c.book.version))
      else srv.hget s (bookKey a) f := fun a ha' f => by
    rw [hget, if_neg (by simp [bookKey_ne_autoBidIndexKey ha']),
      if_neg (by simp [bookKey_ne_bidIndexKey ha'])]
    simp only [bookKey_eq_iff]
  refine ⟨s', hcommit,
    ⟨fun a ha' => ?_, fun a ha' => ?_, fun a b hb => ?_, fun id => ?_, fun id => ?_⟩⟩
  · rw [hbook a ha', hstored, h.version a ha']
    by_cases hac : a = c.book.auctionId <;> simp [hac]
  · rw [hbook a ha', hstored, h.data a ha']
    by_cases hac : a = c.book.auctionId <;> simp [hac]
  · rw [hstored] at hb
    split_ifs at hb
    · cases hb
      exact hc
    · exact h.storable a b hb
  · subst hl'
    have hk : bidIndexKey ≠ bookKey c.book.auctionId := (bookKey_ne_bidIndexKey ha).symm
    by_cases hid : id ∈ c.newBidIds <;>
      simp [hget, hk, bidIndexKey_ne_autoBidIndexKey, hid, h.bids id, Table.find?_foldl_insert]
  · subst hl'
    have hk : autoBidIndexKey ≠ bookKey c.book.auctionId := (bookKey_ne_autoBidIndexKey ha).symm
    by_cases hid : id ∈ c.newAutoBidIds <;>
      simp [hget, hk, bidIndexKey_ne_autoBidIndexKey.symm, hid, h.autoBids id,
        Table.find?_foldl_insert]

end SharedLedger

/-! ### Runs of calls -/

/-- A call on a ledger. -/
inductive LedgerCall where
  | load (auctionId : String)
  | commit (change : BookChange)
  | findBid (bidId : String)
  | findAutoBid (autoBidId : String)

/-- What a call answers when it succeeds. -/
inductive LedgerReply where
  | book (b : Book)
  | committed
  | auction (auctionId : String)

/-- A reply as it reads back from the server: a book as its JSON reads back. -/
def LedgerReply.readBack : LedgerReply → LedgerReply
  | .book b => .book b.readBack
  | r => r

/-- A call the server answers as the ledger in the process does: loads and commits on ordinary
auctions, with books their JSON keeps. -/
def LedgerCall.Valid : LedgerCall → Prop
  | .load a => SharedLedger.Ordinary a
  | .commit c => SharedLedger.Ordinary c.book.auctionId ∧ c.book.Storable
  | .findBid _ | .findAutoBid _ => True

namespace Ledger

/-- The answer of a call and the ledger after it. -/
def call (l : Ledger) : LedgerCall → Except Fault LedgerReply × Ledger
  | .load a => (.ok (.book (l.load a)), l)
  | .commit c =>
    match l.commit c with
    | .ok l' => (.ok .committed, l')
    | .error f => (.error f, l)
  | .findBid id => ((l.findBidAuction id).map .auction, l)
  | .findAutoBid id => ((l.findAutoBidAuction id).map .auction, l)

/-- The answers of a run of calls, one after the other. -/
def answers (l : Ledger) : List LedgerCall → List (Except Fault LedgerReply)
  | [] => []
  | c :: cs => (l.call c).1 :: (l.call c).2.answers cs

end Ledger

namespace SharedLedger

section Calls

variable {σ : Type} (srv : RedisServer σ)

/-- The answer of a call and the server after it. -/
def call (s : σ) : LedgerCall → Except Fault LedgerReply × σ
  | .load a => ((load srv s a).map .book, s)
  | .commit c =>
    match commit srv s c with
    | .ok s' => (.ok .committed, s')
    | .error f => (.error f, s)
  | .findBid id => ((findBidAuction srv s id).map .auction, s)
  | .findAutoBid id => ((findAutoBidAuction srv s id).map .auction, s)

/-- The answers of a run of calls, one after the other. -/
def answers (s : σ) : List LedgerCall → List (Except Fault LedgerReply)
  | [] => []
  | c :: cs => (call srv s c).1 :: answers (call srv s c).2 cs

end Calls

variable {σ : Type} {srv : RedisServer σ} {l : Ledger} {s : σ}

/-- One call: the server answers as the ledger, read back, and goes on mirroring it. -/
theorem Mirrors.call (hlaws : srv.HashLaws) (h : Mirrors srv l s) {c : LedgerCall}
    (hc : c.Valid) :
    (SharedLedger.call srv s c).1 = (l.call c).1.map LedgerReply.readBack ∧
      Mirrors srv (l.call c).2 (SharedLedger.call srv s c).2 := by
  cases c with
  | load a =>
    refine ⟨?_, h⟩
    simp [SharedLedger.call, Ledger.call, h.load hc, Except.map, LedgerReply.readBack]
  | commit c =>
    obtain ⟨ha, hs⟩ := hc
    rcases hl : l.commit c with f | l'
    · simp only [SharedLedger.call, Ledger.call, hl, h.commit_error ha hs hl]
      exact ⟨rfl, h⟩
    · obtain ⟨s', hs', h'⟩ := h.commit_ok hlaws ha hs hl
      simp only [SharedLedger.call, Ledger.call, hl, hs']
      exact ⟨rfl, h'⟩
  | findBid id =>
    refine ⟨?_, h⟩
    simp only [SharedLedger.call, Ledger.call, h.findBidAuction id]
    cases l.findBidAuction id <;> rfl
  | findAutoBid id =>
    refine ⟨?_, h⟩
    simp only [SharedLedger.call, Ledger.call, h.findAutoBidAuction id]
    cases l.findAutoBidAuction id <;> rfl

/-- A run: from a server mirroring a ledger, every answer is the ledger's, read back. -/
theorem Mirrors.answers (hlaws : srv.HashLaws) (h : Mirrors srv l s) {cs : List LedgerCall}
    (hcs : ∀ c ∈ cs, c.Valid) :
    answers srv s cs = (l.answers cs).map (Except.map LedgerReply.readBack) := by
  induction cs generalizing l s with
  | nil => rfl
  | cons c cs ih =>
    obtain ⟨hanswer, h'⟩ := h.call hlaws (hcs c List.mem_cons_self)
    simp only [SharedLedger.answers, Ledger.answers, List.map_cons, hanswer,
      ih h' fun c' hc' => hcs c' (List.mem_cons_of_mem c hc')]

end SharedLedger

/-- For every Redis server whose `HGET` and `HSET` behave as documented, started empty, the
shared ledger answers every run of loads, commits and lookups on ordinary auctions with books
their JSON keeps as the ledger in the process does, each book as its JSON reads back. -/
theorem shared_ledger_answers_as_in_process {σ : Type} (srv : RedisServer σ)
    (hlaws : srv.HashLaws) (s₀ : σ) (hempty : ∀ k f, srv.hget s₀ k f = .ok none)
    (calls : List LedgerCall) (h : ∀ c ∈ calls, c.Valid) :
    SharedLedger.answers srv s₀ calls =
      (Ledger.empty.answers calls).map (Except.map LedgerReply.readBack) :=
  (SharedLedger.Mirrors.empty hempty).answers hlaws h

/-- A book never written is one its JSON keeps, at every version of 64 bits. -/
theorem Book.storable_empty (a : String) {v : Int} (hv : Fits64 v) :
    ({ Book.empty a with version := v } : Book).Storable := by
  have hzero : Instant.zero.Storable := ⟨rfl, by decide, by decide⟩
  have hscale : (0 : Decimal).scale ≤ 2 ^ 31 := by decide
  exact ⟨hv, by simp [Book.empty], by simp [Book.empty], by simpa [Book.empty] using hscale,
    by simp [Book.empty], hzero⟩

/-- Writing version 1 of the book of auction `a` with the bid id `b`, loading it back and
finding the auction of `b`, on the server in the process. -/
theorem shared_ledger_answers_commit_load_find :
    SharedLedger.answers KeyValue.redis KeyValue.empty
        [.commit ⟨{ Book.empty "a" with version := 1 }, 0, ["b"], []⟩, .load "a",
          .findBid "b"] =
      (Ledger.empty.answers
        [.commit ⟨{ Book.empty "a" with version := 1 }, 0, ["b"], []⟩, .load "a",
          .findBid "b"]).map (Except.map LedgerReply.readBack) :=
  shared_ledger_answers_as_in_process KeyValue.redis KeyValue.redis_hashLaws KeyValue.empty
    KeyValue.redis_hget_empty _ (by
      simp only [List.mem_cons, List.not_mem_nil, or_false, forall_eq_or_imp, forall_eq]
      exact ⟨⟨show SharedLedger.Ordinary "a" by decide, Book.storable_empty "a" ⟨by decide, by decide⟩⟩,
        show SharedLedger.Ordinary "a" by decide, trivial⟩)

/-- Version 1 of the book of the auction `index:autobids`, over the book never written. -/
def autoBidIndexChange : BookChange :=
  ⟨{ Book.empty "index:autobids" with version := 1 }, 0, [], []⟩

/-- On every lawful server started empty, the book of the auction `index:autobids` lands in the
auto-bid index: once its version 1 is committed, the auto-bid id `version` is found under the
auction `1`, the book's version text. -/
theorem SharedLedger.index_book_answers_autoBid_lookup {σ : Type} {srv : RedisServer σ}
    (hlaws : srv.HashLaws) {s₀ : σ} (hempty : ∀ k f, srv.hget s₀ k f = .ok none) :
    ∃ s, commit srv s₀ autoBidIndexChange = .ok s ∧
      findAutoBidAuction srv s "version" = .ok "1" := by
  obtain ⟨s, hs, hget⟩ := commit_of_version hlaws (c := autoBidIndexChange)
    (Book.failure?_toJson _ (Book.storable_empty _ ⟨by decide, by decide⟩)) (hempty _ _) rfl
    ⟨"", _, hempty _ _⟩ ⟨"", _, hempty _ _⟩
  refine ⟨s, hs, ?_⟩
  have hindex : srv.hget s autoBidIndexKey "version" = .ok (some "1") := by
    rw [hget, if_neg (by simp [autoBidIndexChange]), if_neg (by decide), if_neg (by simp),
      if_pos ⟨by decide, rfl⟩]
    rfl
  simp [findAutoBidAuction, hindex]

/-- The change lands on both ledgers; afterwards the ledger in the process finds no auto-bid
`version`, while the server in the process, like every lawful server, answers the auction `1`. -/
theorem shared_autoBid_lookup_answers_book_version :
    (Ledger.empty.commit autoBidIndexChange).toOption.map
        (fun l => (l.findAutoBidAuction "version").toOption) = some none ∧
      (SharedLedger.commit KeyValue.redis KeyValue.empty autoBidIndexChange).toOption.map
        (fun kv => (SharedLedger.findAutoBidAuction KeyValue.redis kv "version").toOption) =
          some (some "1") := by
  obtain ⟨s, hs, hfind⟩ :=
    SharedLedger.index_book_answers_autoBid_lookup KeyValue.redis_hashLaws KeyValue.redis_hget_empty
  refine ⟨by decide, ?_⟩
  rw [hs]
  simp [Except.toOption, hfind]

end Auction
