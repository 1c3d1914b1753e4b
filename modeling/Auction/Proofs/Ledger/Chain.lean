import Auction.Proofs.Ledger.Pool
import Auction.Proofs.Service.Commit

/-!
# The stored books of an auction form a chain

Take callers of the compare-and-swap loop running side by side over the ledger in the process,
every load and every commit atomic. Whatever the interleaving, the books stored for one auction
form a chain: each was stored at the version after the book before it, and was written over
that very book by the caller that stored it. A caller stores at most one book, the one it
returns, and a caller that returns any other way stored none.

The argument is the compare-and-swap itself. A caller that commits loaded some stored book of
the chain; the commit lands only when the stored version is still the one it loaded, and since
the versions along the chain rise by one at each store, the book it loaded is the latest one.

`Tracks` is what holds of every pool reached: the chain, the latest book as the stored one,
what the staged callers loaded, and which caller stored what. It needs of the callers only that
their changes touch neither the ledger nor the settings (`Caller.Local`) and write books of the
auction they loaded (`Caller.KeepsAuction`); every change of the service does both.
-/

namespace Auction

namespace House

variable {ε α : Type}

/-! ### Chains of stored books -/

/-- The latest of the books `ws` stored over `b₀`, or `b₀` when none was. -/
def topOf (b₀ : Book) (ws : List (Nat × Book)) : Book := (ws.getLast?.map (·.2)).getD b₀

/-- Over no stored books the latest is the first one. -/
@[simp] theorem topOf_nil (b₀ : Book) : topOf b₀ [] = b₀ := rfl

/-- The latest book is the one stored last. -/
@[simp] theorem topOf_append_singleton (b₀ : Book) (ws : List (Nat × Book)) (p : Nat × Book) :
    topOf b₀ (ws ++ [p]) = p.2 := by
  simp [topOf]

/-- The books `ws` were stored one after another over `b₀`, each at the version after the book
before it and written over that book by the caller that stored it (`writes i b w`: caller `i`
may write `w` over `b`). -/
inductive Chain (writes : Nat → Book → Book → Prop) (b₀ : Book) : List (Nat × Book) → Prop
  | nil : Chain writes b₀ []
  | snoc {ws : List (Nat × Book)} {i : Nat} {w : Book} :
      Chain writes b₀ ws → writes i (topOf b₀ ws) w →
      Chain writes b₀ (ws ++ [(i, { w with version := (topOf b₀ ws).version + 1 })])

/-- `b` is one of the books of the chain `ws` over `b₀`, the first one included. -/
def OnChain (b₀ : Book) (ws : List (Nat × Book)) (b : Book) : Prop :=
  b = b₀ ∨ ∃ i, (i, b) ∈ ws

/-- The latest book is on the chain. -/
theorem onChain_topOf (b₀ : Book) (ws : List (Nat × Book)) : OnChain b₀ ws (topOf b₀ ws) := by
  unfold topOf
  cases h : ws.getLast? with
  | none => exact Or.inl rfl
  | some p => exact Or.inr ⟨p.1, List.mem_of_getLast? h⟩

/-- A book on a chain stays on it as more books are stored. -/
theorem OnChain.append {b₀ b : Book} {ws : List (Nat × Book)} (h : OnChain b₀ ws b)
    (more : List (Nat × Book)) : OnChain b₀ (ws ++ more) b := by
  rcases h with rfl | ⟨i, hi⟩
  · exact Or.inl rfl
  · exact Or.inr ⟨i, List.mem_append_left _ hi⟩

namespace Chain

variable {writes : Nat → Book → Book → Prop} {b₀ : Book} {ws : List (Nat × Book)}

/-- Each book stored raises the latest version by one. -/
theorem version_topOf (h : Chain writes b₀ ws) : (topOf b₀ ws).version = b₀.version + ws.length := by
  induction h with
  | nil => simp
  | snoc _ _ ih =>
    simp only [topOf_append_singleton, List.length_append, List.length_singleton, ih]
    omega

/-- No book of the chain has a version past the latest one's. -/
theorem version_le_topOf (h : Chain writes b₀ ws) {b : Book} (hb : OnChain b₀ ws b) :
    b.version ≤ (topOf b₀ ws).version := by
  induction h with
  | nil =>
    rcases hb with rfl | ⟨_, hi⟩
    · exact le_refl _
    · cases hi
  | @snoc ws i w _ _ ih =>
    simp only [topOf_append_singleton]
    rcases hb with rfl | ⟨j, hj⟩
    · have := ih (Or.inl rfl)
      omega
    · rcases List.mem_append.mp hj with hj | hj
      · have := ih (Or.inr ⟨j, hj⟩)
        omega
      · obtain ⟨-, rfl⟩ := Prod.mk.inj (List.mem_singleton.mp hj)
        exact le_refl _

/-- A book of the chain with the latest version is the latest book: versions rise by one at
each store. -/
theorem eq_topOf (h : Chain writes b₀ ws) {b : Book} (hb : OnChain b₀ ws b)
    (hv : b.version = (topOf b₀ ws).version) : b = topOf b₀ ws := by
  cases h with
  | nil =>
    rcases hb with rfl | ⟨_, hi⟩
    · rfl
    · cases hi
  | @snoc ws i w hc _ =>
    simp only [topOf_append_singleton] at hv ⊢
    rcases hb with rfl | ⟨j, hj⟩
    · have := hc.version_le_topOf (Or.inl rfl)
      omega
    · rcases List.mem_append.mp hj with hj | hj
      · have := hc.version_le_topOf (Or.inr ⟨j, hj⟩)
        omega
      · exact (Prod.mk.inj (List.mem_singleton.mp hj)).2

/-- The `j`-th book stored is at the `j`-th version after the first book. -/
theorem version_getElem (h : Chain writes b₀ ws) :
    ∀ j (hj : j < ws.length), ws[j].2.version = b₀.version + j + 1 := by
  induction h with
  | nil => intro j hj; cases hj
  | @snoc ws i w hc _ ih =>
    intro j hj
    rw [List.length_append, List.length_singleton] at hj
    rw [List.getElem_append]
    split
    · exact ih j ‹_›
    · have hjl : j = ws.length := by omega
      subst hjl
      simp [hc.version_topOf]

/-- A chain of writes is a chain of any weaker writes. -/
theorem mono {writes' : Nat → Book → Book → Prop} (h : Chain writes b₀ ws)
    (hw : ∀ i b w, writes i b w → writes' i b w) : Chain writes' b₀ ws := by
  induction h with
  | nil => exact .nil
  | snoc _ hwr ih => exact .snoc ih (hw _ _ _ hwr)

end Chain

/-! ### What a caller's step can do -/

namespace Caller

/-- The caller may decide to write `w` over the loaded book `b`: some run of its change of `b`
decides so. -/
def Writes (c : Caller ε α) (b w : Book) : Prop := ∃ last h, House.Writes (c.mutate last) b w h

/-- The caller's change works on its copy of the book: it touches neither the ledger nor the
settings of the house. -/
def Local (c : Caller ε α) : Prop :=
  ∀ last b hooks h, (((c.mutate last b).run hooks).run h).2.ledger = h.ledger ∧
    (((c.mutate last b).run hooks).run h).2.settings = h.settings

/-- Every book the caller writes is of the auction of the book it loaded. -/
def KeepsAuction (c : Caller ε α) : Prop := ∀ b w, c.Writes b w → w.auctionId = b.auctionId

variable {c : Caller ε α} {s s' : Stage ε α} {h h' : House}

/-- What one step of a caller can do, with the ledger in the process and no hooks. It keeps the
settings, and it starts from a stage that stored nothing. Either it leaves the ledger alone, and
then it can only stage a write of the caller's change over the book it just loaded; or it is a
commit that landed, and then the ledger is the compare-and-swap's and the caller returns the
book it committed. -/
theorem step_cases (hl : h.settings.ledger = .inProcess) (hloc : c.Local)
    (hs : c.step Hooks.quiet s h = some (s', h')) (i : Nat) :
    h'.settings = h.settings ∧ s.storedBy i = [] ∧
      ((h'.ledger = h.ledger ∧ s'.storedBy i = [] ∧
          ∀ n current working out, s' = .staged n current working out →
            current = h.ledger.load c.auctionId ∧ c.Writes current working) ∨
        ∃ n current working out, s = .staged n current working out ∧
          s' = .committed (stamp current working).book out ∧
          h.ledger.commit (stamp current working) = .ok h'.ledger) := by
  match s, hs with
  | .ready 0 last, hs =>
    simp only [step, Option.some.injEq, Prod.mk.injEq] at hs
    obtain ⟨rfl, rfl⟩ := hs
    exact ⟨rfl, rfl, Or.inl ⟨rfl, rfl, fun _ _ _ _ h => by cases h⟩⟩
  | .ready (n + 1) last, hs =>
    simp only [step, loadBook_run, storedBook_of_inProcess hl] at hs
    by_cases hz : 0 < h.faults.loadErrors
    · simp only [if_pos hz, Option.some.injEq, Prod.mk.injEq] at hs
      obtain ⟨rfl, rfl⟩ := hs
      exact ⟨rfl, rfl, Or.inl ⟨rfl, rfl, fun _ _ _ _ h => by cases h⟩⟩
    · simp only [if_neg hz, Option.some.injEq, Prod.mk.injEq] at hs
      obtain ⟨rfl, rfl⟩ := hs
      obtain ⟨hled, hset⟩ := hloc last (h.ledger.load c.auctionId) Hooks.quiet h
      rcases hr : ((c.mutate last (h.ledger.load c.auctionId)).run Hooks.quiet).run h with ⟨d, h₂⟩
      rw [hr] at hled hset
      refine ⟨hset, rfl, Or.inl ⟨hled, ?_, ?_⟩⟩
      · rcases d with _ | _ | _ <;> rfl
      · intro n' cur w o hst
        rcases d with _ | _ | ⟨w', o'⟩
        · cases hst
        · cases hst
        · simp only [Stage.ofDecision, Stage.staged.injEq] at hst
          obtain ⟨-, rfl, rfl, rfl⟩ := hst
          exact ⟨rfl, last, h, Hooks.quiet, o', h₂, hr⟩
  | .staged n current working out, hs =>
    simp only [step, Option.some.injEq] at hs
    rcases hcom : ((commitBook (stamp current working)).run Hooks.quiet).run h with ⟨r, h₁⟩
    rw [hcom] at hs
    obtain ⟨hset, ⟨rfl, hled⟩ | ⟨f, rfl, hled⟩⟩ := commitBook_quiet_cases hl hcom
    · simp only [afterCommit, Prod.mk.injEq] at hs
      obtain ⟨rfl, rfl⟩ := hs
      exact ⟨hset, rfl, Or.inr ⟨n, current, working, out, rfl, rfl, hled⟩⟩
    · obtain ⟨hl', hs', hst, hns⟩ := afterCommit_error c Hooks.quiet n (stamp current working) out f h₁ i
      rw [hs] at hl' hs' hst hns
      exact ⟨hs'.trans hset, rfl, Or.inl ⟨hl'.trans hled, hst, fun _ _ _ _ h => absurd h (hns _ _ _ _)⟩⟩

end Caller

/-! ### The invariant of a pool -/

/-- The books of auction `a` among the books `ws` a pool stored, in order. -/
def storedOf (a : String) (ws : List (Nat × Book)) : List (Nat × Book) :=
  ws.filter (·.2.auctionId == a)

/-- Storing a book adds it to the books of its auction and to no other's. -/
theorem storedOf_append_singleton (a : String) (ws : List (Nat × Book)) (i : Nat) (b : Book) :
    storedOf a (ws ++ [(i, b)]) = if b.auctionId = a then storedOf a ws ++ [(i, b)] else storedOf a ws := by
  unfold storedOf
  split <;> simp_all

/-- Caller `i` of `cs` works on the auction `a` and may write `w` over `b`. -/
def WritesOn (cs : Nat → Caller ε α) (a : String) (i : Nat) (b w : Book) : Prop :=
  (cs i).auctionId = a ∧ (cs i).Writes b w

/-- The book a load hands out is of the auction asked for, when the stored one is. -/
theorem load_auctionId {l : Ledger} {k : String} (h : ∀ b, l.stored? k = some b → b.auctionId = k) :
    (l.load k).auctionId = k := by
  unfold Ledger.load
  cases hk : l.stored? k with
  | none => rfl
  | some b => exact h b hk

namespace Pool

/-- What holds of every pool of the callers `cs` run over the ledger in the process, for the
auction `a` whose book was `b₀` at the start. -/
structure Tracks (cs : Nat → Caller ε α) (a : String) (b₀ : Book) (p : Pool ε α) : Prop where
  inProcess : p.house.settings.ledger = .inProcess
  /-- The book stored for a caller's auction is of that auction. -/
  keyed : ∀ i b, p.house.ledger.stored? (cs i).auctionId = some b → b.auctionId = (cs i).auctionId
  /-- Every book a caller stored is of its auction. -/
  storedAuction : ∀ i b, (i, b) ∈ p.stored → b.auctionId = (cs i).auctionId
  /-- The books of `a` stored so far form a chain over `b₀`. -/
  chain : Chain (WritesOn cs a) b₀ (storedOf a p.stored)
  /-- The book of `a` a load hands out is the latest of the chain. -/
  latest : p.house.ledger.load a = topOf b₀ (storedOf a p.stored)
  /-- A staged caller loaded a book of its auction and decided to write over it; on `a`, the
  book it loaded is one of the chain. -/
  staged : ∀ i n current working out, p.stages i = .staged n current working out →
    current.auctionId = (cs i).auctionId ∧ (cs i).Writes current working ∧
      ((cs i).auctionId = a → OnChain b₀ (storedOf a p.stored) current)
  /-- The books caller `i` stored are the one it returned, if it committed, and none otherwise. -/
  storedBy : ∀ i, p.stored.filter (·.1 == i) = (p.stages i).storedBy i

variable {cs : Nat → Caller ε α} {a : String} {b₀ : Book} {p p' : Pool ε α}

/-- At the start of a run on the ledger in the process, nothing is stored yet and every caller
stands before its first load. -/
theorem tracks_start {h : House} (hl : h.settings.ledger = .inProcess)
    (hkeyed : ∀ i b, h.ledger.stored? (cs i).auctionId = some b → b.auctionId = (cs i).auctionId) :
    Tracks cs a (h.ledger.load a) (start cs h) where
  inProcess := hl
  keyed := hkeyed
  storedAuction _ _ hb := absurd hb List.not_mem_nil
  chain := .nil
  latest := rfl
  staged _ _ _ _ _ hs := by cases hs
  storedBy _ := rfl

/-- One step keeps the invariant. A step that leaves the ledger alone changes nothing of it but
where its caller stands. A commit that lands was over the book the caller loaded; on `a` that
book is of the chain and has the stored version, so it is the latest book, and the commit
extends the chain by the caller's write over it. -/
theorem Tracks.step (hloc : ∀ i, (cs i).Local) (hkeep : ∀ i, (cs i).KeepsAuction)
    (ht : Tracks cs a b₀ p) (hs : Step cs p p') : Tracks cs a b₀ p' := by
  cases hs with
  | @move i s h hstep =>
  obtain ⟨hset, hprev, hcase⟩ := Caller.step_cases ht.inProcess (hloc i) hstep i
  rcases hcase with ⟨hled, hnone, hstaged⟩ | ⟨n, current, working, out, hst, rfl, hcom⟩
  · have hstored : p.stored ++ s.storedBy i = p.stored := by rw [hnone, List.append_nil]
    refine ⟨hset ▸ ht.inProcess, hled ▸ ht.keyed, ?_, ?_, ?_, ?_, ?_⟩
    · simpa only [hstored] using ht.storedAuction
    · simpa only [hstored] using ht.chain
    · simpa only [hstored, hled] using ht.latest
    · intro j n' cur w o hj
      dsimp only at hj ⊢
      simp only [hstored]
      by_cases hji : j = i
      · subst hji
        rw [Function.update_self] at hj
        obtain ⟨rfl, hw⟩ := hstaged n' cur w o hj
        refine ⟨load_auctionId (ht.keyed j), hw, fun ha => ?_⟩
        rw [ha, ht.latest]
        exact onChain_topOf _ _
      · rw [Function.update_of_ne hji] at hj
        exact ht.staged j n' cur w o hj
    · intro j
      dsimp only
      simp only [hstored]
      by_cases hji : j = i
      · subst hji
        rw [Function.update_self, hnone, ht.storedBy, hprev]
      · rw [Function.update_of_ne hji, ht.storedBy]
  · obtain ⟨hauc, hw, hon⟩ := ht.staged i n current working out hst
    have hkw : working.auctionId = current.auctionId := hkeep i current working hw
    obtain ⟨hver, hbooks⟩ := Ledger.commit_eq_ok hcom
    have hbook : (stamp current working).book.auctionId = (cs i).auctionId := by
      simp only [stamp]
      rw [hkw, hauc]
    rw [hbook] at hver hbooks
    simp only [Stage.storedBy]
    refine ⟨hset ▸ ht.inProcess, ?_, ?_, ?_, ?_, ?_, ?_⟩
    · intro j b hb
      rw [hbooks] at hb
      split at hb
      · rename_i hj
        rw [hj, ← hbook]
        exact (Option.some.inj hb).symm ▸ rfl
      · exact ht.keyed j b hb
    · intro j b hb
      rcases List.mem_append.mp hb with hb | hb
      · exact ht.storedAuction j b hb
      · obtain ⟨rfl, rfl⟩ := Prod.mk.inj (List.mem_singleton.mp hb)
        exact hbook
    · rw [storedOf_append_singleton, hbook]
      split
      · rename_i ha
        have hv : current.version = (topOf b₀ (storedOf a p.stored)).version := by
          rw [← ht.latest, ← Ledger.storedVersion_eq, ← ha, hver]
          rfl
        have htop := ht.chain.eq_topOf (hon ha) hv
        have hwrite : WritesOn cs a i (topOf b₀ (storedOf a p.stored)) working := ⟨ha, htop ▸ hw⟩
        have := Chain.snoc ht.chain hwrite
        rwa [← htop] at this
      · exact ht.chain
    · rw [storedOf_append_singleton, hbook]
      unfold Ledger.load
      rw [hbooks a]
      by_cases ha : (cs i).auctionId = a
      · rw [if_pos ha.symm, if_pos ha, topOf_append_singleton]
        rfl
      · rw [if_neg (Ne.symm ha), if_neg ha]
        exact ht.latest
    · intro j n' cur w o hj
      dsimp only at hj ⊢
      by_cases hji : j = i
      · subst hji
        rw [Function.update_self] at hj
        cases hj
      · rw [Function.update_of_ne hji] at hj
        obtain ⟨hcur, hwj, honj⟩ := ht.staged j n' cur w o hj
        refine ⟨hcur, hwj, fun ha => ?_⟩
        rw [storedOf_append_singleton]
        split
        · exact (honj ha).append _
        · exact honj ha
    · intro j
      dsimp only
      rw [List.filter_append]
      by_cases hji : j = i
      · subst hji
        rw [Function.update_self, ht.storedBy, hprev]
        simp [Stage.storedBy]
      · rw [Function.update_of_ne hji, ht.storedBy]
        simp [Ne.symm hji]

/-- Every pool reached keeps the invariant. -/
theorem Reachable.tracks {h : House} (hloc : ∀ i, (cs i).Local) (hkeep : ∀ i, (cs i).KeepsAuction)
    (hl : h.settings.ledger = .inProcess)
    (hkeyed : ∀ i b, h.ledger.stored? (cs i).auctionId = some b → b.auctionId = (cs i).auctionId)
    (hr : Reachable cs h p) : Tracks cs a (h.ledger.load a) p := by
  induction hr with
  | refl => exact tracks_start hl hkeyed
  | tail _ hs ih => exact ih.step hloc hkeep hs

/-! ### No update lost, none applied twice -/

/-- Callers of the compare-and-swap loop on one auction `a`, each changing the loaded book by a
function `m i` of it, run side by side over the ledger in the process, from a house where `a`
has no book yet. Whatever the interleaving of their loads and commits, the books stored for `a`
form a chain over the empty book: the `j`-th one stored is at version `j + 1` and is `m i` of
the book before it, with its version set, for the caller `i` that stored it. The ledger holds
the latest of them. A caller stored a book exactly when it returned from a commit that landed:
then it stored exactly the book it returned, once; a caller that failed, found nothing to
write or is still running stored nothing. -/
theorem stored_books_form_chain {m : Nat → Book → Except ε (Change α)} {h : House}
    (hon : ∀ i, (cs i).auctionId = a) (hfun : ∀ i last, (cs i).mutate last = fun b => pure (m i b))
    (hkeep : ∀ i b w out, m i b = .ok (.write w out) → w.auctionId = b.auctionId)
    (hl : h.settings.ledger = .inProcess) (hnew : h.ledger.stored? a = none)
    (hr : Reachable cs h p) :
    Chain (fun i b w => ∃ out, m i b = .ok (.write w out)) (Book.empty a) p.stored ∧
      (∀ j (hj : j < p.stored.length), p.stored[j].2.version = j + 1) ∧
      p.house.ledger.load a = topOf (Book.empty a) p.stored ∧
      ∀ i, p.stored.filter (·.1 == i) = (p.stages i).storedBy i := by
  have hwrites : ∀ i b w, (cs i).Writes b w → ∃ out, m i b = .ok (.write w out) := by
    rintro i b w ⟨last, h₀, hooks, out, h', hrun⟩
    rw [hfun] at hrun
    exact ⟨out, congrArg Prod.fst hrun⟩
  have hloc : ∀ i, (cs i).Local := fun i last b hooks h₀ => by
    rw [hfun]
    exact ⟨rfl, rfl⟩
  have hkeeps : ∀ i, (cs i).KeepsAuction := fun i b w hw => by
    obtain ⟨out, hm⟩ := hwrites i b w hw
    exact hkeep i b w out hm
  have hkeyed : ∀ i b, h.ledger.stored? (cs i).auctionId = some b → b.auctionId = (cs i).auctionId :=
    fun i b hb => by rw [hon, hnew] at hb; cases hb
  have ht : Tracks cs a (h.ledger.load a) p := hr.tracks hloc hkeeps hl hkeyed
  have hall : storedOf a p.stored = p.stored := by
    apply List.filter_eq_self.mpr
    rintro ⟨i, b⟩ hb
    simpa [hon] using ht.storedAuction i b hb
  rw [Ledger.load_of_stored?_eq_none hnew] at ht
  have hchain : Chain (fun i b w => ∃ out, m i b = .ok (.write w out)) (Book.empty a) p.stored :=
    hall ▸ ht.chain.mono fun i b w hw => hwrites i b w hw.2
  refine ⟨hchain, fun j hj => ?_, hall ▸ ht.latest, ht.storedBy⟩
  rw [hchain.version_getElem j hj]
  simp [Book.empty]

/-- Callers on the auction `a-1` that each write back the book they load, unchanged. -/
def copiers : Nat → Caller Unit Unit :=
  fun _ => ⟨"a-1", fun _ => (), (), fun _ b => pure (.ok (.write b ()))⟩

/-- A house whose callers may make three attempts. -/
def threeAttempts : House :=
  { (default : House) with settings := { (default : Settings) with maxAttempts := 3 } }

/-- Two copiers both load the empty book. The first commits; the second loses its commit to the
first, waits, loads the first's book and commits over it. -/
def retriedPool : Pool Unit Unit :=
  (start copiers threeAttempts).schedule copiers [0, 1, 0, 1, 1, 1]

/-- Two copiers, one of them retried after a lost commit, store a chain of two books. -/
theorem stored_books_form_chain_retried :
    retriedPool.house.commits = 3 ∧ retriedPool.stored.map (·.1) = [0, 1] ∧
      Chain (fun _ b w => ∃ out, (.ok (.write b ()) : Except Unit (Change Unit)) = .ok (.write w out))
          (Book.empty "a-1") retriedPool.stored ∧
        (∀ j (hj : j < retriedPool.stored.length), retriedPool.stored[j].2.version = j + 1) ∧
        retriedPool.house.ledger.load "a-1" = topOf (Book.empty "a-1") retriedPool.stored ∧
        ∀ i, retriedPool.stored.filter (·.1 == i) = (retriedPool.stages i).storedBy i :=
  ⟨by decide, by decide, stored_books_form_chain (fun _ => rfl) (fun _ _ => rfl)
    (fun _ _ _ _ h => by cases h; rfl) rfl rfl (Reachable.schedule .refl _)⟩

end Pool

end House

end Auction
