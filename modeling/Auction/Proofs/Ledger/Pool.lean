import Mathlib.Logic.Function.Basic
import Mathlib.Logic.Relation
import Auction.House.Basic

/-!
# Callers of the compare-and-swap loop, side by side

`House.execute` runs the attempts of one caller back to back. In the service many callers run
at once, and an attempt touches the ledger at two points only: when it loads the book and when
it commits the change. Between the two it works on its own copy of the book, sharing nothing
but the id counter and the clock.

* A `Caller` is what one call of `House.execute` is given, and a `Stage` is where the call
  stands between two of its steps. `Caller.step` is one step: an attempt's load together with
  the change of the loaded book, or the attempt's commit with the wait that follows a lost one.
* A caller stepped alone is `House.execute` (`Caller.execute_eq_runAlone`): the loop is these
  steps, back to back, and nothing else.
* A `Pool` is many callers on one house. `Pool.Step` moves one caller by one step, with hooks
  that run nothing before a commit, so a run of the pool is an interleaving of the callers'
  steps in which every load and every commit is atomic. The pool also records the books its
  commits stored, oldest first, each with the caller that stored it. `Pool.schedule` runs the
  callers in the order a list names them, and every schedule is a run (`Reachable.schedule`).

With the ledger in the process, a load hands out the stored book and a commit is the ledger's
compare-and-swap (`loadBook_run`, `commitBook_run_quiet`), injected failures aside.
-/

namespace Auction

/-- Hooks that run nothing before a commit: the commit then meets the house as it is. -/
def Hooks.quiet : Hooks := ⟨pure ()⟩

/-- Hooks that run nothing leave the house. -/
@[simp] theorem Hooks.quiet_run (h : House) : Hooks.quiet.beforeCommit.run h = ((), h) := rfl

namespace House

variable {ε α β γ : Type}

/-! ### Running house computations -/

/-- Running two steps runs the first, and the second from where it left off. -/
theorem run_bind (x : HouseM β) (f : β → HouseM γ) (hooks : Hooks) (h : House) :
    ((x >>= f).run hooks).run h =
      ((f ((x.run hooks).run h).1).run hooks).run ((x.run hooks).run h).2 := rfl

/-- A value returned at once leaves the house. -/
@[simp] theorem run_pure (x : β) (hooks : Hooks) (h : House) :
    ((pure x : HouseM β).run hooks).run h = (x, h) := rfl

/-- Reading the house hands it to what follows. -/
theorem run_get_bind (f : House → HouseM β) (hooks : Hooks) (h : House) :
    ((get >>= f).run hooks).run h = ((f h).run hooks).run h := rfl

/-- Modifying the house applies the change before what follows. -/
theorem run_modify_bind (f : House → House) (k : PUnit → HouseM β) (hooks : Hooks) (h : House) :
    ((modify f >>= k).run hooks).run h = ((k ⟨⟩).run hooks).run (f h) := rfl

/-- Reading the hooks hands them to what follows. -/
theorem run_read_bind (k : Hooks → HouseM β) (hooks : Hooks) (h : House) :
    ((read >>= k).run hooks).run h = ((k hooks).run hooks).run h := rfl

/-- Reading the directory changes nothing. -/
theorem findListing_run_snd (auctionId : String) (hooks : Hooks) (h : House) :
    (((findListing auctionId).run hooks).run h).2 = h := by
  rw [findListing, run_get_bind]
  split <;> rfl

/-- Looking an auction up reads the directory and the status cache, and changes nothing. -/
theorem liveAuction_run_snd (auctionId : String) (now : Instant) (hooks : Hooks) (h : House) :
    (((liveAuction auctionId now).run hooks).run h).2 = h := by
  rw [liveAuction, run_bind, findListing_run_snd]
  generalize (((findListing auctionId).run hooks).run h).1 = r
  rcases r with _ | _ | listing
  · rfl
  · rfl
  · rw [run_get_bind]
    dsimp only
    repeat' split
    all_goals rfl

/-- A load hands out the stored book, unless a load failure is injected. -/
theorem loadBook_run (auctionId : String) (hooks : Hooks) (h : House) :
    ((loadBook auctionId).run hooks).run h =
      if 0 < h.faults.loadErrors then
        (.error (.injected "load"),
          { h with faults := { h.faults with loadErrors := h.faults.loadErrors - 1 } })
      else (h.storedBook auctionId, h) := by
  rw [loadBook, run_get_bind]
  split <;> rfl

/-- With the ledger in the process, the stored book is the ledger's. -/
theorem storedBook_of_inProcess {h : House} (hl : h.settings.ledger = .inProcess)
    (auctionId : String) : h.storedBook auctionId = .ok (h.ledger.load auctionId) := by
  rw [storedBook, hl]

/-- With the ledger in the process and hooks that run nothing, a commit counts itself and is
the ledger's compare-and-swap, unless a conflict or a failure is injected. -/
theorem commitBook_run_quiet (c : BookChange) (h : House) (hl : h.settings.ledger = .inProcess) :
    ((commitBook c).run Hooks.quiet).run h =
      let h₁ := { h with commits := h.commits + 1 }
      if 0 < h.faults.conflicts then
        (.error .versionConflict,
          { h₁ with faults := { h.faults with conflicts := h.faults.conflicts - 1 } })
      else if 0 < h.faults.commitErrors then
        (.error (.injected "commit"),
          { h₁ with faults := { h.faults with commitErrors := h.faults.commitErrors - 1 } })
      else
        match h.ledger.commit c with
        | .ok l => (.ok (), { h₁ with ledger := l })
        | .error e => (.error e, h₁) := by
  rw [commitBook, run_modify_bind, run_read_bind, run_get_bind]
  simp only [Hooks.quiet_run, gt_iff_lt]
  by_cases hc : 0 < h.faults.conflicts
  · simp only [if_pos hc]
    rfl
  · by_cases he : 0 < h.faults.commitErrors
    · simp only [if_neg hc, if_pos he]
      rfl
    · simp only [if_neg hc, if_neg he, hl]
      cases h.ledger.commit c <;> rfl

/-- With the ledger in the process and hooks that run nothing, a commit keeps the settings, and
either it landed as the ledger's compare-and-swap or it failed and left the ledger alone. -/
theorem commitBook_quiet_cases {c : BookChange} {h h₁ : House} {r : Except Fault Unit}
    (hl : h.settings.ledger = .inProcess)
    (hrun : ((commitBook c).run Hooks.quiet).run h = (r, h₁)) :
    h₁.settings = h.settings ∧
      ((r = .ok () ∧ h.ledger.commit c = .ok h₁.ledger) ∨
        ∃ f, r = .error f ∧ h₁.ledger = h.ledger) := by
  rw [commitBook_run_quiet _ _ hl] at hrun
  by_cases hc : 0 < h.faults.conflicts
  · simp only [if_pos hc] at hrun
    obtain ⟨rfl, rfl⟩ := hrun
    exact ⟨rfl, .inr ⟨_, rfl, rfl⟩⟩
  · by_cases he : 0 < h.faults.commitErrors
    · simp only [if_neg hc, if_pos he] at hrun
      obtain ⟨rfl, rfl⟩ := hrun
      exact ⟨rfl, .inr ⟨_, rfl, rfl⟩⟩
    · simp only [if_neg hc, if_neg he] at hrun
      rcases hcom : h.ledger.commit c with e | l
      · simp only [hcom] at hrun
        obtain ⟨rfl, rfl⟩ := hrun
        exact ⟨rfl, .inr ⟨_, rfl, rfl⟩⟩
      · simp only [hcom] at hrun
        obtain ⟨rfl, rfl⟩ := hrun
        exact ⟨rfl, .inl ⟨rfl, rfl⟩⟩

/-- A wait changes nothing of the house but its record of a panic. -/
theorem backoff_run (left : Nat) (hooks : Hooks) (h : House) :
    ∃ crashed, (((backoff left).run hooks).run h).2 = { h with crashed } := by
  rw [backoff, run_get_bind]
  split
  · exact ⟨h.crashed, rfl⟩
  · exact ⟨_, rfl⟩

/-! ### Callers and their steps -/

/-- What one call of `House.execute` is given: the auction whose book it changes, how it
reports a fault of the surroundings, what it reports before any attempt, and its change of a
loaded book, which also sees the report of the attempt before. -/
structure Caller (ε α : Type) where
  auctionId : String
  lift : Fault → ε
  init : α
  mutate : α → Book → HouseM (Except ε (Change α))

/-- Where a caller stands between two of its steps. -/
inductive Stage (ε α : Type) where
  /-- About to start an attempt, with `left` attempts left and the report of the last one. -/
  | ready (left : Nat) (last : α)
  /-- Loaded `current` and decided to write `working`, reporting `out`; about to commit. -/
  | staged (left : Nat) (current working : Book) (out : α)
  /-- Returned the loaded book: there was nothing to write. -/
  | kept (book : Book) (out : α)
  /-- Returned the book it committed. -/
  | committed (book : Book) (out : α)
  /-- Returned an error. -/
  | failed (e : ε)

namespace Stage

/-- What a caller standing here has returned, once it has. -/
def result : Stage ε α → Option (Except ε (Book × α))
  | kept b out | committed b out => some (.ok (b, out))
  | failed e => some (.error e)
  | _ => none

/-- The books that caller `i` stored when it stands here: the one it committed, if it did. -/
def storedBy (i : Nat) : Stage ε α → List (Nat × Book)
  | committed b _ => [(i, b)]
  | _ => []

/-- Where an attempt goes once the change decided `d` on the loaded book `current`. -/
def ofDecision (left : Nat) (current : Book) : Except ε (Change α) → Stage ε α
  | .error e => .failed e
  | .ok (.keep out) => .kept current out
  | .ok (.write working out) => .staged left current working out

end Stage

namespace Caller

/-- The conflict a caller reports once its attempts run out. -/
def exhausted (c : Caller ε α) : ε := c.lift (.bid (BidError.standard .concurrencyConflict))

/-- Where a caller goes once its commit answered, from the house `h` the commit left: done when
the commit landed; after a version conflict, on to the next attempt once the wait between two
attempts slept, or out with the wait's panic or the end of the caller's context; and out with any
other fault. -/
def afterCommit (c : Caller ε α) (hooks : Hooks) (left : Nat) (change : BookChange) (out : α) :
    Except Fault Unit → House → Stage ε α × House
  | .ok (), h => (.committed change.book out, h)
  | .error f, h =>
    match f.root with
    | .versionConflict =>
      if left = 0 then (.ready 0 out, h)
      else
        match ((backoff left).run hooks).run h with
        | (.slept, h') => (.ready left out, h')
        | (.panicked text, h') => (.failed (c.lift (.other text)), h')
        | (.cancelled text, h') => (.failed (c.lift (.cancelled text)), h')
    | _ => (.failed (c.lift (.wrap ("commit auction book " ++ c.auctionId) f)), h)

/-- One step of a caller: an attempt's load followed by the change of the loaded book, or the
attempt's commit, with the wait after a lost one. A caller that has returned takes no more
steps. -/
def step (c : Caller ε α) (hooks : Hooks) : Stage ε α → House → Option (Stage ε α × House)
  | .ready 0 _, h => some (.failed c.exhausted, h)
  | .ready (n + 1) last, h =>
    match ((loadBook c.auctionId).run hooks).run h with
    | (.error f, h₁) => some (.failed (c.lift (.wrap ("load auction book " ++ c.auctionId) f)), h₁)
    | (.ok current, h₁) =>
      let r := ((c.mutate last current).run hooks).run h₁
      some (Stage.ofDecision n current r.1, r.2)
  | .staged n current working out, h =>
    let r := ((commitBook (stamp current working)).run hooks).run h
    some (c.afterCommit hooks n (stamp current working) out r.1 r.2)
  | _, _ => none

/-- After a commit that failed the caller is not about to commit and stored nothing, and the
house keeps its ledger and settings: the wait after a lost commit changes only the record of a
panic. -/
theorem afterCommit_error (c : Caller ε α) (hooks : Hooks) (left : Nat) (change : BookChange)
    (out : α) (f : Fault) (h : House) (i : Nat) :
    (c.afterCommit hooks left change out (.error f) h).2.ledger = h.ledger ∧
      (c.afterCommit hooks left change out (.error f) h).2.settings = h.settings ∧
      (c.afterCommit hooks left change out (.error f) h).1.storedBy i = [] ∧
      ∀ n current working out',
        (c.afterCommit hooks left change out (.error f) h).1 ≠ .staged n current working out' := by
  rw [afterCommit.eq_2]
  cases hr : f.root with
  | versionConflict =>
    by_cases hl : left = 0
    · rw [if_pos hl]
      exact ⟨rfl, rfl, by rfl, fun _ _ _ _ h => by cases h⟩
    · rw [if_neg hl]
      obtain ⟨crashed, hw⟩ := backoff_run left hooks h
      rcases hrun : ((backoff left).run hooks).run h with ⟨_ | text | text, h'⟩ <;> rw [hrun] at hw <;>
        subst hw <;> exact ⟨rfl, rfl, by rfl, fun _ _ _ _ h => by cases h⟩
  | _ => exact ⟨rfl, rfl, by rfl, fun _ _ _ _ h => by cases h⟩

/-- A caller stepped alone, for at most `fuel` steps. -/
def runAlone (c : Caller ε α) (hooks : Hooks) : Nat → Stage ε α → House → Stage ε α × House
  | 0, s, h => (s, h)
  | fuel + 1, s, h =>
    match c.step hooks s h with
    | none => (s, h)
    | some (s', h') => c.runAlone hooks fuel s' h'

/-- A caller that takes no step stays where it is, however long it runs. -/
theorem runAlone_of_step_eq_none {c : Caller ε α} {hooks : Hooks} {s : Stage ε α} {h : House}
    (hs : c.step hooks s h = none) : ∀ fuel, c.runAlone hooks fuel s h = (s, h)
  | 0 => rfl
  | fuel + 1 => by rw [runAlone, hs]

/-- A caller that has returned stays where it is. -/
theorem runAlone_of_result {c : Caller ε α} {hooks : Hooks} {s : Stage ε α} {h : House}
    {r : Except ε (Book × α)} (hr : s.result = some r) (fuel : Nat) :
    c.runAlone hooks fuel s h = (s, h) := by
  apply runAlone_of_step_eq_none
  cases s <;> first | rfl | cases hr

/-- The loop of `House.execute` with `n` attempts left is the caller's steps from `ready n`:
at most two steps an attempt, and one to give up. -/
theorem runAlone_loop (c : Caller ε α) (hooks : Hooks) :
    ∀ (n : Nat) (last : α) (h : House) (fuel : Nat), 2 * n < fuel →
      ∃ s, c.runAlone hooks fuel (.ready n last) h =
          (s, ((retry surroundings c.auctionId c.lift c.mutate n last).run hooks |>.run h).2) ∧
        s.result =
          some ((retry surroundings c.auctionId c.lift c.mutate n last).run hooks |>.run h).1
  | 0, last, h, fuel + 1, _ => ⟨.failed c.exhausted, runAlone_of_result rfl fuel, rfl⟩
  | n + 1, last, h, fuel + 1, hfuel => by
    rw [runAlone, retry, run_bind, surroundings_cancelled, run_pure, run_bind]
    rcases hload : ((loadBook c.auctionId).run hooks).run h with ⟨_ | current, h₁⟩
    · simp only [step, hload, surroundings_load]
      exact ⟨_, runAlone_of_result rfl fuel, rfl⟩
    · simp only [step, hload, surroundings_load]
      rw [run_bind]
      rcases hmut : ((c.mutate last current).run hooks).run h₁ with
        ⟨_ | _ | ⟨working, out⟩, h₂⟩
      · simp only [Stage.ofDecision]
        exact ⟨_, runAlone_of_result rfl fuel, rfl⟩
      · simp only [Stage.ofDecision]
        exact ⟨_, runAlone_of_result rfl fuel, rfl⟩
      · simp only [Stage.ofDecision]
        obtain ⟨fuel, rfl⟩ : ∃ f, fuel = f + 1 := ⟨fuel - 1, by omega⟩
        rw [runAlone]
        simp only [step, surroundings_commit]
        rw [run_bind]
        rcases hcom : ((commitBook (stamp current working)).run hooks).run h₂ with
          ⟨f | ⟨⟩, h₃⟩
        · simp only [afterCommit]
          cases hroot : f.root with
          | versionConflict =>
            by_cases hn : n = 0
            · subst hn
              exact runAlone_loop c hooks 0 out h₃ fuel (by omega)
            · simp only [hn, if_false, surroundings_pause]
              rw [run_bind]
              rcases hw : ((backoff n).run hooks).run h₃ with ⟨_ | text | text, h₄⟩
              · exact runAlone_loop c hooks n out h₄ fuel (by omega)
              · exact ⟨_, runAlone_of_result rfl fuel, rfl⟩
              · exact ⟨_, runAlone_of_result rfl fuel, rfl⟩
          | _ => exact ⟨_, runAlone_of_result rfl fuel, rfl⟩
        · simp only [afterCommit]
          exact ⟨_, runAlone_of_result rfl fuel, rfl⟩

/-- `House.execute` is its caller stepped alone from its first attempt until it returns. -/
theorem execute_eq_runAlone (c : Caller ε α) (hooks : Hooks) (h : House) :
    ∃ s, c.runAlone hooks (2 * h.settings.maxAttempts + 1) (.ready h.settings.maxAttempts c.init) h =
        (s, ((execute c.auctionId c.lift c.init c.mutate).run hooks |>.run h).2) ∧
      s.result = some ((execute c.auctionId c.lift c.init c.mutate).run hooks |>.run h).1 := by
  rw [execute, run_get_bind]
  exact runAlone_loop c hooks _ _ h _ (Nat.lt_succ_self _)

end Caller

/-! ### Pools of callers -/

/-- Callers of the compare-and-swap loop on one house: the house, where each caller stands,
and the books the callers' commits stored, oldest first, each with the caller that stored it. -/
structure Pool (ε α : Type) where
  house : House
  stages : Nat → Stage ε α
  stored : List (Nat × Book)

namespace Pool

/-- The pool before any step: every caller about to start, with the attempts the house allows. -/
def start (cs : Nat → Caller ε α) (h : House) : Pool ε α :=
  ⟨h, fun i => .ready h.settings.maxAttempts (cs i).init, []⟩

/-- One step of one caller of the pool. Commits run no hooks: what a caller meets between its
load and its commit is whatever the other callers did by then. -/
inductive Step (cs : Nat → Caller ε α) : Pool ε α → Pool ε α → Prop
  | move {p : Pool ε α} {i : Nat} {s : Stage ε α} {h : House} :
      (cs i).step Hooks.quiet (p.stages i) p.house = some (s, h) →
      Step cs p ⟨h, Function.update p.stages i s, p.stored ++ s.storedBy i⟩

/-- The pools the callers `cs` reach from the house `h`: every interleaving of their steps. -/
def Reachable (cs : Nat → Caller ε α) (h : House) (p : Pool ε α) : Prop :=
  Relation.ReflTransGen (Step cs) (start cs h) p

/-- The pool after caller `i` takes its next step, or as it was once that caller has returned. -/
def move (cs : Nat → Caller ε α) (p : Pool ε α) (i : Nat) : Pool ε α :=
  match (cs i).step Hooks.quiet (p.stages i) p.house with
  | some (s, h) => ⟨h, Function.update p.stages i s, p.stored ++ s.storedBy i⟩
  | none => p

/-- The pool after its callers step in the order `order` names them. -/
def schedule (cs : Nat → Caller ε α) (p : Pool ε α) (order : List Nat) : Pool ε α :=
  order.foldl (move cs) p

/-- One more step of a caller keeps a pool reachable. -/
theorem Reachable.move {cs : Nat → Caller ε α} {h : House} {p : Pool ε α} (hr : Reachable cs h p)
    (i : Nat) : Reachable cs h (p.move cs i) := by
  unfold Pool.move
  split
  · next hs => exact hr.tail (.move hs)
  · exact hr

/-- Every schedule of the callers is a run of the pool. -/
theorem Reachable.schedule {cs : Nat → Caller ε α} {h : House} {p : Pool ε α}
    (hr : Reachable cs h p) (order : List Nat) : Reachable cs h (p.schedule cs order) := by
  induction order generalizing p with
  | nil => exact hr
  | cons i order ih => exact ih (hr.move i)

end Pool

end House

end Auction
