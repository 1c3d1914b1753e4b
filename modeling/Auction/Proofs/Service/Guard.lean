import Mathlib.Logic.Function.Basic
import Mathlib.Logic.Relation
import Mathlib.Data.List.Sublists
import Auction.Proofs.Ledger.Pool
import Auction.Proofs.Wire.Replay
import Auction.Service.Place

/-!
# Guarded placements side by side

`Guard.execute` runs one placement under a store key in three steps: it reserves the key, runs
the placement, and then stores the outcome (`settle`: a decided outcome is completed, any other
frees the key). Calls with the same bidder and client key share one key of the store, and in the
service they run at once.

* A `Pool` is such calls on one house, with the store in the process. `Pool.Step` moves one
  call by one step, `reserve`, `run` (its placement ends with any outcome) or `settle`, or lets
  anything else happen to the house that keeps the settings and the entry of the key and does
  not turn the clock back (`other`). The pool keeps a log of the decided outcomes and of the
  answers, each with its call and the time on the house clock.
* The guard relies on every call ending its run before its lock time is over. `Pool.Timely`
  says so of a pool, and `Pool.Reachable` takes only the steps that lead to timely pools.
* `Pool.Inv` is what every reachable pool satisfies (`Pool.Reachable.inv`): at most one call
  holds the key, and the entry of the key says who (a reservation), what was decided last (a
  stored outcome), or that every decision is `ttl` in the past (no entry). Two decisions are
  `ttl` apart, and an answer given less than `ttl` after a decision is that decision's outcome
  (for the call that decided), its stored text replayed, or `idempotencyInFlight`.
-/

namespace Auction

namespace Guard

open House

/-! ### The guard's steps with the store in the process -/

/-- Modifying the house applies the change and returns nothing. -/
theorem run_modify (f : House → House) (hooks : Hooks) (h : House) :
    ((modify f : HouseM PUnit).run hooks).run h = (⟨⟩, f h) := rfl

/-- What a reservation in the process did: it took a free key for `lockTtl`, it found a live
outcome and handed it back, or it found a live reservation and refused. -/
theorem LocalStore.reserve_cases {s s' : LocalStore} {k : String} {lockTtl : Duration}
    {now : Instant} {r : Reservation} (hr : s.reserve k lockTtl now = .ok (r, s')) :
    (r = .reserved ∧ s'.entries.find? k = some ⟨none, now.add lockTtl⟩ ∧
        ∀ e, s.entries.find? k = some e → e.expiresAt ≤ now) ∨
      ∃ text x, r = .stored text ∧ s' = s ∧ s.entries.find? k = some ⟨some text, x⟩ ∧ now < x := by
  unfold LocalStore.reserve at hr
  split at hr
  · rename_i e he
    split at hr
    · rename_i hlive
      rcases e with ⟨_ | text, x⟩
      · cases hr
      · cases hr
        exact .inr ⟨text, x, rfl, rfl, he, hlive⟩
    · rename_i hlate
      cases hr
      refine .inl ⟨rfl, by simp [Table.find?_insert], ?_⟩
      intro e' he'
      rw [he] at he'
      cases he'
      exact Int.not_lt.mp hlate
  · rename_i he
    cases hr
    refine .inl ⟨rfl, by simp [Table.find?_insert], ?_⟩
    intro e' he'
    rw [he] at he'
    cases he'

/-- A reservation in the process refuses only a live reservation, with `inFlight`. -/
theorem LocalStore.reserve_error {s : LocalStore} {k : String} {lockTtl : Duration}
    {now : Instant} {f : Fault} (hr : s.reserve k lockTtl now = .error f) :
    f = inFlight ∧ ∃ x, s.entries.find? k = some ⟨none, x⟩ ∧ now < x := by
  unfold LocalStore.reserve at hr
  split at hr
  · rename_i e he
    split at hr
    · rename_i hlive
      rcases e with ⟨_ | text, x⟩
      · cases hr
        exact ⟨rfl, x, he, hlive⟩
      · cases hr
    · cases hr
  · cases hr

/-- A live reservation is refused. -/
theorem LocalStore.reserve_of_pending {s : LocalStore} {k : String} {lockTtl : Duration}
    {now x : Instant} (he : s.entries.find? k = some ⟨none, x⟩) (hlive : now < x) :
    s.reserve k lockTtl now = .error inFlight := by
  simp only [LocalStore.reserve, he, if_pos hlive]

/-- A stored outcome is found under its key with its payload, kept until `ttl` after `now`. -/
@[simp] theorem LocalStore.find?_complete (s : LocalStore) (k payload : String) (ttl : Duration)
    (now : Instant) :
    (s.complete k payload ttl now).entries.find? k = some ⟨some payload, now.add ttl⟩ := by
  simp [LocalStore.complete, Table.find?_insert]

/-- Freeing a reservation leaves no entry for its key. -/
theorem LocalStore.find?_release_of_pending {s : LocalStore} {k : String} {x : Instant}
    (he : s.entries.find? k = some ⟨none, x⟩) : (s.release k).entries.find? k = none := by
  simp [LocalStore.release, he, Table.find?_erase]

/-- With the store in the process, a reservation is the store's own. -/
theorem reserve_run_local {h : House} (hs : h.settings.store = some .inProcess) (k : String)
    (hooks : Hooks) :
    ((reserve k).run hooks).run h =
      match h.store.reserve k h.settings.lockTtl h.now with
      | .ok (r, s) => (.ok r, { h with store := s })
      | .error e => (.error e, h) := by
  rw [reserve, run_get_bind, hs]
  dsimp only
  cases h.store.reserve k h.settings.lockTtl h.now with
  | ok rs => rfl
  | error e => rfl

/-- With the store in the process, settling stores a decided outcome for `ttl` and otherwise
frees the key; it answers with the outcome. -/
theorem settle_run_local {h : House} (hs : h.settings.store = some .inProcess) (k : String)
    (o : Outcome BidResult) (hooks : Hooks) :
    ((settle k o).run hooks).run h =
      (o, { h with store :=
        if isDecided o then h.store.complete k (storedText o) h.settings.idempotencyTtl h.now
        else h.store.release k }) := by
  rw [settle]
  split
  · rw [run_bind, complete, run_modify]
    simp only [hs]
    rfl
  · rw [run_bind, release, run_modify]
    simp only [hs]
    rfl

/-! ### Calls side by side -/

/-- `a` comes before `c`'s place at the end exactly when it comes before `b` in `l`, or `b` is
that last element and `a` is anywhere in `l`. -/
theorem pair_sublist_append_singleton {α : Type} {a b c : α} {l : List α} :
    List.Sublist [a, b] (l ++ [c]) ↔ List.Sublist [a, b] l ∨ (a ∈ l ∧ b = c) := by
  rw [← List.reverse_sublist, List.reverse_append]
  simp only [List.reverse_cons, List.reverse_nil, List.nil_append, List.cons_append,
    List.sublist_cons_iff, List.cons.injEq]
  constructor
  · rintro (h | ⟨r, ⟨rfl, rfl⟩, hr⟩)
    · exact .inl (List.reverse_sublist.mp (by simpa using h))
    · exact .inr ⟨by simpa using hr, rfl⟩
  · rintro (h | ⟨ha, rfl⟩)
    · exact .inl (by simpa using List.reverse_sublist.mpr h)
    · exact .inr ⟨[a], ⟨rfl, rfl⟩, by simpa using ha⟩

/-- Where one guarded call stands. -/
inductive Turn where
  /-- About to reserve the key. -/
  | ready
  /-- Holds the key, reserved at `since`, and its placement runs. -/
  | holding (since : Instant)
  /-- Holds the key, reserved at `since`; its placement ended with `o`, which is about to be
  stored, or the key freed. -/
  | ran (since : Instant) (o : Outcome BidResult)
  /-- Answered `o`. -/
  | returned (o : Outcome BidResult)

/-- When a call that holds the key reserved it. -/
def Turn.since? : Turn → Option Instant
  | .holding s | .ran s _ => some s
  | _ => none

/-- Updating one call's turn changes when that call reserved the key and nobody else's. -/
theorem since?_update {turns : Nat → Turn} {i j : Nat} {t : Turn} :
    (Function.update turns i t j).since? = if j = i then t.since? else (turns j).since? := by
  by_cases hj : j = i
  · subst hj
    simp
  · simp [hj]

/-- An entry of the log of a pool, with its call and the time on the house clock. -/
inductive Note where
  /-- The placement of a call ended with a decided outcome. -/
  | decided (call : Nat) (o : Outcome BidResult) (time : Instant)
  /-- A call answered. -/
  | answered (call : Nat) (o : Outcome BidResult) (time : Instant)

/-- Guarded calls with one store key on one house: the house, where each call stands, and the
log of decided runs and of answers, oldest first. -/
structure Pool where
  house : House
  turns : Nat → Turn
  log : List Note

namespace Pool

/-- No call has started. -/
def start (h : House) : Pool := ⟨h, fun _ => .ready, []⟩

/-- The entry of the key `k`. -/
def entry (p : Pool) (k : String) : Option StoreEntry := p.house.store.entries.find? k

/-- How long a stored outcome is kept. -/
def ttl (p : Pool) : Duration := p.house.settings.idempotencyTtl

/-- The pool once call `i` answered `o`, leaving the house `h`. -/
def answer (p : Pool) (i : Nat) (o : Outcome BidResult) (h : House) : Pool :=
  ⟨h, Function.update p.turns i (.returned o), p.log ++ [.answered i o p.house.now]⟩

/-- Where call `i` goes once the store answered its reservation. -/
def afterReserve (p : Pool) (i : Nat) : Except Fault Reservation × House → Pool
  | (.ok .reserved, h) => ⟨h, Function.update p.turns i (.holding p.house.now), p.log⟩
  | (.ok (.stored text), h) => p.answer i (replay text) h
  | (.error f, h) => p.answer i (refusal f) h

/-- The log once the placement of call `i` ended with `o`: a decided outcome is noted. -/
def noteRun (p : Pool) (i : Nat) (o : Outcome BidResult) : List Note :=
  if isDecided o then p.log ++ [.decided i o p.house.now] else p.log

/-- One step of a pool of calls on the store key `k`. -/
inductive Step (k : String) : Pool → Pool → Prop
  /-- A call that has not started reserves the key. -/
  | reserve {p : Pool} {i : Nat} : p.turns i = .ready →
      Step k p (p.afterReserve i (((Guard.reserve k).run Hooks.quiet).run p.house))
  /-- The placement of a call holding the key ends, with any outcome. -/
  | run {p : Pool} {i : Nat} {s : Instant} (o : Outcome BidResult) : p.turns i = .holding s →
      Step k p ⟨p.house, Function.update p.turns i (.ran s o), p.noteRun i o⟩
  /-- A call whose placement ended stores the outcome or frees the key, and answers. -/
  | settle {p : Pool} {i : Nat} {s : Instant} {o : Outcome BidResult} : p.turns i = .ran s o →
      Step k p (p.answer i (((Guard.settle k o).run Hooks.quiet).run p.house).1
        (((Guard.settle k o).run Hooks.quiet).run p.house).2)
  /-- Anything else happens to the house (the placements' own work, other keys, the clock moving
  on) that keeps the settings and the entry of the key. -/
  | other {p : Pool} {h : House} : h.settings = p.house.settings →
      h.store.entries.find? k = p.entry k → p.house.now ≤ h.now → Step k p { p with house := h }

/-- Every call holding the key is within its lock time. -/
def Timely (p : Pool) : Prop :=
  ∀ i s, (p.turns i).since? = some s → p.house.now < s.add p.house.settings.lockTtl

/-- The pools that calls on the key `k` reach from the house `h`, with every call ending its
run, and storing its outcome or freeing the key, before its lock time is over. -/
def Reachable (k : String) (h : House) (p : Pool) : Prop :=
  Relation.ReflTransGen (fun p q => Step k p q ∧ q.Timely) (start h) p

/-! ### What every reachable pool satisfies -/

section Log

variable (ttl : Duration)

/-- Every decision of `log` is at least `ttl` before `t`. -/
def Closed (log : List Note) (t : Instant) : Prop :=
  ∀ i o t', Note.decided i o t' ∈ log → t'.add ttl ≤ t

/-- Every decision of `log` but the one of call `i` with `o` at `t` is at least `ttl` before
`t`. -/
def Latest (log : List Note) (i : Nat) (o : Outcome BidResult) (t : Instant) : Prop :=
  ∀ j o' t', Note.decided j o' t' ∈ log → (j = i ∧ o' = o ∧ t' = t) ∨ t'.add ttl ≤ t

variable {ttl}

/-- Decisions closed by `t` are still closed later. -/
theorem Closed.mono {log : List Note} {t u : Instant} (hc : Closed ttl log t) (htu : t ≤ u) :
    Closed ttl log u :=
  fun i o t' hd => Int.le_trans (hc i o t' hd) htu

/-- An answer is no decision: it closes no window and opens none. -/
theorem closed_append_answered {log : List Note} {j : Nat} {o : Outcome BidResult}
    {t u : Instant} : Closed ttl (log ++ [.answered j o t]) u ↔ Closed ttl log u := by
  simp [Closed]

/-- An answer is no decision: the latest decision stays the latest. -/
theorem latest_append_answered {log : List Note} {i j : Nat} {o o' : Outcome BidResult}
    {t t' : Instant} : Latest ttl (log ++ [.answered j o' t']) i o t ↔ Latest ttl log i o t := by
  simp [Latest]

/-- Once the latest decision's window has closed at `u`, every decision's has. -/
theorem Latest.closed {log : List Note} {i : Nat} {o : Outcome BidResult} {t u : Instant}
    (hl : Latest ttl log i o t) (ht : t.add ttl ≤ u) (htu : t ≤ u) : Closed ttl log u := by
  intro j o' t' hd
  rcases hl j o' t' hd with ⟨-, -, rfl⟩ | hlt
  · exact ht
  · exact Int.le_trans hlt htu

end Log

/-- What every reachable pool on the key `k` satisfies. -/
structure Inv (k : String) (p : Pool) : Prop where
  local_store : p.house.settings.store = some .inProcess
  timely : p.Timely
  /-- At most one call holds the key. -/
  exclusive : ∀ i j s s', (p.turns i).since? = some s → (p.turns j).since? = some s' → i = j
  /-- A call holding the key has its reservation in the store. -/
  held : ∀ i s, (p.turns i).since? = some s →
    p.entry k = some ⟨none, s.add p.house.settings.lockTtl⟩ ∧ s ≤ p.house.now
  /-- A reservation in the store is a call's. -/
  pending : ∀ x, p.entry k = some ⟨none, x⟩ → ∃ i s, (p.turns i).since? = some s
  /-- A call reserved the key only once every decision was `ttl` in the past. -/
  holding : ∀ i s, p.turns i = .holding s → Closed p.ttl p.log s
  /-- A decided run is the latest decision, made after its reservation. -/
  ran_decided : ∀ i s o, p.turns i = .ran s o → isDecided o = true →
    ∃ t, s ≤ t ∧ t ≤ p.house.now ∧ Note.decided i o t ∈ p.log ∧ Latest p.ttl p.log i o t
  /-- An undecided run found every decision `ttl` in the past. -/
  ran_undecided : ∀ i s o, p.turns i = .ran s o → isDecided o = false → Closed p.ttl p.log s
  /-- With no entry for the key, every decision is `ttl` in the past. -/
  free : p.entry k = none → Closed p.ttl p.log p.house.now
  /-- A stored outcome is the latest decision's, kept for at least `ttl` after it. -/
  stored : ∀ text x, p.entry k = some ⟨some text, x⟩ →
    ∃ i o t, text = storedText o ∧ t.add p.ttl ≤ x ∧ t ≤ p.house.now ∧
      Note.decided i o t ∈ p.log ∧ Latest p.ttl p.log i o t
  /-- Two decisions are at least `ttl` apart. -/
  spaced : ∀ i o t j o' t', List.Sublist [Note.decided i o t, Note.decided j o' t'] p.log →
    t.add p.ttl ≤ t'
  /-- An answer less than `ttl` after a decision is its outcome, its replay, or in flight. -/
  answers : ∀ i o t j o' t', List.Sublist [Note.decided i o t, Note.answered j o' t'] p.log →
    t' < t.add p.ttl → (j = i ∧ o' = o) ∨ o' = replay (storedText o) ∨ o' = ⟨none, some inFlight⟩
  /-- Only decided outcomes are noted as decisions. -/
  logged : ∀ i o t, Note.decided i o t ∈ p.log → isDecided o = true

end Pool

namespace Pool

/-- Answering leaves the house the call left. -/
@[simp] theorem answer_house (p : Pool) (i : Nat) (o : Outcome BidResult) (h : House) :
    (p.answer i o h).house = h := rfl

/-- Answering notes the answer, at the house's time. -/
@[simp] theorem answer_log (p : Pool) (i : Nat) (o : Outcome BidResult) (h : House) :
    (p.answer i o h).log = p.log ++ [.answered i o p.house.now] := rfl

/-- A call that answered has returned its outcome. -/
@[simp] theorem answer_turns_self (p : Pool) (i : Nat) (o : Outcome BidResult) (h : House) :
    (p.answer i o h).turns i = .returned o := by
  simp [answer]

/-- Answering one call leaves every other call's turn. -/
theorem answer_turns_of_ne (p : Pool) {i j : Nat} (o : Outcome BidResult) (h : House)
    (hj : j ≠ i) : (p.answer i o h).turns j = p.turns j :=
  Function.update_of_ne hj _ _

/-- A call that answered holds nothing; the others hold what they held. -/
theorem since?_answer {p : Pool} {i j : Nat} {o : Outcome BidResult} {h : House} {s : Instant}
    (hj : ((p.answer i o h).turns j).since? = some s) : j ≠ i ∧ (p.turns j).since? = some s := by
  by_cases hji : j = i
  · subst hji
    simp [Turn.since?] at hj
  · rw [answer_turns_of_ne p o h hji] at hj
    exact ⟨hji, hj⟩

/-- An answer appended to the log adds no decision. -/
@[simp] theorem decided_mem_append_answered {log : List Note} {i j : Nat}
    {o o' : Outcome BidResult} {t t' : Instant} :
    Note.decided i o t ∈ log ++ [.answered j o' t'] ↔ Note.decided i o t ∈ log := by
  simp

/-- A decision never sits at the place of an answer appended to the log. -/
theorem decided_pair_append_answered {log : List Note} {a : Note} {i j : Nat}
    {o o' : Outcome BidResult} {t t' : Instant}
    (hs : List.Sublist [a, .decided i o t] (log ++ [.answered j o' t'])) :
    List.Sublist [a, .decided i o t] log := by
  rcases pair_sublist_append_singleton.mp hs with hs | ⟨-, he⟩
  · exact hs
  · cases he

/-- No call has started: every field holds at once, since the log is empty, nobody holds the
key and the key has no entry. -/
theorem Inv.start {k : String} {h : House} (hs : h.settings.store = some .inProcess)
    (hk : h.store.entries.find? k = none) : Inv k (start h) := by
  refine ⟨hs, ?_, ?_, ?_, ?_, ?_, ?_, ?_, ?_, ?_, ?_, ?_, ?_⟩
  · intro i s hi
    simp [Pool.start, Turn.since?] at hi
  · intro i j s s' hi
    simp [Pool.start, Turn.since?] at hi
  · intro i s hi
    simp [Pool.start, Turn.since?] at hi
  · intro x hx
    simp [Pool.start, entry, hk] at hx
  · intro i s hi
    cases hi
  · intro i s o hi
    cases hi
  · intro i s o hi
    cases hi
  · intro _ i o t hd
    simp [Pool.start] at hd
  · intro text x hx
    simp [Pool.start, entry, hk] at hx
  · intro i o t j o' t' hs
    simp [Pool.start] at hs
  · intro i o t j o' t' hs
    simp [Pool.start] at hs
  · intro i o t hd
    simp [Pool.start] at hd

/-- A call that had not started answers at once, the house as it was, with an outcome that fits
every decision whose window is still open. -/
theorem Inv.answer_ready {k : String} {p : Pool} {i : Nat} {o' : Outcome BidResult}
    (hinv : Inv k p) (hi : p.turns i = .ready) (ht : (p.answer i o' p.house).Timely)
    (hfit : ∀ j o t, Note.decided j o t ∈ p.log → p.house.now < t.add p.ttl →
      o' = replay (storedText o) ∨ o' = ⟨none, some inFlight⟩) :
    Inv k (p.answer i o' p.house) := by
  have hturn : ∀ j t, (p.answer i o' p.house).turns j = t → t ≠ .returned o' → p.turns j = t := by
    intro j t hj ht'
    by_cases hji : j = i
    · subst hji
      simp only [answer_turns_self] at hj
      exact absurd hj.symm ht'
    · rwa [answer_turns_of_ne p o' _ hji] at hj
  refine ⟨hinv.local_store, ht, ?_, ?_, ?_, ?_, ?_, ?_, ?_, ?_, ?_, ?_, ?_⟩
  · intro a b s s' ha hb
    exact hinv.exclusive a b s s' (since?_answer ha).2 (since?_answer hb).2
  · intro a s ha
    exact hinv.held a s (since?_answer ha).2
  · intro x hx
    obtain ⟨j, s, hj⟩ := hinv.pending x hx
    have hji : j ≠ i := by
      rintro rfl
      simp [hi, Turn.since?] at hj
    exact ⟨j, s, by rwa [answer_turns_of_ne p o' _ hji]⟩
  · intro a s ha
    exact closed_append_answered.mpr (hinv.holding a s (hturn a _ ha nofun))
  · intro a s o ha hd
    obtain ⟨t, hst, htn, hm, hl⟩ := hinv.ran_decided a s o (hturn a _ ha nofun) hd
    exact ⟨t, hst, htn, decided_mem_append_answered.mpr hm, latest_append_answered.mpr hl⟩
  · intro a s o ha hd
    exact closed_append_answered.mpr (hinv.ran_undecided a s o (hturn a _ ha nofun) hd)
  · intro he
    exact closed_append_answered.mpr (hinv.free he)
  · intro text x he
    obtain ⟨j, o, t, htext, hx, htn, hm, hl⟩ := hinv.stored text x he
    exact ⟨j, o, t, htext, hx, htn, decided_mem_append_answered.mpr hm,
      latest_append_answered.mpr hl⟩
  · intro a o t b o₂ t₂ hab
    exact hinv.spaced a o t b o₂ t₂ (decided_pair_append_answered hab)
  · intro a o t b o₂ t₂ hab hlt
    rcases pair_sublist_append_singleton.mp hab with hab | ⟨hd, he⟩
    · exact hinv.answers a o t b o₂ t₂ hab hlt
    · cases he
      exact .inr (hfit a o t hd hlt)
  · intro a o t hd
    exact hinv.logged a o t (decided_mem_append_answered.mp hd)

end Pool

namespace Pool

/-- A call holding the key has a live reservation, so a key whose entry is over is held by
nobody. -/
theorem Inv.no_holder {k : String} {p : Pool} (hinv : Inv k p)
    (hover : ∀ e, p.entry k = some e → e.expiresAt ≤ p.house.now) (j : Nat) :
    (p.turns j).since? = none := by
  cases hj : (p.turns j).since? with
  | none => rfl
  | some s =>
    have hlive := hinv.timely j s hj
    have hover := hover _ (hinv.held j s hj).1
    exact absurd (Int.lt_of_lt_of_le hlive hover) (Int.lt_irrefl _)

/-- When the entry of the key is over or missing, every decision's window has closed. -/
theorem Inv.closed_of_over {k : String} {p : Pool} (hinv : Inv k p)
    (hover : ∀ e, p.entry k = some e → e.expiresAt ≤ p.house.now) :
    Closed p.ttl p.log p.house.now := by
  rcases he : p.entry k with _ | ⟨_ | text, x⟩
  · exact hinv.free he
  · obtain ⟨j, s, hj⟩ := hinv.pending x he
    rw [hinv.no_holder hover j] at hj
    cases hj
  · obtain ⟨i, o, t, -, hx, htn, -, hl⟩ := hinv.stored text x he
    exact hl.closed (Int.le_trans hx (hover _ he)) htn

/-- A call takes a key that nobody holds and whose entry is over or missing. -/
theorem Inv.take {k : String} {p : Pool} {i : Nat} {s' : LocalStore} (hinv : Inv k p)
    (hi : p.turns i = .ready)
    (hs' : s'.entries.find? k = some ⟨none, p.house.now.add p.house.settings.lockTtl⟩)
    (hover : ∀ e, p.entry k = some e → e.expiresAt ≤ p.house.now)
    (ht : (⟨{ p.house with store := s' }, Function.update p.turns i (.holding p.house.now),
      p.log⟩ : Pool).Timely) :
    Inv k ⟨{ p.house with store := s' }, Function.update p.turns i (.holding p.house.now),
      p.log⟩ := by
  have hnone := hinv.no_holder hover
  have hsince : ∀ j s, (Function.update p.turns i (.holding p.house.now) j).since? = some s →
      j = i ∧ s = p.house.now := by
    intro j s hj
    rw [since?_update] at hj
    split at hj
    · exact ⟨‹_›, (Option.some.inj hj).symm⟩
    · rw [hnone j] at hj
      cases hj
  have hother : ∀ j t, Function.update p.turns i (.holding p.house.now) j = t → t.since?.isSome →
      j = i := by
    intro j t hj ht'
    obtain ⟨s, hs⟩ := Option.isSome_iff_exists.mp ht'
    exact (hsince j s (hj ▸ hs)).1
  refine ⟨hinv.local_store, ht, ?_, ?_, ?_, ?_, ?_, ?_, ?_, ?_, ?_, ?_, hinv.logged⟩
  · intro a b s s₂ ha hb
    rw [(hsince a s ha).1, (hsince b s₂ hb).1]
  · intro a s ha
    obtain ⟨-, rfl⟩ := hsince a s ha
    exact ⟨hs', Int.le_refl _⟩
  · intro x _
    exact ⟨i, p.house.now, by simp [Turn.since?]⟩
  · intro a s ha
    obtain rfl := hother a _ ha rfl
    simp only [Function.update_self, Turn.holding.injEq] at ha
    subst ha
    exact hinv.closed_of_over hover
  · intro a s o ha
    obtain rfl := hother a _ ha rfl
    simp at ha
  · intro a s o ha
    obtain rfl := hother a _ ha rfl
    simp at ha
  · intro he
    simp [entry, hs'] at he
  · intro text x he
    simp [entry, hs'] at he
  · exact hinv.spaced
  · exact hinv.answers

/-- The placement of the call holding the key ends with `o`; a decided `o` is noted as the
latest decision. -/
theorem Inv.run {k : String} {p : Pool} {i : Nat} {s : Instant} {o : Outcome BidResult}
    (hinv : Inv k p) (hi : p.turns i = .holding s)
    (ht : (⟨p.house, Function.update p.turns i (.ran s o), p.noteRun i o⟩ : Pool).Timely) :
    Inv k ⟨p.house, Function.update p.turns i (.ran s o), p.noteRun i o⟩ := by
  have hsi : (p.turns i).since? = some s := by simp [hi, Turn.since?]
  have hsince : ∀ j, (Function.update p.turns i (.ran s o) j).since? = (p.turns j).since? := by
    intro j
    rw [since?_update]
    split
    · subst j
      rw [hsi]
      rfl
    · rfl
  have hother : ∀ j t, Function.update p.turns i (.ran s o) j = t → t.since?.isSome → j = i := by
    intro j t hj ht'
    obtain ⟨s', hs'⟩ := Option.isSome_iff_exists.mp ht'
    rw [← hj, hsince] at hs'
    exact hinv.exclusive j i s' s hs' hsi
  have hclosed := hinv.holding i s hi
  have hs := (hinv.held i s hsi).2
  have hentry : p.house.store.entries.find? k = some ⟨none, s.add p.house.settings.lockTtl⟩ :=
    (hinv.held i s hsi).1
  refine ⟨hinv.local_store, ht, ?_, ?_, ?_, ?_, ?_, ?_, ?_, ?_, ?_, ?_, ?_⟩
  · intro a b s₁ s₂ ha hb
    rw [hsince] at ha hb
    exact hinv.exclusive a b s₁ s₂ ha hb
  · intro a s₁ ha
    rw [hsince] at ha
    exact hinv.held a s₁ ha
  · intro x hx
    obtain ⟨j, s₁, hj⟩ := hinv.pending x hx
    exact ⟨j, s₁, by rw [hsince]; exact hj⟩
  · intro a s₁ ha
    obtain rfl := hother a _ ha rfl
    simp at ha
  · intro a s₁ o₁ ha hd
    obtain rfl := hother a _ ha rfl
    simp only [Function.update_self, Turn.ran.injEq] at ha
    obtain ⟨rfl, rfl⟩ := ha
    refine ⟨p.house.now, hs, Int.le_refl _, by simp [noteRun, hd], ?_⟩
    intro j o' t' hd'
    simp only [noteRun, hd, if_true, List.mem_append, List.mem_singleton, Note.decided.injEq] at hd'
    rcases hd' with hd' | ⟨rfl, rfl, rfl⟩
    · exact .inr (Int.le_trans (hclosed j o' t' hd') hs)
    · exact .inl ⟨rfl, rfl, rfl⟩
  · intro a s₁ o₁ ha hd
    obtain rfl := hother a _ ha rfl
    simp only [Function.update_self, Turn.ran.injEq] at ha
    obtain ⟨rfl, rfl⟩ := ha
    have hlog : p.noteRun a o = p.log := by simp [noteRun, hd]
    show Closed p.ttl (p.noteRun a o) s
    rw [hlog]
    exact hclosed
  · intro he
    simp [entry, hentry] at he
  · intro text x he
    simp [entry, hentry] at he
  · intro a o₁ t b o₂ t₂ hab
    unfold noteRun at hab
    split at hab
    · rcases pair_sublist_append_singleton.mp hab with hab | ⟨hd, he⟩
      · exact hinv.spaced a o₁ t b o₂ t₂ hab
      · cases he
        exact Int.le_trans (hclosed a o₁ t hd) hs
    · exact hinv.spaced a o₁ t b o₂ t₂ hab
  · intro a o₁ t b o₂ t₂ hab
    unfold noteRun at hab
    split at hab
    · rcases pair_sublist_append_singleton.mp hab with hab | ⟨-, he⟩
      · exact hinv.answers a o₁ t b o₂ t₂ hab
      · cases he
    · exact hinv.answers a o₁ t b o₂ t₂ hab
  · intro a o₁ t hm
    unfold noteRun at hm
    split at hm
    · rcases List.mem_append.mp hm with hm | hm
      · exact hinv.logged a o₁ t hm
      · simp only [List.mem_singleton, Note.decided.injEq] at hm
        obtain ⟨-, rfl, -⟩ := hm
        assumption
    · exact hinv.logged a o₁ t hm

end Pool

namespace Pool

/-- The call holding the key answers with the outcome of its run, after storing it if it is
decided and freeing the key otherwise: `h'` is the house it leaves. -/
theorem Inv.settle {k : String} {p : Pool} {i : Nat} {s : Instant} {o : Outcome BidResult}
    {h' : House} (hinv : Inv k p) (hi : p.turns i = .ran s o)
    (hset : h'.settings = p.house.settings) (hnow : h'.now = p.house.now)
    (hentry' : h'.store.entries.find? k =
      if isDecided o then some ⟨some (storedText o), p.house.now.add p.ttl⟩ else none)
    (ht : (p.answer i o h').Timely) : Inv k (p.answer i o h') := by
  have hsi : (p.turns i).since? = some s := by simp [hi, Turn.since?]
  have hs := (hinv.held i s hsi).2
  have httl : (p.answer i o h').ttl = p.ttl := by simp [ttl, hset]
  have hfree : ∀ a t, (p.answer i o h').turns a = t → t.since?.isSome → False := by
    intro a t ha ht'
    obtain ⟨s', hs'⟩ := Option.isSome_iff_exists.mp ht'
    obtain ⟨hai, hold⟩ := since?_answer (ha ▸ hs')
    exact hai (hinv.exclusive a i s' s hold hsi)
  refine ⟨by simpa [hset] using hinv.local_store, ht, ?_, ?_, ?_, ?_, ?_, ?_, ?_, ?_, ?_, ?_, ?_⟩
  · intro a b s₁ s₂ ha _
    exact (hfree a _ rfl (by simp [ha])).elim
  · intro a s₁ ha
    exact (hfree a _ rfl (by simp [ha])).elim
  · intro x hx
    simp only [entry, answer_house, hentry'] at hx
    split at hx <;> simp at hx
  · intro a s₁ ha
    exact (hfree a _ ha rfl).elim
  · intro a s₁ o₁ ha
    exact (hfree a _ ha rfl).elim
  · intro a s₁ o₁ ha
    exact (hfree a _ ha rfl).elim
  · intro he
    simp only [entry, answer_house, hentry'] at he
    split at he
    · simp at he
    · rename_i hd
      rw [httl, answer_house, hnow]
      exact closed_append_answered.mpr
        ((hinv.ran_undecided i s o hi (Bool.eq_false_iff.mpr hd)).mono hs)
  · intro text x he
    simp only [entry, answer_house, hentry'] at he
    split at he
    · rename_i hd
      simp only [Option.some.injEq, StoreEntry.mk.injEq] at he
      obtain ⟨rfl, rfl⟩ := he
      obtain ⟨t, -, htn, hm, hl⟩ := hinv.ran_decided i s o hi hd
      rw [httl, answer_house, hnow]
      exact ⟨i, o, t, rfl, Int.add_le_add_right htn _, htn, decided_mem_append_answered.mpr hm,
        latest_append_answered.mpr hl⟩
    · simp at he
  · intro a o₁ t b o₂ t₂ hab
    rw [httl]
    exact hinv.spaced a o₁ t b o₂ t₂ (decided_pair_append_answered hab)
  · intro a o₁ t₁ b o₂ t₂ hab hlt
    rw [httl] at hlt
    rcases pair_sublist_append_singleton.mp hab with hab | ⟨hd₁, he⟩
    · exact hinv.answers a o₁ t₁ b o₂ t₂ hab hlt
    · simp only [Note.answered.injEq] at he
      obtain ⟨rfl, rfl, rfl⟩ := he
      by_cases hd : isDecided o₂
      · obtain ⟨t, -, htn, -, hl⟩ := hinv.ran_decided b s o₂ hi hd
        rcases hl a o₁ t₁ hd₁ with ⟨rfl, rfl, -⟩ | hclosed
        · exact .inl ⟨rfl, rfl⟩
        · exact absurd (Int.lt_of_lt_of_le hlt (Int.le_trans hclosed htn)) (Int.lt_irrefl _)
      · have hclosed := hinv.ran_undecided b s o₂ hi (Bool.eq_false_iff.mpr hd) a o₁ t₁ hd₁
        exact absurd (Int.lt_of_lt_of_le hlt (Int.le_trans hclosed hs)) (Int.lt_irrefl _)
  · intro a o₁ t hm
    exact hinv.logged a o₁ t (decided_mem_append_answered.mp hm)

/-- Anything else happening to the house keeps the invariant: the settings and the entry of the
key stay, and the clock only moves on. -/
theorem Inv.other {k : String} {p : Pool} {h : House} (hinv : Inv k p)
    (hset : h.settings = p.house.settings) (hentry : h.store.entries.find? k = p.entry k)
    (hnow : p.house.now ≤ h.now) (ht : ({ p with house := h } : Pool).Timely) :
    Inv k { p with house := h } := by
  have httl : ({ p with house := h } : Pool).ttl = p.ttl := by simp [ttl, hset]
  have he : ({ p with house := h } : Pool).entry k = p.entry k := hentry
  refine ⟨by simpa [hset] using hinv.local_store, ht, hinv.exclusive, ?_, ?_, ?_, ?_, ?_, ?_, ?_,
    ?_, ?_, hinv.logged⟩
  · intro a s ha
    obtain ⟨hx, hs⟩ := hinv.held a s ha
    exact ⟨by rw [he, hx, hset], Int.le_trans hs hnow⟩
  · intro x hx
    exact hinv.pending x (he ▸ hx)
  · intro a s ha
    rw [httl]
    exact hinv.holding a s ha
  · intro a s o ha hd
    obtain ⟨t, hst, htn, hm, hl⟩ := hinv.ran_decided a s o ha hd
    exact ⟨t, hst, Int.le_trans htn hnow, hm, httl ▸ hl⟩
  · intro a s o ha hd
    rw [httl]
    exact hinv.ran_undecided a s o ha hd
  · intro hx
    rw [httl]
    exact (hinv.free (he ▸ hx)).mono hnow
  · intro text x hx
    obtain ⟨i, o, t, htext, hxt, htn, hm, hl⟩ := hinv.stored text x (he ▸ hx)
    exact ⟨i, o, t, htext, httl ▸ hxt, Int.le_trans htn hnow, hm, httl ▸ hl⟩
  · rw [httl]
    exact hinv.spaced
  · rw [httl]
    exact hinv.answers

/-- A call that has not started gets `idempotencyInFlight` when another one holds the key. -/
theorem refusal_inFlight : refusal inFlight = ⟨none, some inFlight⟩ := rfl

/-- One step of a pool keeps the invariant, as long as it leads to a timely pool. -/
theorem Inv.step {k : String} {p q : Pool} (hinv : Inv k p) (hs : Step k p q) (ht : q.Timely) :
    Inv k q := by
  cases hs with
  | reserve hi =>
    rw [reserve_run_local hinv.local_store] at ht ⊢
    rcases hr : p.house.store.reserve k p.house.settings.lockTtl p.house.now with f | ⟨r, s'⟩
    · obtain ⟨rfl, -⟩ := LocalStore.reserve_error hr
      simp only [hr, afterReserve] at ht ⊢
      exact hinv.answer_ready hi ht fun _ _ _ _ _ => .inr refusal_inFlight
    · rcases LocalStore.reserve_cases hr with ⟨rfl, hs', hover⟩ | ⟨text, x, rfl, rfl, hx, hlive⟩
      · simp only [hr, afterReserve] at ht ⊢
        exact hinv.take hi hs' hover ht
      · simp only [hr, afterReserve] at ht ⊢
        obtain ⟨i₀, o₀, t₀, rfl, -, htn, -, hl⟩ := hinv.stored _ x hx
        refine hinv.answer_ready hi ht fun j o t hd hlt => ?_
        rcases hl j o t hd with ⟨-, rfl, -⟩ | hclosed
        · exact .inl rfl
        · exact absurd (Int.lt_of_lt_of_le hlt (Int.le_trans hclosed htn)) (Int.lt_irrefl _)
  | run o hi => exact hinv.run hi ht
  | @settle i s o hi =>
    rw [settle_run_local hinv.local_store] at ht ⊢
    have hsi : (p.turns i).since? = some s := by simp [hi, Turn.since?]
    refine hinv.settle hi rfl rfl ?_ ht
    split
    · exact LocalStore.find?_complete _ _ _ _ _
    · exact LocalStore.find?_release_of_pending (hinv.held i s hsi).1
  | other hset hentry hnow => exact hinv.other hset hentry hnow ht

/-- Every pool that calls on a fresh key reach, with the store in the process, satisfies the
invariant. -/
theorem Reachable.inv {k : String} {h : House} {p : Pool} (hs : h.settings.store = some .inProcess)
    (hk : h.store.entries.find? k = none) (hp : Reachable k h p) : Inv k p := by
  induction hp with
  | refl => exact Inv.start hs hk
  | tail _ hstep ih => exact ih.step hstep.1 hstep.2

/-! ### What the calls on one key see -/

/-- What the guard promises of calls on the key `k`: a decision is never followed by another
within `ttl`; the key only ever keeps the text of an outcome noted as decided; and an answer
given within `ttl` of a decision is that decision (to the call that made it), an answer a caller
cannot tell from it (when the outcome can be stored), or `idempotencyInFlight`. -/
structure Guarded (k : String) (p : Pool) : Prop where
  decides_once : ∀ i o t j o' t', List.Sublist [Note.decided i o t, Note.decided j o' t'] p.log →
    t.add p.ttl ≤ t'
  stores_decided : ∀ text x, p.entry k = some ⟨some text, x⟩ →
    ∃ i o t, Note.decided i o t ∈ p.log ∧ isDecided o = true ∧ text = storedText o
  answers_decision : ∀ i o t j o' t',
    List.Sublist [Note.decided i o t, Note.answered j o' t'] p.log → t' < t.add p.ttl →
    o.Storable → (j = i ∧ o' = o) ∨ o'.Replays o ∨ o' = ⟨none, some inFlight⟩

/-- Calls on a fresh key of a store in the process, under any interleaving in which every call
ends its run before its lock time is over, get what the guard promises. -/
theorem guarded_calls_decide_once {k : String} {h : House} {p : Pool}
    (hs : h.settings.store = some .inProcess) (hk : h.store.entries.find? k = none)
    (hp : Reachable k h p) : Guarded k p := by
  have hinv := hp.inv hs hk
  refine ⟨hinv.spaced, ?_, ?_⟩
  · intro text x he
    obtain ⟨i, o, t, rfl, -, -, hm, -⟩ := hinv.stored text x he
    exact ⟨i, o, t, hm, hinv.logged i o t hm, rfl⟩
  · intro i o t j o' t' hab hlt ho
    rcases hinv.answers i o t j o' t' hab hlt with hown | rfl | hfl
    · exact .inl hown
    · exact .inr (.inl (replays_storedText o ho))
    · exact .inr (.inr hfl)

/-! ### A run of two calls

Call 0 takes the key, its placement is refused as too low, and it stores that refusal; call 1
then finds the refusal and replays it. -/

/-- Settings with the store in the process, locks of 30 ns and outcomes kept for 60 ns. -/
def guardedSettings : Settings :=
  { (default : Settings) with store := some .inProcess, lockTtl := ⟨30⟩, idempotencyTtl := ⟨60⟩ }

/-- A default house with those settings. -/
def guardedHouse : House := { (default : House) with settings := guardedSettings }

/-- A refusal of a bid below the minimum: a decided outcome. -/
def refusedTooLow : Outcome BidResult := ⟨none, some (.bid (BidError.standard .bidTooLow))⟩

/-- Call 0 has reserved the key. -/
def firstReserved : Pool :=
  (start guardedHouse).afterReserve 0 (((Guard.reserve "k").run Hooks.quiet).run guardedHouse)

/-- Call 0's placement ended with the refusal. -/
def firstRan : Pool :=
  ⟨firstReserved.house, Function.update firstReserved.turns 0
    (.ran firstReserved.house.now refusedTooLow), firstReserved.noteRun 0 refusedTooLow⟩

/-- Call 0 stored the refusal and answered with it. -/
def firstAnswered : Pool :=
  firstRan.answer 0 (((Guard.settle "k" refusedTooLow).run Hooks.quiet).run firstRan.house).1
    (((Guard.settle "k" refusedTooLow).run Hooks.quiet).run firstRan.house).2

/-- Call 1 found the stored refusal and answered with its replay. -/
def secondReplayed : Pool :=
  firstAnswered.afterReserve 1 (((Guard.reserve "k").run Hooks.quiet).run firstAnswered.house)

/-- After its reservation, call 0 holds the key since time zero, and every other call is ready. -/
theorem firstReserved_turns :
    firstReserved.turns = Function.update (fun _ => .ready) 0 (.holding ⟨0, 0⟩) := rfl

/-- Call 0 reserved within its lock time. -/
theorem firstReserved_timely : firstReserved.Timely := by
  intro i s hs
  rw [firstReserved_turns, since?_update] at hs
  split at hs
  · cases hs
    decide
  · cases hs

/-- Call 0's placement ended within its lock time. -/
theorem firstRan_timely : firstRan.Timely := by
  intro i s hs
  rw [firstRan, since?_update] at hs
  split at hs
  · cases hs
    decide
  · exact firstReserved_timely i s hs

/-- Once the call that decided answered, nobody holds the key. -/
theorem firstAnswered_since? (i : Nat) : (firstAnswered.turns i).since? = none := by
  rw [firstAnswered, answer, since?_update, firstRan, since?_update, firstReserved_turns,
    since?_update]
  split_ifs <;> rfl

/-- Nobody holds the key once call 0 answered. -/
theorem firstAnswered_timely : firstAnswered.Timely := by
  intro i s hs
  rw [firstAnswered_since?] at hs
  cases hs

/-- The second call answers with the replay of the stored refusal. -/
theorem secondReplayed_turns :
    secondReplayed.turns =
      Function.update firstAnswered.turns 1 (.returned (replay (storedText refusedTooLow))) :=
  rfl

/-- Nobody holds the key once call 1 answered. -/
theorem secondReplayed_timely : secondReplayed.Timely := by
  intro i s hs
  rw [secondReplayed_turns, since?_update, firstAnswered_since?] at hs
  split at hs <;> cases hs

/-- The four steps reach the pool where call 1 replayed call 0's refusal. -/
theorem secondReplayed_reachable : Reachable "k" guardedHouse secondReplayed :=
  .tail (.tail (.tail (.single ⟨.reserve rfl, firstReserved_timely⟩)
    ⟨.run refusedTooLow rfl, firstRan_timely⟩) ⟨.settle rfl, firstAnswered_timely⟩)
    ⟨.reserve rfl, secondReplayed_timely⟩

/-- In the run of the two calls on one key, the key was decided once and call 1 answered with the
replay of call 0's decision. -/
theorem guarded_calls_decide_once_replayed :
    Reachable "k" guardedHouse secondReplayed ∧ Guarded "k" secondReplayed :=
  ⟨secondReplayed_reachable, guarded_calls_decide_once rfl rfl secondReplayed_reachable⟩

end Pool

end Guard

end Auction
