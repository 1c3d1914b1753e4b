import Mathlib.Data.List.Nodup
import Auction.House.Store

/-!
# Expiry in the store in the process, and why purging cannot be seen

A key of the store in the process is live at `now` while `now` is before the instant its entry
expires at (`LocalStore.liveAt`), and a reservation decides by the live entry alone
(`LocalStore.reserve_eq`): none frees the key, a held key refuses, a stored outcome is handed
back. Time only runs forward, so an entry dead at `t` stays dead later (`liveAt_of_le`).

`LocalStore.purge` at `now` keeps exactly the live entries (`find?_purge`) and returns how many
it dropped. Two stores with the same live entries at `t` (`Alike`) answer every call at `t`
alike and stay alike (`Alike.call`), and a purge keeps a store alike to itself
(`alike_purge`). By induction over timed steps with non-decreasing times, purges inserted
anywhere into a sequence of reservations, completions and releases change none of their
answers (`purging_is_unobservable`); only the number of entries differs.

The calls and their runs are stated once here for any store (`StoreCall`, `runTimed`), so that
the store on the shared server can be run on the same sequences.
-/

namespace Auction

/-! ### Tables whose keys are unique -/

namespace Table

variable {α : Type}

/-- With unique keys, an entry of the table is what its key reads. -/
theorem find?_of_mem {t : Table α} (h : t.keys.Nodup) {k : String} {v : α}
    (hmem : (k, v) ∈ t.entries) : t.find? k = some v := by
  unfold find?
  obtain ⟨pre, post, hsplit⟩ := List.append_of_mem hmem
  have hpre : ∀ e ∈ pre, e.1 ≠ k := by
    intro e he hek
    rw [keys, hsplit, List.map_append, List.map_cons] at h
    exact List.disjoint_of_nodup_append h (List.mem_map_of_mem he) (hek ▸ List.mem_cons_self)
  rw [hsplit, List.find?_append, List.find?_eq_none.mpr (by simpa using hpre), Option.none_or,
    List.find?_cons_of_pos (by simp)]
  rfl

/-- With unique keys, keeping the entries whose value passes a test reads each key through the
test. -/
theorem find?_filter {t : Table α} (h : t.keys.Nodup) (p : α → Bool) (k : String) :
    (⟨t.entries.filter fun e => p e.2⟩ : Table α).find? k = (t.find? k).filter p := by
  cases hk : t.find? k with
  | none =>
    have hnone : ∀ e ∈ t.entries, e.1 ≠ k := by
      unfold find? at hk
      simpa using List.find?_eq_none.mp (Option.map_eq_none_iff.mp hk)
    unfold find?
    rw [List.find?_eq_none.mpr fun e he => by simpa using hnone e (List.mem_filter.mp he).1]
    rfl
  | some v =>
    have hmem : (k, v) ∈ t.entries := by
      unfold find? at hk
      obtain ⟨e, he, rfl⟩ := Option.map_eq_some_iff.mp hk
      have hek : e.1 = k := by simpa using List.find?_some he
      exact hek ▸ List.mem_of_find?_eq_some he
    have hsub : (t.entries.filter fun e => p e.2).map (·.1) |>.Nodup :=
      (List.Sublist.map _ List.filter_sublist).nodup h
    by_cases hp : p v = true
    · rw [Option.filter_some, if_pos hp]
      exact find?_of_mem hsub (List.mem_filter.mpr ⟨hmem, hp⟩)
    · rw [Option.filter_some, if_neg hp]
      unfold find?
      rw [Option.map_eq_none_iff, List.find?_eq_none]
      intro e he hek
      have hek' : e.1 = k := by simpa using hek
      obtain ⟨he, hpe⟩ := List.mem_filter.mp he
      have hev : e.2 = v := Option.some.inj ((find?_of_mem h (hek' ▸ he)).symm.trans hk)
      exact hp (hev ▸ hpe)

/-- Writing a key keeps the keys distinct. -/
theorem keys_insert_nodup {t : Table α} (h : t.keys.Nodup) (k : String) (v : α) :
    (t.insert k v).keys.Nodup := by
  unfold insert keys
  split
  · convert h using 1
    rw [keys, List.map_map]
    congr 1
    funext e
    simp only [Function.comp]
    split <;> rfl
  · rename_i hc
    rw [List.map_append, List.nodup_append]
    refine ⟨h, List.nodup_singleton _, ?_⟩
    intro a ha b hb hab
    rw [List.mem_singleton.mp hb] at hab
    exact hc (List.any_eq_true.mpr (by
      obtain ⟨e, he, rfl⟩ := List.mem_map.mp ha
      exact ⟨e, he, by simpa using hab⟩))

/-- Erasing a key keeps the keys distinct. -/
theorem keys_erase_nodup {t : Table α} (h : t.keys.Nodup) (k : String) : (t.erase k).keys.Nodup :=
  (List.Sublist.map _ List.filter_sublist).nodup h

end Table

/-! ### Calls on an idempotency store, and runs of them -/

/-- One call on an idempotency store. -/
inductive StoreCall where
  /-- Reserves a key for a lock time. -/
  | reserve (key : String) (lockTtl : Duration)
  /-- Stores an outcome under a key for a time. -/
  | complete (key payload : String) (ttl : Duration)
  /-- Frees a reservation. -/
  | release (key : String)

/-- Runs timed steps one after another, collecting their answers in order. -/
def runTimed {σ ι α : Type} (step : σ → Instant → ι → α × σ) : σ → List (Instant × ι) → List α × σ
  | s, [] => ([], s)
  | s, (t, c) :: rest =>
    let r := step s t c
    let out := runTimed step r.2 rest
    (r.1 :: out.1, out.2)

/-- No steps answer nothing and leave the state. -/
@[simp] theorem runTimed_nil {σ ι α : Type} (step : σ → Instant → ι → α × σ) (s : σ) :
    runTimed step s [] = ([], s) := rfl

/-- The answers of timed steps are the first step's answer, then those of the rest from the state it
left. -/
@[simp] theorem runTimed_cons_fst {σ ι α : Type} (step : σ → Instant → ι → α × σ) (s : σ)
    (t : Instant) (c : ι) (rest : List (Instant × ι)) :
    (runTimed step s ((t, c) :: rest)).1 = (step s t c).1 :: (runTimed step (step s t c).2 rest).1 :=
  rfl

namespace LocalStore

/-- A call on the store in the process at `now`. A refused reservation changes nothing;
completing and freeing answer nothing. -/
def call (s : LocalStore) (now : Instant) : StoreCall → Except Fault (Option Reservation) × LocalStore
  | .reserve k lockTtl =>
    match s.reserve k lockTtl now with
    | .ok (r, s') => (.ok (some r), s')
    | .error f => (.error f, s)
  | .complete k payload ttl => (.ok none, s.complete k payload ttl now)
  | .release k => (.ok none, s.release k)

/-- The entry of a key that a reservation at `now` sees: the stored one while it lasts. -/
def liveAt (s : LocalStore) (now : Instant) (k : String) : Option StoreEntry :=
  (s.entries.find? k).filter fun e => decide (now < e.expiresAt)

variable {s : LocalStore} {now : Instant}

/-- A reservation decides by the live entry of its key alone. -/
theorem reserve_eq (s : LocalStore) (k : String) (lockTtl : Duration) (now : Instant) :
    s.reserve k lockTtl now =
      match s.liveAt now k with
      | none => .ok (.reserved, ⟨s.entries.insert k ⟨none, now.add lockTtl⟩⟩)
      | some ⟨none, _⟩ => .error inFlight
      | some ⟨some p, _⟩ => .ok (.stored p, s) := by
  unfold reserve liveAt
  cases hk : s.entries.find? k with
  | none => rfl
  | some e =>
    rcases e with ⟨_ | p, x⟩ <;> by_cases hlive : now < x <;> simp [Option.filter_some, hlive]

/-- A key dead at `t` stays dead later: the live entry later is the one at `t`, if it lasts. -/
theorem liveAt_of_le {t t' : Instant} (ht : t ≤ t') (k : String) :
    s.liveAt t' k = (s.liveAt t k).filter fun e => decide (t' < e.expiresAt) := by
  unfold liveAt
  cases s.entries.find? k with
  | none => rfl
  | some e =>
    by_cases hlive : t' < e.expiresAt
    · have : t < e.expiresAt := Instant.lt_iff_ns.mpr
        (Int.lt_of_le_of_lt (Instant.le_iff_ns.mp ht) (Instant.lt_iff_ns.mp hlive))
      simp [Option.filter_some, hlive, this]
    · by_cases ht' : t < e.expiresAt <;> simp [Option.filter_some, hlive, ht']

/-- A written entry is live at its key while it lasts; every other key is live as before. -/
theorem liveAt_insert (k : String) (e : StoreEntry) (k' : String) :
    (⟨s.entries.insert k e⟩ : LocalStore).liveAt now k' =
      if k' = k then (some e).filter (fun e => decide (now < e.expiresAt)) else s.liveAt now k' := by
  unfold liveAt
  rw [Table.find?_insert]
  split <;> rfl

/-- Freeing a key drops its live reservation and leaves every other live entry. -/
theorem liveAt_release (k k' : String) :
    (s.release k).liveAt now k' =
      if k' = k then
        match s.liveAt now k with
        | some ⟨none, _⟩ => none
        | other => other
      else s.liveAt now k' := by
  by_cases hk' : k' = k
  · subst hk'
    rw [if_pos rfl]
    unfold release liveAt
    rcases hk : s.entries.find? k' with _ | ⟨_ | p, x⟩
    · simp [hk]
    · rw [Table.find?_erase, if_pos rfl]
      by_cases hlive : now < x <;> simp [Option.filter_some, hlive]
    · rw [hk]
      by_cases hlive : now < x <;> simp [Option.filter_some, hlive]
  · rw [if_neg hk']
    unfold release
    split
    · unfold liveAt
      rw [Table.find?_erase, if_neg hk']
    · rfl

/-- An entry live at a later time was live before. -/
theorem liveAt_earlier {t t' : Instant} (ht : t ≤ t') {k : String} {e : StoreEntry}
    (he : s.liveAt t' k = some e) : s.liveAt t k = some e := by
  rw [liveAt_of_le ht] at he
  exact (Option.filter_eq_some_iff.mp he).1

/-- A release only ever drops a live entry. -/
theorem liveAt_of_release {k k' : String} {e : StoreEntry}
    (he : (s.release k).liveAt now k' = some e) : s.liveAt now k' = some e := by
  rw [liveAt_release] at he
  split at he
  · rename_i hk'
    subst hk'
    split at he
    · cases he
    · exact he
  · exact he

/-- A purge keeps the entries that last past `now` and counts the others. -/
theorem purge_eq (s : LocalStore) (now : Instant) :
    s.purge now =
      (s.size - (s.entries.entries.filter fun e => decide (now < e.2.expiresAt)).length,
        ⟨⟨s.entries.entries.filter fun e => decide (now < e.2.expiresAt)⟩⟩) := rfl

/-- A purge keeps exactly the live entries. -/
theorem find?_purge (h : s.entries.keys.Nodup) (now : Instant) (k : String) :
    (s.purge now).2.entries.find? k = s.liveAt now k := by
  rw [purge_eq]
  exact Table.find?_filter h (fun e => decide (now < e.expiresAt)) k

/-- A purge returns the number of keys whose entry is dead, and the store shrinks by it. -/
theorem purge_count (h : s.entries.keys.Nodup) (now : Instant) :
    (s.purge now).1 = (s.entries.keys.filter fun k => (s.liveAt now k).isNone).length ∧
      (s.purge now).2.size + (s.purge now).1 = s.size := by
  have hlen : s.entries.entries.length =
      (s.entries.entries.filter fun e => decide (now < e.2.expiresAt)).length +
        (s.entries.entries.filter fun e => !decide (now < e.2.expiresAt)).length :=
    List.length_eq_length_filter_add _
  have hdead : (s.entries.keys.filter fun k => (s.liveAt now k).isNone) =
      (s.entries.entries.filter fun e => !decide (now < e.2.expiresAt)).map (·.1) := by
    rw [Table.keys, List.filter_map]
    congr 1
    apply List.filter_congr
    intro e he
    have hfind : s.entries.find? e.1 = some e.2 := Table.find?_of_mem h (by simpa using he)
    by_cases hlive : now < e.2.expiresAt <;> simp [liveAt, hfind, hlive]
  rw [purge_eq, hdead, List.length_map]
  simp only [size, Table.size]
  omega

/-- A call keeps the keys of the store distinct. -/
theorem keys_nodup_call (h : s.entries.keys.Nodup) (c : StoreCall) :
    (s.call now c).2.entries.keys.Nodup := by
  cases c with
  | reserve k lockTtl =>
    simp only [call, reserve]
    split <;> rename_i hr
    · split at hr
      · split at hr
        · split at hr <;> cases hr
          exact h
        · cases hr
          exact Table.keys_insert_nodup h _ _
      · cases hr
        exact Table.keys_insert_nodup h _ _
    · exact h
  | complete k payload ttl => exact Table.keys_insert_nodup h _ _
  | release k =>
    simp only [call, release]
    split
    · exact Table.keys_erase_nodup h _
    · exact h

/-- A purge keeps the keys of the store distinct. -/
theorem keys_nodup_purge (h : s.entries.keys.Nodup) (now : Instant) :
    (s.purge now).2.entries.keys.Nodup :=
  (List.Sublist.map _ List.filter_sublist).nodup h

end LocalStore

/-! ### Stores alike from some time on -/

/-- Two stores in the process hold the same live entries at `t`. -/
def Alike (t : Instant) (s₁ s₂ : LocalStore) : Prop := ∀ k, s₁.liveAt t k = s₂.liveAt t k

namespace Alike

variable {t : Instant} {s₁ s₂ : LocalStore}

/-- Every store is alike to itself. -/
theorem refl (t : Instant) (s : LocalStore) : Alike t s s := fun _ => rfl

/-- Stores alike at `t` are alike later. -/
theorem mono (h : Alike t s₁ s₂) {t' : Instant} (ht : t ≤ t') : Alike t' s₁ s₂ := fun k => by
  rw [LocalStore.liveAt_of_le ht, LocalStore.liveAt_of_le ht, h k]

/-- Stores alike at `t` answer a call at `t` alike and stay alike. -/
theorem call (h : Alike t s₁ s₂) (c : StoreCall) :
    (s₁.call t c).1 = (s₂.call t c).1 ∧ Alike t (s₁.call t c).2 (s₂.call t c).2 := by
  cases c with
  | reserve k lockTtl =>
    simp only [LocalStore.call, LocalStore.reserve_eq, h k]
    rcases s₂.liveAt t k with _ | ⟨_ | p, x⟩
    · refine ⟨rfl, fun k' => ?_⟩
      rw [LocalStore.liveAt_insert, LocalStore.liveAt_insert, h k']
    · exact ⟨rfl, h⟩
    · exact ⟨rfl, h⟩
  | complete k payload ttl =>
    refine ⟨rfl, fun k' => ?_⟩
    simp only [LocalStore.call, LocalStore.complete]
    rw [LocalStore.liveAt_insert, LocalStore.liveAt_insert, h k']
  | release k =>
    refine ⟨rfl, fun k' => ?_⟩
    simp only [LocalStore.call]
    rw [LocalStore.liveAt_release, LocalStore.liveAt_release, h k, h k']

end Alike

/-- A purge at `t` keeps a store alike to itself at `t`. -/
theorem alike_purge {s : LocalStore} (h : s.entries.keys.Nodup) (t : Instant) :
    Alike t (s.purge t).2 s := fun k => by
  unfold LocalStore.liveAt
  rw [LocalStore.find?_purge h]
  unfold LocalStore.liveAt
  cases s.entries.find? k with
  | none => rfl
  | some e => simp

/-- A release keeps a store alike to itself unless the key holds a live reservation. -/
theorem alike_release {s : LocalStore} {t : Instant} {k : String}
    (h : ∀ x, s.liveAt t k ≠ some ⟨none, x⟩) : Alike t (s.release k) s := fun k' => by
  rw [LocalStore.liveAt_release]
  split
  · rename_i hk'
    subst hk'
    split
    · rename_i x hx
      exact absurd hx (h x)
    · rfl
  · rfl

/-! ### Purges among the calls -/

/-- A step on the store in the process: a call, or a purge of the dead entries. -/
inductive LocalStep where
  | call (c : StoreCall)
  | purge

/-- The calls among timed steps, purges left out. -/
def LocalStep.calls : List (Instant × LocalStep) → List (Instant × StoreCall) :=
  List.filterMap fun
    | (t, .call c) => some (t, c)
    | (_, .purge) => none

namespace LocalStore

/-- A step at `now`: a call answers as a call does, a purge with the number it removed. -/
def step (s : LocalStore) (now : Instant) :
    LocalStep → (Except Fault (Option Reservation) ⊕ Nat) × LocalStore
  | .call c => (.inl (s.call now c).1, (s.call now c).2)
  | .purge => (.inr (s.purge now).1, (s.purge now).2)

end LocalStore

/-- Purges inserted among calls at non-decreasing times, on a store alike to the one that runs
the calls alone, change no answer of a call. -/
theorem runTimed_step_alike :
    ∀ (steps : List (Instant × LocalStep)) {t : Instant} {s₁ s₂ : LocalStore},
      Alike t s₁ s₂ → s₁.entries.keys.Nodup → (∀ p ∈ steps, t ≤ p.1) →
      steps.Pairwise (fun a b => a.1 ≤ b.1) →
      (runTimed LocalStore.step s₁ steps).1.filterMap Sum.getLeft? =
        (runTimed LocalStore.call s₂ (LocalStep.calls steps)).1
  | [], _, _, _, _, _, _, _ => rfl
  | (t', x) :: rest, t, s₁, s₂, h, hkeys, hafter, hsorted => by
    rw [List.pairwise_cons] at hsorted
    have h' : Alike t' s₁ s₂ := h.mono (hafter _ List.mem_cons_self)
    have hrest : ∀ p ∈ rest, t' ≤ p.1 := hsorted.1
    cases x with
    | call c =>
      obtain ⟨hans, hnext⟩ := h'.call c
      have ih := runTimed_step_alike rest hnext (LocalStore.keys_nodup_call hkeys c) hrest hsorted.2
      simp only [runTimed_cons_fst, LocalStore.step, List.filterMap_cons, Sum.getLeft?_inl,
        LocalStep.calls] at ih ⊢
      rw [hans, ih]
    | purge =>
      have hnext : Alike t' (s₁.purge t').2 s₂ := fun k => (alike_purge hkeys t' k).trans (h' k)
      have ih := runTimed_step_alike rest hnext (LocalStore.keys_nodup_purge hkeys t') hrest
        hsorted.2
      simp only [runTimed_cons_fst, LocalStore.step, List.filterMap_cons, Sum.getLeft?_inr,
        LocalStep.calls] at ih ⊢
      exact ih

/-- Purging cannot be seen. A purge at `now`, on a store whose keys are unique as those of a map
are, keeps exactly the entries a reservation at `now` takes as present, and returns the number
of keys a reservation at `now` takes as free, which is what the number of entries drops by.
Purges inserted anywhere into reservations, completions and releases at non-decreasing times
change no answer of theirs. -/
theorem purging_is_unobservable :
    (∀ (s : LocalStore) (now : Instant), s.entries.keys.Nodup →
      (∀ k lockTtl, (s.liveAt now k).isNone ↔
        ∃ s', s.reserve k lockTtl now = .ok (.reserved, s')) ∧
      (∀ k, (s.purge now).2.entries.find? k = s.liveAt now k) ∧
      (s.purge now).1 = (s.entries.keys.filter fun k => (s.liveAt now k).isNone).length ∧
      (s.purge now).2.size + (s.purge now).1 = s.size) ∧
    (∀ (s : LocalStore) (steps : List (Instant × LocalStep)), s.entries.keys.Nodup →
      steps.Pairwise (fun a b => a.1 ≤ b.1) →
      (runTimed LocalStore.step s steps).1.filterMap Sum.getLeft? =
        (runTimed LocalStore.call s (LocalStep.calls steps)).1) := by
  refine ⟨fun s now h => ⟨fun k lockTtl => ?_, LocalStore.find?_purge h now,
    LocalStore.purge_count h now⟩, fun s steps h hsorted => ?_⟩
  · rw [LocalStore.reserve_eq]
    rcases s.liveAt now k with _ | ⟨_ | p, x⟩ <;> simp
  · cases steps with
    | nil => rfl
    | cons first rest =>
      exact runTimed_step_alike _ (Alike.refl first.1 s) h
        (fun p hp => (List.mem_cons.mp hp).elim (fun e => e ▸ Instant.le_iff_ns.mpr (Int.le_refl _))
          (fun hp => (List.pairwise_cons.mp hsorted).1 p hp)) hsorted

/-- A store holding a reservation of `a` until 10 and an outcome of `b` until 5: a purge at 6
drops `b` alone, and purges at 0, 6 and 20 among a reservation of `b` at 6, a release of `a` at
7 and a reservation of `a` at 20 change none of their answers. -/
theorem purging_is_unobservable_twoKeys :
    let s : LocalStore := ⟨⟨[("a", ⟨none, ⟨10, 0⟩⟩), ("b", ⟨some "r", ⟨5, 0⟩⟩)]⟩⟩
    let steps : List (Instant × LocalStep) :=
      [(⟨0, 0⟩, .purge), (⟨6, 0⟩, .call (.reserve "b" ⟨10⟩)), (⟨6, 0⟩, .purge),
        (⟨7, 0⟩, .call (.release "a")), (⟨20, 0⟩, .purge), (⟨20, 0⟩, .call (.reserve "a" ⟨10⟩))]
    s.entries.keys.Nodup ∧ steps.Pairwise (fun a b => a.1 ≤ b.1) ∧
      (s.purge ⟨6, 0⟩).1 = (s.entries.keys.filter fun k => (s.liveAt ⟨6, 0⟩ k).isNone).length ∧
      (runTimed LocalStore.step s steps).1.filterMap Sum.getLeft? =
        (runTimed LocalStore.call s (LocalStep.calls steps)).1 := by
  intro s steps
  have hkeys : s.entries.keys.Nodup := by decide
  have hsorted : steps.Pairwise (fun a b => a.1 ≤ b.1) := by decide
  exact ⟨hkeys, hsorted, (purging_is_unobservable.1 s ⟨6, 0⟩ hkeys).2.2.1,
    purging_is_unobservable.2 s steps hkeys hsorted⟩

end Auction
