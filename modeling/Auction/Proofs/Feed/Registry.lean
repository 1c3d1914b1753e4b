import Mathlib
import Auction.Feed.Sections

/-!
# A replaced watcher unregistering beside its successor

The registry keeps one watcher per user and auction. A second connection of a user to an
auction replaces the first: registering it closes the first, whose read loop then ends and
unregisters. That unregistering is two atomic sections (`Feed.unregistering`): a check, under
the read lock, that the watcher is still the registered one, and then the disconnection of its
user on its auction, which removes whatever is registered there without looking at which
watcher it is.

Run one after the other, the two sections never evict a successor (`unregistering_run`): the
check of a replaced watcher finds the successor and stops. Run beside the successor's
registration, they evict it in exactly one of the three interleavings, the one where the
registration falls between the check and the disconnection
(`successor_stays_iff_registered_outside_check`, `replaced_watcher_evicts_successor`).

The lemmas first say what each registry operation does to the registered watcher of a user on
an auction (`current?_register`, `current?_disconnect`) and to a user's list
(`mem_ofUser_register`, `ofUser_disconnect`); closing and dropping never change who a watcher
belongs to.
-/

namespace Auction

namespace Table

variable {α : Type}

/-- A table without keys reads every key as absent. -/
theorem find?_of_size_eq_zero {t : Table α} (h : t.size = 0) (k : String) : t.find? k = none := by
  obtain ⟨entries⟩ := t
  cases entries with
  | nil => rfl
  | cons _ _ => simp [size] at h

/-- A table that may be missing, read as empty when it is. -/
theorem find?_getD_empty (o : Option (Table α)) (k : String) :
    (o.getD empty).find? k = o.bind (·.find? k) := by
  cases o <;> rfl

end Table

/-! ## Interleavings -/

namespace Interleaving

variable {α : Type} {x y z : α} {xs ys zs : List α}

/-- With nothing on the left, an interleaving is the right side. -/
theorem eq_of_nil_left (h : Interleaving [] ys zs) : zs = ys := by
  generalize hx : ([] : List α) = xs at h
  induction h with
  | nil => rfl
  | left _ _ => cases hx
  | right _ ih => rw [ih hx]

/-- The first section of the left side runs after a first part of the right side; the rest is
an interleaving of what is left. -/
theorem split_left (h : Interleaving (x :: xs) ys zs) :
    ∃ P ys' zs', ys = P ++ ys' ∧ zs = P ++ x :: zs' ∧ Interleaving xs ys' zs' := by
  generalize hx : x :: xs = l at h
  induction h with
  | nil => cases hx
  | left h' _ =>
    obtain ⟨rfl, rfl⟩ := List.cons.inj hx
    exact ⟨[], _, _, rfl, rfl, h'⟩
  | @right y _ _ _ _ ih =>
    obtain ⟨P, ys', zs', rfl, rfl, h'⟩ := ih hx
    exact ⟨y :: P, ys', zs', rfl, rfl, h'⟩

/-- Two sections beside one: the one runs first, between them, or last. -/
theorem two_one (h : Interleaving [x, y] [z] zs) :
    zs = [x, y, z] ∨ zs = [x, z, y] ∨ zs = [z, x, y] := by
  obtain ⟨P, ys', zs', hz, rfl, h'⟩ := h.split_left
  obtain ⟨Q, ys'', zs'', rfl, rfl, h''⟩ := h'.split_left
  rw [h''.eq_of_nil_left]
  rcases List.singleton_eq_append_iff.mp hz with ⟨rfl, hz'⟩ | ⟨rfl, hnil⟩
  · rcases List.append_eq_singleton_iff.mp hz' with ⟨rfl, rfl⟩ | ⟨rfl, rfl⟩
    · exact .inl rfl
    · exact .inr (.inl rfl)
  · obtain ⟨rfl, rfl⟩ := List.append_eq_nil_iff.mp hnil
    exact .inr (.inr rfl)

/-- Three sections beside a list: they cut it into four parts, run around them in order. -/
theorem three_left (h : Interleaving [x, y, z] ys zs) :
    ∃ P Q R T, ys = P ++ Q ++ R ++ T ∧ zs = P ++ x :: Q ++ y :: R ++ z :: T := by
  obtain ⟨P, ys₁, zs₁, rfl, rfl, h₁⟩ := h.split_left
  obtain ⟨Q, ys₂, zs₂, rfl, rfl, h₂⟩ := h₁.split_left
  obtain ⟨R, T, zs₃, rfl, rfl, h₃⟩ := h₂.split_left
  rw [h₃.eq_of_nil_left]
  exact ⟨P, Q, R, T, by simp, by simp⟩

end Interleaving

/-- A watcher as it is apart from whether it was closed. -/
def Watcher.unclosed (w : Watcher) : Watcher := { w with closed := false }

namespace Watchers

/-- Watcher `id` is a connection of `userId` to `auctionId`. -/
def Connects (ws : Watchers) (id : Nat) (userId auctionId : String) : Prop :=
  ∃ w, ws.get? id = some w ∧ w.userId = userId ∧ w.auctionId = auctionId

/-! ## Who a watcher belongs to -/

/-- Changing watcher `i` changes it and no other. -/
theorem get?_modify (ws : Watchers) (i : Nat) (f : Watcher → Watcher) (j : Nat) :
    (ws.modify i f).get? j = (ws.get? j).map fun w => if i = j then f w else w := by
  simp [get?, modify, List.getElem?_modify]

/-- Closing a watcher keeps every watcher's user. -/
@[simp] theorem userOf_close (ws : Watchers) (i j : Nat) : (ws.close i).userOf j = ws.userOf j := by
  simp only [userOf, close, get?_modify]
  cases ws.get? j <;> simp only [Option.map_none, Option.map_some]; split <;> rfl

/-- Closing a watcher keeps every watcher's auction. -/
@[simp] theorem auctionOf_close (ws : Watchers) (i j : Nat) :
    (ws.close i).auctionOf j = ws.auctionOf j := by
  simp only [auctionOf, close, get?_modify]
  cases ws.get? j <;> simp only [Option.map_none, Option.map_some]; split <;> rfl

/-- Closing a watcher changes nothing of any watcher but whether it is closed. -/
theorem unclosed_close (ws : Watchers) (i j : Nat) :
    ((ws.close i).get? j).map Watcher.unclosed = (ws.get? j).map Watcher.unclosed := by
  simp only [close, get?_modify, Option.map_map]
  cases ws.get? j <;> simp only [Option.map_none, Option.map_some, Function.comp]; split <;> rfl

/-- Dropping a user's watchers of an auction from their list keeps the watchers opened. -/
@[simp] theorem dropUserWatchers_all (ws : Watchers) (u a : String) :
    (ws.dropUserWatchers u a).all = ws.all := by
  unfold dropUserWatchers; split <;> rfl

/-- Dropping a user's watchers of an auction from their list keeps the auctions' tables. -/
@[simp] theorem dropUserWatchers_byAuction (ws : Watchers) (u a : String) :
    (ws.dropUserWatchers u a).byAuction = ws.byAuction := by
  unfold dropUserWatchers; split <;> rfl

/-- A user's list after their watchers of an auction were dropped from it. -/
theorem ofUser_dropUserWatchers (ws : Watchers) (u a : String) :
    (ws.dropUserWatchers u a).ofUser u = (ws.ofUser u).filter (ws.auctionOf · != a) := by
  unfold dropUserWatchers ofUser
  cases h : ws.byUser.find? u with
  | none => simp [h]
  | some ids =>
    simp only [Option.getD_some]
    split
    · rename_i hempty
      simp [Table.find?_erase, List.isEmpty_iff.mp hempty]
    · simp [Table.find?_insert]

/-! ## Registering -/

/-- Registering writes the watcher for its user into the auction's table. -/
theorem byAuction_register (ws : Watchers) (u a : String) (id : Nat) :
    (ws.register u a id).byAuction =
      ws.byAuction.insert a (((ws.byAuction.find? a).getD Table.empty).insert u id) := by
  unfold register
  dsimp only
  split
  · split <;> simp [close, modify]
  · rfl

/-- After registering, the watcher is the one of its user on its auction; every other user and
auction keeps theirs. -/
theorem current?_register (ws : Watchers) (u a : String) (id : Nat) (u' a' : String) :
    (ws.register u a id).current? u' a' =
      if a' = a ∧ u' = u then some id else ws.current? u' a' := by
  simp only [current?, byAuction_register, Table.find?_insert]
  by_cases ha : a' = a
  · subst ha
    by_cases hu : u' = u
    · simp [hu, Table.find?_insert]
    · simp [hu, Table.find?_insert, Table.find?_getD_empty]
  · simp [ha]

/-- A registered watcher is on its user's list. -/
theorem mem_ofUser_register (ws : Watchers) (u a : String) (id : Nat) :
    id ∈ (ws.register u a id).ofUser u := by
  unfold register ofUser
  dsimp only
  split
  · split <;> simp [Table.find?_insert]
  · simp [Table.find?_insert]

/-- Registering keeps every watcher's user. -/
@[simp] theorem userOf_register (ws : Watchers) (u a : String) (id j : Nat) :
    (ws.register u a id).userOf j = ws.userOf j := by
  unfold register
  dsimp only
  split
  · split
    · rfl
    · simp only [userOf, get?, dropUserWatchers_all]
      exact userOf_close ws _ j
  · rfl

/-- Registering keeps every watcher's auction. -/
@[simp] theorem auctionOf_register (ws : Watchers) (u a : String) (id j : Nat) :
    (ws.register u a id).auctionOf j = ws.auctionOf j := by
  unfold register
  dsimp only
  split
  · split
    · rfl
    · simp only [auctionOf, get?, dropUserWatchers_all]
      exact auctionOf_close ws _ j
  · rfl

/-- Registering changes nothing of any watcher but whether it is closed: it closes the watcher
it replaces. -/
theorem unclosed_register (ws : Watchers) (u a : String) (id j : Nat) :
    ((ws.register u a id).get? j).map Watcher.unclosed = (ws.get? j).map Watcher.unclosed := by
  unfold register
  dsimp only
  split
  · split
    · rfl
    · simp only [get?, dropUserWatchers_all]
      exact unclosed_close ws _ j
  · rfl

/-- Registering changes no watcher's user or auction. -/
theorem connects_register {ws : Watchers} {c : Nat} {u a : String} (h : ws.Connects c u a)
    (u' a' : String) (id : Nat) : (ws.register u' a' id).Connects c u a := by
  obtain ⟨w, hw, rfl, rfl⟩ := h
  have hc := unclosed_register ws u' a' id c
  rw [hw, Option.map_some] at hc
  obtain ⟨w', hw', hsame⟩ := Option.map_eq_some_iff.mp hc
  exact ⟨w', hw', (congrArg Watcher.userId hsame : w'.unclosed.userId = _),
    (congrArg Watcher.auctionId hsame : w'.unclosed.auctionId = _)⟩

/-! ## Disconnecting -/

/-- After disconnecting, nobody is registered for the user on the auction; every other user and
auction keeps theirs. -/
theorem current?_disconnect (ws : Watchers) (u a u' a' : String) :
    (ws.disconnect u a).current? u' a' = if a' = a ∧ u' = u then none else ws.current? u' a' := by
  unfold disconnect current?
  rw [dropUserWatchers_byAuction]
  cases h : ws.byAuction.find? a with
  | none =>
    by_cases ha : a' = a
    · subst ha; simp [h]
    · simp [ha]
  | some users =>
    dsimp only
    by_cases ha : a' = a
    · subst ha
      split
      · rename_i hsize
        have hnone := Table.find?_of_size_eq_zero (beq_iff_eq.mp hsize) u'
        rw [Table.find?_erase] at hnone
        by_cases hu : u' = u
        · simp [hu, Table.find?_erase]
        · rw [if_neg hu] at hnone
          simp [hu, Table.find?_erase, h, hnone]
      · simp [Table.find?_insert, Table.find?_erase, h]
    · split <;> simp [ha, Table.find?_erase, Table.find?_insert]

/-- Disconnecting a user on an auction drops from their list every watcher of that auction. -/
theorem ofUser_disconnect (ws : Watchers) (u a : String) :
    (ws.disconnect u a).ofUser u = (ws.ofUser u).filter (ws.auctionOf · != a) := by
  unfold disconnect
  split <;> exact ofUser_dropUserWatchers _ u a

/-- Disconnecting keeps every watcher's user. -/
@[simp] theorem userOf_disconnect (ws : Watchers) (u a : String) (j : Nat) :
    (ws.disconnect u a).userOf j = ws.userOf j := by
  unfold disconnect
  split <;> simp [userOf, get?]

/-- Disconnecting keeps every watcher's auction. -/
@[simp] theorem auctionOf_disconnect (ws : Watchers) (u a : String) (j : Nat) :
    (ws.disconnect u a).auctionOf j = ws.auctionOf j := by
  unfold disconnect
  split <;> simp [auctionOf, get?]

/-! ## The check of a watcher whose read loop ended -/

/-- A connection of a user is that user's watcher. -/
theorem userOf_of_connects {ws : Watchers} {c : Nat} {u a : String} (h : ws.Connects c u a) :
    ws.userOf c = u := by
  obtain ⟨w, hw, rfl, -⟩ := h
  simp [userOf, hw]

/-- A connection to an auction is a watcher of that auction. -/
theorem auctionOf_of_connects {ws : Watchers} {c : Nat} {u a : String} (h : ws.Connects c u a) :
    ws.auctionOf c = a := by
  obtain ⟨w, hw, -, rfl⟩ := h
  simp [auctionOf, hw]

/-- The check of a watcher asks whether it is the registered watcher of its user on its
auction. -/
theorem isCurrent_of_connects {ws : Watchers} {c : Nat} {u a : String} (h : ws.Connects c u a) :
    ws.isCurrent c = (ws.current? u a == some c) := by
  obtain ⟨w, hw, rfl, rfl⟩ := h
  simp [isCurrent, hw]

end Watchers

namespace Feed

open Watchers

/-! ## The sections of unregistering -/

/-- No sections leave the registry as it is. -/
@[simp] theorem runRegistry_nil (s : Registering) : runRegistry s [] = s := rfl

/-- Running sections is running the first, then the rest. -/
@[simp] theorem runRegistry_cons (s : Registering) (x : RegistrySection) (zs : List RegistrySection) :
    runRegistry s (x :: zs) = runRegistry (x.run s) zs := rfl

/-- Run one after the other, the two sections of unregistering are the whole call: the watcher
is disconnected if, and only if, it is still the registered one. -/
theorem unregistering_run (ws : Watchers) (c : Nat) :
    runRegistry ⟨ws, []⟩ (unregistering c) = ⟨ws.disconnectIfCurrent c, []⟩ := by
  by_cases h : ws.isCurrent c <;> simp [unregistering, RegistrySection.run, disconnectIfCurrent, h]

section Race

variable {ws : Watchers} {u a : String} {c₁ c₂ : Nat}

/-- The successor registered and listed for its user. -/
def Registering.Keeps (s : Registering) (u a : String) (c : Nat) : Prop :=
  s.watchers.current? u a = some c ∧ c ∈ s.watchers.ofUser u

/-- The replaced watcher unregisters before its successor registers: the successor is then
registered and listed. -/
theorem keeps_of_released_first (h₁ : ws.Connects c₁ u a) (hcur : ws.current? u a = some c₁) :
    (runRegistry ⟨ws, []⟩ [.check c₁, .release c₁, .register u a c₂]).Keeps u a c₂ := by
  have hcheck : ws.isCurrent c₁ = true := by simp [isCurrent_of_connects h₁, hcur]
  simp only [runRegistry_cons, runRegistry_nil, RegistrySection.run, hcheck, if_true,
    List.mem_cons, true_or, if_true, userOf_of_connects h₁, auctionOf_of_connects h₁]
  exact ⟨by simp [current?_register], mem_ofUser_register _ _ _ _⟩

/-- The successor registers first: the check of the replaced watcher finds the successor and
stops, so the successor stays registered and listed. -/
theorem keeps_of_registered_first (h₁ : ws.Connects c₁ u a) (hne : c₁ ≠ c₂) :
    (runRegistry ⟨ws, []⟩ [.register u a c₂, .check c₁, .release c₁]).Keeps u a c₂ := by
  have hcheck : (ws.register u a c₂).isCurrent c₁ = false := by
    simp [isCurrent_of_connects (connects_register h₁ u a c₂), current?_register, hne.symm]
  simp only [runRegistry_cons, runRegistry_nil, RegistrySection.run, hcheck, Bool.false_eq_true,
    if_false, List.not_mem_nil]
  exact ⟨by simp [current?_register], mem_ofUser_register _ _ _ _⟩

/-- The successor registers between the check and the disconnection of the replaced watcher:
the disconnection then removes the successor, from the auction and from the user's list. -/
theorem evicted_of_registered_between (h₁ : ws.Connects c₁ u a) (h₂ : ws.Connects c₂ u a)
    (hcur : ws.current? u a = some c₁) :
    let s := runRegistry ⟨ws, []⟩ [.check c₁, .register u a c₂, .release c₁]
    s.watchers.current? u a = none ∧ c₂ ∉ s.watchers.ofUser u := by
  have hcheck : ws.isCurrent c₁ = true := by simp [isCurrent_of_connects h₁, hcur]
  simp only [runRegistry_cons, runRegistry_nil, RegistrySection.run, hcheck, if_true,
    List.mem_cons, true_or, userOf_register, auctionOf_register, userOf_of_connects h₁,
    auctionOf_of_connects h₁]
  refine ⟨by simp [current?_disconnect], ?_⟩
  rw [ofUser_disconnect]
  simp [auctionOf_of_connects h₂]

/-- A replaced watcher's unregistering, run beside the registration of its successor, leaves
the successor registered and on its user's list exactly when the registration does not fall
between the check and the disconnection. -/
theorem successor_stays_iff_registered_outside_check {zs : List RegistrySection}
    (h₁ : ws.Connects c₁ u a) (h₂ : ws.Connects c₂ u a) (hne : c₁ ≠ c₂)
    (hcur : ws.current? u a = some c₁)
    (hzs : Interleaving (unregistering c₁) [.register u a c₂] zs) :
    (runRegistry ⟨ws, []⟩ zs).Keeps u a c₂ ↔
      zs ≠ [.check c₁, .register u a c₂, .release c₁] := by
  rcases hzs.two_one with rfl | rfl | rfl
  · exact iff_of_true (keeps_of_released_first h₁ hcur) (by simp)
  · refine iff_of_false (fun hk => ?_) (by simp)
    exact (evicted_of_registered_between h₁ h₂ hcur).2 hk.2
  · exact iff_of_true (keeps_of_registered_first h₁ hne) (by simp)

/-- `u`'s watcher 0 on `a-1`, and a second watcher 1 of `u` on `a-1` opened but not yet
registered. -/
def replacedRegistry : Watchers :=
  ((Watchers.empty.connect "u" "a-1" false false).2.add "u" "a-1" false false).2

/-- The successor registers before the replaced watcher checks: it stays, as this is an interleaving
other than the one that evicts it. -/
theorem successor_stays_iff_registered_outside_check_registered_first :
    replacedRegistry.Connects 0 "u" "a-1" ∧ replacedRegistry.Connects 1 "u" "a-1" ∧
      replacedRegistry.current? "u" "a-1" = some 0 ∧
      ((runRegistry ⟨replacedRegistry, []⟩
          [.register "u" "a-1" 1, .check 0, .release 0]).Keeps "u" "a-1" 1 ↔
        [RegistrySection.register "u" "a-1" 1, .check 0, .release 0] ≠
          [.check 0, .register "u" "a-1" 1, .release 0]) := by
  have h₀ : replacedRegistry.Connects 0 "u" "a-1" := ⟨_, rfl, rfl, rfl⟩
  have h₁ : replacedRegistry.Connects 1 "u" "a-1" := ⟨_, rfl, rfl, rfl⟩
  have hcur : replacedRegistry.current? "u" "a-1" = some 0 := by decide
  exact ⟨h₀, h₁, hcur, successor_stays_iff_registered_outside_check h₀ h₁ (by decide) hcur
    (.right (.left (.left .nil)))⟩

/-- A replaced watcher that checks before its successor registers, and disconnects after,
evicts the successor: nobody is registered for its user on the auction, and the user's list is
empty. -/
theorem replaced_watcher_evicts_successor :
    Interleaving (unregistering 0) [.register "u" "a-1" 1]
        [.check 0, .register "u" "a-1" 1, .release 0] ∧
      replacedRegistry.current? "u" "a-1" = some 0 ∧
      (runRegistry ⟨replacedRegistry, []⟩
          [.check 0, .register "u" "a-1" 1, .release 0]).watchers.current? "u" "a-1" = none ∧
      (runRegistry ⟨replacedRegistry, []⟩
          [.check 0, .register "u" "a-1" 1, .release 0]).watchers.ofUser "u" = [] :=
  ⟨.left (.right (.left .nil)), by decide, by decide, by decide⟩

end Race

end Feed

end Auction
