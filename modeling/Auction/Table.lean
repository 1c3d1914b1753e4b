/-!
# Tables · finite maps from text keys, in insertion order

A `Table α` maps text keys to values and remembers the order in which keys were first written:
`insert` replaces the value of a present key in place and appends a new key at the end, and
`erase` removes a key. Every key occurs at most once when the table is built by these
operations.
-/

namespace Auction

/-- A finite map from text keys, in the order keys were first written. -/
structure Table (α : Type) where
  entries : List (String × α)
  deriving Inhabited, Repr

namespace Table

variable {α : Type}

/-- The empty table. -/
def empty : Table α := ⟨[]⟩

/-- The value of a key. -/
def find? (t : Table α) (k : String) : Option α := (t.entries.find? (·.1 == k)).map (·.2)

/-- The value of the first entry of a key whose value passes a test. -/
def findWhere? (t : Table α) (k : String) (q : α → Bool) : Option α :=
  (t.entries.find? fun e => e.1 == k && q e.2).map (·.2)

/-- Whether a key is present. -/
def contains (t : Table α) (k : String) : Bool := t.entries.any (·.1 == k)

/-- Writes a key: in place when present, at the end otherwise. -/
def insert (t : Table α) (k : String) (v : α) : Table α :=
  if t.contains k then ⟨t.entries.map fun (k', v') => if k' == k then (k', v) else (k', v')⟩
  else ⟨t.entries ++ [(k, v)]⟩

/-- Removes a key. -/
def erase (t : Table α) (k : String) : Table α := ⟨t.entries.filter (·.1 != k)⟩

/-- The keys, in order. -/
def keys (t : Table α) : List String := t.entries.map (·.1)

/-- The number of keys. -/
def size (t : Table α) : Nat := t.entries.length

/-- The empty table finds nothing. -/
@[simp] theorem find?_empty (k : String) : (empty : Table α).find? k = none := rfl

/-- Rewriting the entries of one key in place, read through the first entry of a key whose
value passes a test. -/
theorem find?_map_of_rewrite {k : String} {v : α} {g : String × α → String × α}
    (hkey : ∀ x, (g x).1 = x.1) (hval : ∀ x, x.1 = k → (g x).2 = v)
    (hother : ∀ x, x.1 ≠ k → g x = x) (r : String) (q : α → Bool) (l : List (String × α)) :
    ((l.map g).find? fun e => e.1 == r && q e.2).map (·.2) =
      if r = k then (if q v && l.any (·.1 == k) then some v else none)
      else (l.find? fun e => e.1 == r && q e.2).map (·.2) := by
  induction l with
  | nil => split <;> simp
  | cons e l ih =>
    rw [List.map_cons, List.any_cons]
    by_cases he : e.1 = k
    · have hg : g e = (k, v) := Prod.ext (by rw [hkey, he]) (hval e he)
      have hb : (e.1 == k) = true := by simpa using he
      rw [hg, hb, Bool.true_or, Bool.and_true]
      by_cases hr : r = k
      · subst hr
        cases hq : q v
        · rw [List.find?_cons_of_neg (by simp [hq]), ih]
          simp [hq]
        · rw [List.find?_cons_of_pos (by simp [hq])]
          simp
      · rw [List.find?_cons_of_neg (by simp [Ne.symm hr]), ih, if_neg hr, if_neg hr,
          List.find?_cons_of_neg (by simp [he, Ne.symm hr])]
    · have hb : (e.1 == k) = false := by simpa using he
      rw [hother e he, hb, Bool.false_or]
      by_cases hr : r = k
      · subst hr
        rw [List.find?_cons_of_neg (by simp [hb]), ih, if_pos rfl, if_pos rfl]
      · rw [if_neg hr]
        cases hp : (e.1 == r && q e.2)
        · rw [List.find?_cons_of_neg (by simp [hp]), List.find?_cons_of_neg (by simp [hp]), ih,
            if_neg hr]
        · simp only [List.find?_cons, hp]

/-- A written key reads as the written value, when it passes the test; every other key reads as
before. -/
theorem findWhere?_insert (t : Table α) (k : String) (v : α) (r : String) (q : α → Bool) :
    (t.insert k v).findWhere? r q =
      if r = k then (if q v then some v else none) else t.findWhere? r q := by
  unfold insert findWhere?
  by_cases hc : t.contains k
  · have hmap := find?_map_of_rewrite (k := k) (v := v)
      (g := fun (x : String × α) => if x.1 == k then (x.1, v) else (x.1, x.2))
      (fun x => by split <;> rfl) (fun x hx => by simp [hx])
      (fun x hx => by simp [hx]) r q t.entries
    have hany : t.entries.any (·.1 == k) = true := hc
    rw [if_pos hc]
    refine hmap.trans ?_
    simp only [hany, Bool.and_true]
  · rw [if_neg hc, List.find?_append]
    have hnone : t.entries.find? (fun e => e.1 == k && q e.2) = none :=
      List.find?_eq_none.mpr fun x hx hq =>
        hc (List.any_eq_true.mpr ⟨x, hx, by simp only [Bool.and_eq_true] at hq; exact hq.1⟩)
    split
    · rename_i hr
      subst hr
      rw [hnone]
      cases hq : q v <;> simp [hq]
    · rename_i hr
      cases t.entries.find? (fun e => e.1 == r && q e.2) <;> simp [Ne.symm hr]

/-- The value of a key is that of its first entry. -/
theorem find?_eq_findWhere? (t : Table α) (k : String) : t.find? k = t.findWhere? k fun _ => true := by
  simp [find?, findWhere?]

/-- A written key reads back its value; every other key reads as before. -/
theorem find?_insert (t : Table α) (k : String) (v : α) (k' : String) :
    (t.insert k v).find? k' = if k' = k then some v else t.find? k' := by
  rw [find?_eq_findWhere?, find?_eq_findWhere?, findWhere?_insert]
  rfl

/-- An erased key reads as absent; every other key reads as before. -/
theorem find?_erase (t : Table α) (k k' : String) :
    (t.erase k).find? k' = if k' = k then none else t.find? k' := by
  unfold erase find?
  rw [List.find?_filter]
  split
  · rename_i hk
    subst hk
    have hnone : t.entries.find? (fun x => decide ((x.1 != k') = true ∧ (x.1 == k') = true)) =
        none := List.find?_eq_none.mpr fun x _ => by simp
    rw [hnone, Option.map_none]
  · rename_i hk
    congr 2
    funext x
    by_cases hx : x.1 = k' <;> simp [hx, hk]

/-- An erased key has no entry; every other key reads as before. -/
theorem findWhere?_erase (t : Table α) (k r : String) (q : α → Bool) :
    (t.erase k).findWhere? r q = if r = k then none else t.findWhere? r q := by
  unfold erase findWhere?
  rw [List.find?_filter]
  split
  · rename_i hr
    subst hr
    have hnone : t.entries.find? (fun x => decide ((x.1 != r) = true ∧ (x.1 == r && q x.2) = true)) =
        none := List.find?_eq_none.mpr fun x _ => by simp +contextual
    rw [hnone, Option.map_none]
  · rename_i hr
    congr 2
    funext x
    by_cases hx : x.1 = r <;> simp [hx, hr]

/-- Keeping the entries whose value passes one test, then reading through another, reads through
both. -/
theorem findWhere?_filter (t : Table α) (p : α → Bool) (r : String) (q : α → Bool) :
    (⟨t.entries.filter fun e => p e.2⟩ : Table α).findWhere? r q =
      t.findWhere? r fun v => p v && q v := by
  unfold findWhere?
  rw [List.find?_filter]
  congr 2
  funext x
  by_cases hx : x.1 = r <;> cases hp : p x.2 <;> cases hq : q x.2 <;> simp [hp, hq, hx]

end Table

end Auction
