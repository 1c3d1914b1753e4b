import Mathlib
import Auction.Proofs.Feed.Follow
import Auction.Proofs.Feed.Registry

/-!
# What a new watch shows, beside the listener

A new watch of an auction reads the feed's snapshot, opens its watcher and sends it that
snapshot, and registers the watcher (`Feed.opening`). Meanwhile the listener handles events,
each by having the feed's snapshot follow it and then sending its messages
(`Feed.listening`). What a watcher shows of the lead is the lead its messages set, one after
another (`Watcher.lead`): the snapshot sets the lead of its state, a new lead its bid, a
withdrawal of the lead the bid it names.

Each event either sets the lead, to a value the event alone decides, or leaves it
(`Payload.setsLead?`). So the lead after a run of events is the one the last setter sets
(`Feed.Lead.afterAll_eq`), and following a run twice is following it once
(`Feed.Lead.afterAll_idem`). The feed's snapshot moves that way (`Feed.lead_followAll`), and
so does a registered watcher, one announcement per event (`Watchers.lead_announceTo`).

The listener's sections touch the snapshots and the watchers apart, so a run of them is the
snapshots following their events and the watchers hearing theirs (`Feed.runSections_listener`).
The new watch's three sections then cut the listener's run in four. The watcher starts from the
snapshot read after the first part, and hears what is announced after its registration, in the
last part. It ends showing the feed's lead when every event is followed before the read or
announced after the registration (`watch_shows_feed_lead_of_covered`). An event followed after
the read and announced before the registration reaches neither the snapshot nor the watcher
(`watch_misses_event_handled_in_window`).
-/

namespace Auction

namespace Feed

/-- The lead a watcher shows: the bid, its amount as written, and its bidder. -/
structure Lead where
  bidId : String
  amount : Json
  bidderId : String

/-- The lead shown before any message. -/
def Lead.blank : Lead := ⟨"", .null, ""⟩

/-- The amount a withdrawal names for the new lead. A withdrawal that leaves no lead writes
`null`, read as zero: the amount the feed's snapshot then holds. -/
def withdrawalAmount (m : Json) : Json :=
  match m.field? "new_highest_amount" with
  | some .null | none => Json.ofDecimal 0
  | some j => j

/-- The lead shown after a message: a snapshot shows the lead of its state, a new lead its bid,
and a withdrawal of the lead the bid it names. Every other message leaves the lead shown. -/
def Lead.see (l : Lead) (m : Json) : Lead :=
  match m.strField "type" with
  | "snapshot" =>
    let s := (m.field? "state").getD .null
    ⟨s.strField "highest_bid_id", (s.field? "highest_amount").getD .null,
      s.strField "highest_bidder_id"⟩
  | "bid_update" =>
    ⟨m.strField "bid_id", (m.field? "highest_amount").getD .null, m.strField "highest_bidder_id"⟩
  | "bid_retracted" =>
    if m.boolField "was_highest_bid" then
      ⟨m.strField "new_highest_bid_id", withdrawalAmount m, m.strField "new_highest_bidder_id"⟩
    else l
  | _ => l

end Feed

/-- The lead of a snapshot. -/
def AuctionState.lead (s : AuctionState) : Feed.Lead :=
  ⟨s.highestBidId, Json.ofDecimal s.highestAmount, s.highestBidderId⟩

/-- The lead a watcher shows after the messages it received. -/
def Watcher.lead (w : Watcher) : Feed.Lead := w.messages.foldl Feed.Lead.see Feed.Lead.blank

/-- The lead an event sets, if it sets one: a new lead sets its bid, a withdrawal of the lead
the bid it names. -/
def Payload.setsLead? : Payload → Option Feed.Lead
  | .highestUpdated p => some ⟨p.bidId, Json.ofDecimal p.newHighestAmount, p.bidderId⟩
  | .retracted p =>
    if p.wasHighestBid then
      some ⟨p.newHighestBidId, Json.ofDecimal (p.newHighestAmount.getD 0), p.newHighestBidderId⟩
    else none
  | _ => none

namespace Feed

/-! ## The lead after a run of events -/

/-- The lead after events, from a lead. -/
def Lead.afterAll (l : Lead) (evs : List Event) : Lead :=
  evs.foldl (fun l e => e.payload.setsLead?.getD l) l

/-- No events keep the lead. -/
@[simp] theorem Lead.afterAll_nil (l : Lead) : l.afterAll [] = l := rfl

/-- The lead after two runs of events is the lead after the first, carried on by the second. -/
@[simp] theorem Lead.afterAll_append (l : Lead) (xs ys : List Event) :
    l.afterAll (xs ++ ys) = (l.afterAll xs).afterAll ys := List.foldl_append

/-- The lead after events is the one the last of them that sets a lead sets, if one does. -/
theorem Lead.afterAll_eq (l : Lead) (evs : List Event) :
    l.afterAll evs = ((evs.filterMap (·.payload.setsLead?)).getLast?).getD l := by
  induction evs generalizing l with
  | nil => rfl
  | cons e evs ih =>
    rw [afterAll, List.foldl_cons, ← afterAll, ih, List.filterMap_cons]
    cases e.payload.setsLead? <;> simp [List.getLast?_cons]

/-- Following a run of events twice is following it once. -/
theorem Lead.afterAll_idem (l : Lead) (evs : List Event) :
    (l.afterAll evs).afterAll evs = l.afterAll evs := by
  rw [afterAll_eq (l.afterAll evs), afterAll_eq l]
  cases (evs.filterMap (·.payload.setsLead?)).getLast? <;> rfl

/-- Every event of `evs` is in its prefix `A` or in its suffix `B`: `evs` splits into a part
that begins `A` and a part that ends `B`. -/
def Covers (evs A B : List Event) : Prop := ∃ X Y, evs = X ++ Y ∧ X <+: A ∧ Y <:+ B

/-- A prefix and a suffix that cover a run of events lead, one after the other, where the run
leads: the events they share are followed twice, which is following them once. -/
theorem Lead.afterAll_of_covers {l : Lead} {evs A B : List Event} (hA : A <+: evs)
    (hB : B <:+ evs) (hc : Covers evs A B) : l.afterAll (A ++ B) = l.afterAll evs := by
  obtain ⟨X, Y, rfl, ⟨X', rfl⟩, ⟨Y', rfl⟩⟩ := hc
  obtain ⟨A', hA'⟩ := hA
  obtain ⟨B', hB'⟩ := hB
  have hY : X' ++ A' = Y := List.append_cancel_left (by rw [← List.append_assoc]; exact hA')
  have hX : B' ++ Y' = X := List.append_cancel_right (by rw [List.append_assoc]; exact hB')
  subst hY hX
  have hshared := afterAll_idem (l.afterAll B') (Y' ++ X')
  calc l.afterAll (B' ++ Y' ++ X' ++ (Y' ++ (X' ++ A')))
      = (((l.afterAll B').afterAll (Y' ++ X')).afterAll (Y' ++ X')).afterAll A' := by
        simp only [afterAll_append, List.append_assoc]
    _ = ((l.afterAll B').afterAll (Y' ++ X')).afterAll A' := by rw [hshared]
    _ = l.afterAll (B' ++ Y' ++ (X' ++ A')) := by simp only [afterAll_append, List.append_assoc]

/-- A snapshot's lead after an event is the lead the event sets, if it sets one. -/
theorem lead_follow (s : AuctionState) (p : Payload) :
    (follow s p).lead = p.setsLead?.getD s.lead := by
  cases p with
  | highestUpdated q => rfl
  | retracted q =>
    cases hw : q.wasHighestBid
    · simp [follow, Payload.setsLead?, hw]
    · cases hn : q.newHighestAmount <;> simp [follow, Payload.setsLead?, AuctionState.lead, hw, hn]
  | placed _ => rfl
  | accepted _ => rfl
  | rejected _ => rfl

/-- The feed's snapshot leads where its events lead it. -/
theorem lead_followAll (s : AuctionState) (evs : List Event) :
    (followAll s evs).lead = s.lead.afterAll evs := by
  induction evs generalizing s with
  | nil => rfl
  | cons e evs ih => rw [followAll_cons, ih, lead_follow]; rfl

/-! ## What a message shows -/

/-- A snapshot message names the lead's bid id as the state has it, written or left out when empty.
-/
theorem strField_highestBidId (s : AuctionState) :
    s.toJson.strField "highest_bid_id" = s.highestBidId := by
  by_cases h : s.highestBidId.isEmpty <;> by_cases h' : s.highestBidderId.isEmpty <;>
    simp_all [AuctionState.toJson, Json.strField, Json.field?]

/-- A snapshot message names the leader as the state has them, written or left out when empty. -/
theorem strField_highestBidderId (s : AuctionState) :
    s.toJson.strField "highest_bidder_id" = s.highestBidderId := by
  by_cases h : s.highestBidId.isEmpty <;> by_cases h' : s.highestBidderId.isEmpty <;>
    simp_all [AuctionState.toJson, Json.strField, Json.field?]

/-- A snapshot message always writes the lead's amount. -/
theorem field?_highestAmount (s : AuctionState) :
    s.toJson.field? "highest_amount" = some (Json.ofDecimal s.highestAmount) := by
  by_cases h' : s.highestBidderId.isEmpty <;> simp [AuctionState.toJson, Json.field?, h']

/-- A watcher sent a snapshot shows the snapshot's lead. -/
theorem Lead.see_snapshotMessage (l : Lead) (s : AuctionState) :
    l.see (snapshotMessage s) = s.lead := by
  have htype : (snapshotMessage s).strField "type" = "snapshot" := rfl
  have hstate : (snapshotMessage s).field? "state" = some s.toJson := rfl
  simp only [see, htype, hstate, Option.getD_some, strField_highestBidId, strField_highestBidderId,
    field?_highestAmount, AuctionState.lead]

/-- An event's announcement shows the lead the event sets, if it sets one. -/
theorem Lead.see_announcement (l : Lead) {e : Event} {m : Json} (h : (messages e).2 = some m) :
    l.see m = e.payload.setsLead?.getD l := by
  obtain ⟨id, auctionId, occurredAt, p⟩ := e
  cases p with
  | highestUpdated q =>
    simp only [messages, Option.some.injEq] at h
    subst h
    rfl
  | retracted q =>
    simp only [messages, Option.some.injEq] at h
    subst h
    cases hw : q.wasHighestBid
    · simp [see, Json.strField, Json.boolField, Json.field?, Payload.setsLead?, hw]
    · cases hn : q.newHighestAmount <;>
        simp [see, Json.strField, Json.boolField, Json.field?, Payload.setsLead?, withdrawalAmount,
          Json.ofDecimal, hw, hn]
  | placed _ => simp [messages] at h
  | accepted _ => simp [messages] at h
  | rejected _ => simp [messages] at h

/-- An outbid notice shows no new lead. -/
theorem Lead.see_notice (l : Lead) {e : Event} {u : String} {m : Json}
    (h : (messages e).1 = some (u, m)) : l.see m = l := by
  obtain ⟨id, auctionId, occurredAt, p⟩ := e
  cases p with
  | highestUpdated q =>
    simp only [messages] at h
    split at h
    · simp only [Option.some.injEq, Prod.mk.injEq] at h
      obtain ⟨-, rfl⟩ := h
      rfl
    · cases h
  | retracted _ => simp [messages] at h
  | placed _ => simp [messages] at h
  | accepted _ => simp [messages] at h
  | rejected _ => simp [messages] at h

/-- Every message an event sends shows a lead at most once: a second copy shows nothing new. -/
theorem Lead.see_see_of_announcement {e : Event} {m : Json} (h : (messages e).2 = some m)
    (l : Lead) : (l.see m).see m = l.see m := by
  rw [see_announcement _ h, see_announcement _ h]
  cases e.payload.setsLead? <;> rfl

end Feed

/-! ## Messages reaching a watcher -/

/-- A table's value is one of its entries' values. -/
theorem Table.mem_values_of_find? {α : Type} {t : Table α} {k : String} {v : α}
    (h : t.find? k = some v) : v ∈ t.entries.map (·.2) := by
  obtain ⟨x, hx, rfl⟩ := Option.map_eq_some_iff.mp h
  exact List.mem_map_of_mem (List.mem_of_find?_eq_some hx)

/-- A watcher's lead reads only its messages. -/
theorem Watcher.lead_unclosed (w : Watcher) : w.unclosed.lead = w.lead := rfl

namespace Watchers

open Feed

/-- Watcher `c` takes every message it is sent. -/
def Accepts (ws : Watchers) (c : Nat) : Prop := ∀ w, ws.get? c = some w → w.refusesMessages = false

/-- Who is registered where, and how many watchers were opened: what sending leaves alone. -/
def layout (ws : Watchers) : Table (Table Nat) × Table (List Nat) × Nat :=
  (ws.byAuction, ws.byUser, ws.all.length)

/-- Every registered watcher is one that was opened. -/
def Wf (ws : Watchers) : Prop :=
  (∀ a, ∀ id ∈ ws.ofAuction a, id < ws.all.length) ∧ (∀ u, ∀ id ∈ ws.ofUser u, id < ws.all.length)

/-- Registries with one layout list the same watchers for every auction. -/
theorem ofAuction_of_layout {ws ws' : Watchers} (h : ws'.layout = ws.layout) (a : String) :
    ws'.ofAuction a = ws.ofAuction a := by
  simp only [layout, Prod.mk.injEq] at h
  simp only [ofAuction, h.1]

/-- Registries with one layout list the same watchers for every user. -/
theorem ofUser_of_layout {ws ws' : Watchers} (h : ws'.layout = ws.layout) (u : String) :
    ws'.ofUser u = ws.ofUser u := by
  simp only [layout, Prod.mk.injEq] at h
  simp only [ofUser, h.2.1]

/-- A registry with the layout of a well-formed one is well formed. -/
theorem Wf.of_layout {ws ws' : Watchers} (hwf : ws.Wf) (h : ws'.layout = ws.layout) : ws'.Wf := by
  have hlen : ws'.all.length = ws.all.length := by
    simp only [layout, Prod.mk.injEq] at h
    exact h.2.2
  refine ⟨fun a id hid => ?_, fun u id hid => ?_⟩
  · rw [ofAuction_of_layout h] at hid
    exact hlen ▸ hwf.1 a id hid
  · rw [ofUser_of_layout h] at hid
    exact hlen ▸ hwf.2 u id hid

/-- Sending a message registers nobody and opens no watcher. -/
@[simp] theorem layout_send (ws : Watchers) (m : Json) (i : Nat) :
    (ws.send m i).layout = ws.layout := by
  simp [layout, send, modify]

/-- Sending a message to watcher `i` appends it to that watcher's messages, unless the watcher
refuses messages, and leaves every other watcher as it was. -/
theorem get?_send (ws : Watchers) (m : Json) (i j : Nat) :
    (ws.send m i).get? j = (ws.get? j).map fun w =>
      if i = j then (if w.refusesMessages then w else { w with messages := w.messages ++ [m] })
      else w := by
  simp only [send, get?_modify]

/-- A watcher that takes every message still does after a send. -/
theorem accepts_send {ws : Watchers} {c : Nat} (hc : ws.Accepts c) (m : Json) (i : Nat) :
    (ws.send m i).Accepts c := by
  intro w hw
  rw [get?_send] at hw
  obtain ⟨w₀, hw₀, rfl⟩ := Option.map_eq_some_iff.mp hw
  have hr := hc w₀ hw₀
  split <;> simp [hr]

/-- A message sent to a watcher that takes it is the last its lead is folded over. -/
theorem lead_send {ws : Watchers} {c : Nat} (hc : ws.Accepts c) (m : Json) (i : Nat) :
    ((ws.send m i).get? c).map Watcher.lead =
      ((ws.get? c).map Watcher.lead).map fun l => if i = c then l.see m else l := by
  rw [get?_send]
  cases hw : ws.get? c with
  | none => rfl
  | some w =>
    by_cases hi : i = c
    · simp [hi, hc w hw, Watcher.lead, List.foldl_append]
    · simp [hi]

/-- A property every send keeps is kept by sending one message to several watchers. -/
theorem foldl_send_of_send {P : Watchers → Prop} (hsend : ∀ ws m i, P ws → P (ws.send m i))
    (m : Json) (ids : List Nat) {ws : Watchers} (hws : P ws) : P (ids.foldl (send · m) ws) := by
  induction ids generalizing ws with
  | nil => exact hws
  | cons i ids ih => exact ih (hsend ws m i hws)

/-- Sending one message to several watchers reaches each once per time it is listed; for a
message whose second copy shows nothing new, a watcher shows it once if listed. -/
theorem lead_foldl_send {m : Json} (hm : ∀ l : Lead, (l.see m).see m = l.see m)
    (ids : List Nat) {ws : Watchers} {c : Nat} (hc : ws.Accepts c) :
    ((ids.foldl (send · m) ws).get? c).map Watcher.lead =
      ((ws.get? c).map Watcher.lead).map fun l => if c ∈ ids then l.see m else l := by
  induction ids generalizing ws with
  | nil =>
    rw [List.foldl_nil]
    cases ws.get? c <;> simp
  | cons i ids ih =>
    rw [List.foldl_cons, ih (accepts_send hc m i), lead_send hc, Option.map_map]
    congr 1
    funext l
    by_cases hi : i = c
    · subst hi
      by_cases hin : i ∈ ids <;> simp [hin, hm]
    · simp [hi, Ne.symm hi]

/-- A watcher that takes every message still does after a message went to several watchers. -/
theorem accepts_foldl_send {ws : Watchers} {c : Nat} (hc : ws.Accepts c) (m : Json)
    (ids : List Nat) : (ids.foldl (send · m) ws).Accepts c :=
  foldl_send_of_send (P := (·.Accepts c)) (fun _ m i h => accepts_send h m i) m ids hc

/-- A watcher that is not among those a message goes to is left as it was. -/
theorem get?_foldl_send_of_not_mem {m : Json} {ids : List Nat} {c : Nat} (hc : c ∉ ids)
    (ws : Watchers) : (ids.foldl (send · m) ws).get? c = ws.get? c := by
  induction ids generalizing ws with
  | nil => rfl
  | cons i ids ih =>
    rw [List.foldl_cons, ih (fun h => hc (List.mem_cons_of_mem _ h)), get?_send]
    have hi : i ≠ c := fun h => hc (h ▸ List.mem_cons_self)
    cases ws.get? c <;> simp [hi]

/-! ## An event's messages -/

/-- A property every send keeps is kept by an event's messages. -/
theorem announceTo_of_send {P : Watchers → Prop} (hsend : ∀ ws m i, P ws → P (ws.send m i))
    {ws : Watchers} (hws : P ws) (e : Event) : P (announceTo ws e) := by
  rcases hm : messages e with ⟨_ | ⟨u, m⟩, _ | m'⟩ <;>
    simp only [announceTo, hm, notify, broadcast]
  · exact hws
  · exact foldl_send_of_send hsend _ _ hws
  · exact foldl_send_of_send hsend _ _ hws
  · exact foldl_send_of_send hsend _ _ (foldl_send_of_send hsend _ _ hws)

/-- An event's messages change no registration. -/
@[simp] theorem layout_announceTo (ws : Watchers) (e : Event) :
    (announceTo ws e).layout = ws.layout :=
  announceTo_of_send (P := (·.layout = ws.layout)) (fun _ _ _ h => (layout_send _ _ _).trans h)
    rfl e

/-- A watcher that takes every message still does after an event's messages went out. -/
theorem accepts_announceTo {ws : Watchers} {c : Nat} (hc : ws.Accepts c) (e : Event) :
    (announceTo ws e).Accepts c :=
  announceTo_of_send (P := (·.Accepts c)) (fun _ m i h => accepts_send h m i) hc e

/-- Sending to several watchers keeps who is registered where. -/
theorem layout_notify (ws : Watchers) (u : String) (m : Json) :
    (ws.notify u m).layout = ws.layout :=
  foldl_send_of_send (P := (·.layout = ws.layout)) (fun _ _ _ h => (layout_send _ _ _).trans h)
    m (ws.ofUser u) rfl

/-- A watcher that takes every message still does after a notice to a user. -/
theorem accepts_notify {ws : Watchers} {c : Nat} (hc : ws.Accepts c) (u : String) (m : Json) :
    (ws.notify u m).Accepts c :=
  accepts_foldl_send hc m (ws.ofUser u)

/-- A watcher listed nowhere hears nothing. -/
theorem get?_announceTo_of_unlisted {ws : Watchers} {c : Nat}
    (hu : ∀ x, c ∉ ws.ofUser x) (ha : ∀ x, c ∉ ws.ofAuction x) (e : Event) :
    (announceTo ws e).get? c = ws.get? c := by
  have hnotify : ∀ u m, (ws.notify u m).get? c = ws.get? c :=
    fun u _ => get?_foldl_send_of_not_mem (hu u) ws
  rcases hm : messages e with ⟨_ | ⟨u, m⟩, _ | m'⟩
  · simp only [announceTo, hm]
  · simp only [announceTo, hm, broadcast]
    exact get?_foldl_send_of_not_mem (ha _) ws
  · simp only [announceTo, hm]
    exact hnotify u m
  · simp only [announceTo, hm, broadcast]
    rw [get?_foldl_send_of_not_mem (by rw [ofAuction_of_layout (layout_notify ws u m)]; exact ha _),
      hnotify u m]

/-- An event that announces nothing sets no lead. -/
theorem setsLead?_of_unannounced {e : Event} (h : (messages e).2 = none) :
    e.payload.setsLead? = none := by
  obtain ⟨id, auctionId, occurredAt, p⟩ := e
  cases p <;> simp_all [messages, Payload.setsLead?]

/-- An outbid notice shows no new lead to the watchers of the user it goes to. -/
theorem lead_notify {ws : Watchers} {c : Nat} (hc : ws.Accepts c) {e : Event} {u : String}
    {m : Json} (hnotice : (messages e).1 = some (u, m)) :
    ((ws.notify u m).get? c).map Watcher.lead = (ws.get? c).map Watcher.lead := by
  have hinert : ∀ l : Lead, l.see m = l := fun l => Lead.see_notice l hnotice
  rw [notify, lead_foldl_send (fun l => by rw [hinert, hinert]) _ hc]
  cases ws.get? c <;> simp [hinert]

/-- An event's announcement reaches every watcher of its auction once, which then shows the lead
the event sets, if it sets one. -/
theorem lead_broadcast {ws : Watchers} {c : Nat} (hc : ws.Accepts c) {e : Event} {m : Json}
    (hann : (messages e).2 = some m) (hreg : c ∈ ws.ofAuction e.auctionId) :
    ((ws.broadcast e.auctionId m).get? c).map Watcher.lead =
      ((ws.get? c).map Watcher.lead).map fun l => e.payload.setsLead?.getD l := by
  rw [broadcast, lead_foldl_send (Lead.see_see_of_announcement hann) _ hc]
  simp [hreg, Lead.see_announcement _ hann]

/-- A watcher of an event's auction that takes every message shows, after the event's messages,
the lead the event sets, if it sets one. -/
theorem lead_announceTo {ws : Watchers} {c : Nat} (hc : ws.Accepts c) {e : Event}
    (hreg : c ∈ ws.ofAuction e.auctionId) :
    ((announceTo ws e).get? c).map Watcher.lead =
      ((ws.get? c).map Watcher.lead).map fun l => e.payload.setsLead?.getD l := by
  rcases hm : messages e with ⟨_ | ⟨u, m⟩, _ | m'⟩
  · simp only [announceTo, hm]
    rw [setsLead?_of_unannounced (by rw [hm])]
    cases ws.get? c <;> rfl
  · simp only [announceTo, hm]
    exact lead_broadcast hc (by rw [hm]) hreg
  · simp only [announceTo, hm]
    rw [lead_notify hc (by rw [hm]), setsLead?_of_unannounced (by rw [hm])]
    cases ws.get? c <;> rfl
  · simp only [announceTo, hm]
    rw [lead_broadcast (accepts_notify hc u m) (by rw [hm])
        (by rw [ofAuction_of_layout (layout_notify ws u m)]; exact hreg),
      lead_notify hc (by rw [hm])]

/-! ## The watcher a watch opens -/

/-- A new watcher is stored at the next index, for its user and auction, with no messages and open.
-/
theorem get?_add_self (ws : Watchers) (u a : String) (r f : Bool) :
    (ws.add u a r f).2.get? ws.all.length = some ⟨ws.all.length, u, a, r, f, [], false⟩ := by
  simp [add, get?]

/-- A new watcher that does not refuse messages takes every message. -/
theorem accepts_add_self (ws : Watchers) (u a : String) (f : Bool) :
    (ws.add u a false f).2.Accepts ws.all.length := by
  intro w hw
  rw [get?_add_self, Option.some.injEq] at hw
  rw [← hw]

/-- A watcher registered for a user on an auction is among the auction's watchers. -/
theorem mem_ofAuction_of_current? {ws : Watchers} {u a : String} {c : Nat}
    (h : ws.current? u a = some c) : c ∈ ws.ofAuction a := by
  obtain ⟨users, husers, hc⟩ := Option.bind_eq_some_iff.mp h
  simp only [ofAuction, husers, Option.map_some, Option.getD_some]
  exact Table.mem_values_of_find? hc

/-- A registered watcher is among the watchers of its auction. -/
theorem mem_ofAuction_register (ws : Watchers) (u a : String) (c : Nat) :
    c ∈ (ws.register u a c).ofAuction a :=
  mem_ofAuction_of_current? (u := u) (by rw [current?_register]; simp)

/-- What registering leaves of a watcher, which is all but whether it is closed, it leaves of
every reading that ignores that. -/
theorem map_get?_of_unclosed {β : Type} {ws ws' : Watchers} {c : Nat} {f : Watcher → β}
    (hf : ∀ w, f w.unclosed = f w)
    (h : (ws'.get? c).map Watcher.unclosed = (ws.get? c).map Watcher.unclosed) :
    (ws'.get? c).map f = (ws.get? c).map f := by
  have hmap := congrArg (Option.map f) h
  simpa only [Option.map_map, Function.comp_def, hf] using hmap

/-- Whether a watcher takes every message survives every change that leaves it as it was but for
whether it is closed. -/
theorem accepts_of_unclosed {ws ws' : Watchers} {c : Nat}
    (h : (ws'.get? c).map Watcher.unclosed = (ws.get? c).map Watcher.unclosed)
    (hc : ws.Accepts c) : ws'.Accepts c := by
  intro w hw
  have hr := map_get?_of_unclosed (f := Watcher.refusesMessages) (fun _ => rfl) h
  rw [hw, Option.map_some] at hr
  obtain ⟨w₀, hw₀, heq⟩ := Option.map_eq_some_iff.mp hr.symm
  rw [← heq]
  exact hc w₀ hw₀

end Watchers

namespace Interleaving

variable {α : Type} {xs ys zs : List α}

/-- An interleaving runs what each side runs, and nothing else. -/
theorem mem_iff {x : α} (h : Interleaving xs ys zs) : x ∈ zs ↔ x ∈ xs ∨ x ∈ ys := by
  induction h with
  | nil => simp
  | left _ ih => rw [List.mem_cons, List.mem_cons, ih, or_assoc]
  | right _ ih => rw [List.mem_cons, List.mem_cons, ih, or_left_comm]

/-- What is picked out of an interleaving whose left side has nothing to pick is what is picked
out of its right side, in order. -/
theorem filterMap_eq_right {β : Type} {f : α → Option β} (h : Interleaving xs ys zs)
    (hxs : ∀ x ∈ xs, f x = none) : zs.filterMap f = ys.filterMap f := by
  induction h with
  | nil => rfl
  | left _ ih =>
    rw [List.filterMap_cons_none (hxs _ List.mem_cons_self),
      ih fun x hx => hxs x (List.mem_cons_of_mem _ hx)]
  | right _ ih => rw [List.filterMap_cons, List.filterMap_cons, ih hxs]

end Interleaving

namespace Feed

open Watchers

/-! ## A run of the listener -/

/-- Whether a section is the listener's. -/
def WatchSection.isListener : WatchSection → Bool
  | .follow _ | .announce _ => true
  | _ => false

/-- The events a run of sections has the feed's snapshot follow, in order. -/
def followedIn (zs : List WatchSection) : List Event :=
  zs.filterMap fun
    | .follow e => some e
    | _ => none

/-- The events whose messages a run of sections sends, in order. -/
def announcedIn (zs : List WatchSection) : List Event :=
  zs.filterMap fun
    | .announce e => some e
    | _ => none

/-- The sections run before a watch reads its snapshot. -/
def beforeRead (zs : List WatchSection) : List WatchSection := zs.takeWhile (!·.isRead)

/-- The sections run after a watch registers its watcher. -/
def afterRegister (zs : List WatchSection) : List WatchSection :=
  (zs.dropWhile (!·.isRegister)).drop 1

/-- The events followed in two runs of sections are those of the first, then those of the second. -/
@[simp] theorem followedIn_append (xs ys : List WatchSection) :
    followedIn (xs ++ ys) = followedIn xs ++ followedIn ys := List.filterMap_append

/-- The events announced in two runs of sections are those of the first, then those of the second.
-/
@[simp] theorem announcedIn_append (xs ys : List WatchSection) :
    announcedIn (xs ++ ys) = announcedIn xs ++ announcedIn ys := List.filterMap_append

/-- The listener's sections for events have the snapshot follow exactly those events. -/
@[simp] theorem followedIn_listening (evs : List Event) : followedIn (listening evs) = evs := by
  induction evs with
  | nil => rfl
  | cons e evs ih =>
    rw [listening, List.flatMap_cons, followedIn_append, ← listening, ih]
    rfl

/-- The listener's sections for events announce exactly those events. -/
@[simp] theorem announcedIn_listening (evs : List Event) : announcedIn (listening evs) = evs := by
  induction evs with
  | nil => rfl
  | cons e evs ih =>
    rw [listening, List.flatMap_cons, announcedIn_append, ← listening, ih]
    rfl

/-- Every section of the listener's run for events is the listener's. -/
theorem isListener_of_mem_listening {evs : List Event} {x : WatchSection}
    (h : x ∈ listening evs) : x.isListener = true := by
  obtain ⟨e, -, hx⟩ := List.mem_flatMap.mp h
  simp only [handling, List.mem_cons, List.not_mem_nil, or_false] at hx
  rcases hx with rfl | rfl <;> rfl

/-- The listener reads no snapshot and registers nothing. -/
theorem not_isRead_and_not_isRegister {x : WatchSection} (h : x.isListener = true) :
    x.isRead = false ∧ x.isRegister = false := by
  cases x <;> simp_all [WatchSection.isListener, WatchSection.isRead, WatchSection.isRegister]

/-- Before a watch reads its snapshot, only the listener's sections that came first have run. -/
theorem beforeRead_of_listener {P : List WatchSection} (hP : ∀ x ∈ P, x.isListener = true)
    (a : String) (rest : List WatchSection) : beforeRead (P ++ .read a :: rest) = P := by
  rw [beforeRead, List.takeWhile_append_of_pos
    (fun x hx => by simp [(not_isRead_and_not_isRegister (hP x hx)).1]),
    List.takeWhile_cons_of_neg (by simp [WatchSection.isRead]), List.append_nil]

/-- After a watch registers its watcher, the sections that run are those that follow the
registration, whatever the listener ran between the watch's own sections. -/
theorem afterRegister_of_listener {P Q R : List WatchSection}
    (hP : ∀ x ∈ P, x.isListener = true) (hQ : ∀ x ∈ Q, x.isListener = true)
    (hR : ∀ x ∈ R, x.isListener = true) (u a : String) (T : List WatchSection) :
    afterRegister (P ++ .read a :: Q ++ .send u a :: R ++ .register u a :: T) = T := by
  have hbefore : ∀ x ∈ P ++ .read a :: Q ++ .send u a :: R, (!x.isRegister) = true := by
    intro x hx
    simp only [List.mem_append, List.mem_cons] at hx
    rcases hx with (hx | rfl | hx) | rfl | hx
    · simp [(not_isRead_and_not_isRegister (hP x hx)).2]
    · rfl
    · simp [(not_isRead_and_not_isRegister (hQ x hx)).2]
    · rfl
    · simp [(not_isRead_and_not_isRegister (hR x hx)).2]
  rw [afterRegister, List.dropWhile_append_of_pos hbefore,
    List.dropWhile_cons_of_neg (by simp [WatchSection.isRegister])]
  rfl

/-- Running sections is running the first, then the rest. -/
@[simp] theorem runSections_cons (w : Watch) (x : WatchSection) (zs : List WatchSection) :
    runSections w (x :: zs) = runSections (x.run w) zs := rfl

/-- Running two runs of sections is running the first, then the second from where it left off. -/
@[simp] theorem runSections_append (w : Watch) (xs ys : List WatchSection) :
    runSections w (xs ++ ys) = runSections (runSections w xs) ys := List.foldl_append

/-- The listener's sections touch the feed's snapshots and the watchers apart: a run of them
has the snapshots follow its events and the watchers hear its announcements, each in order. -/
theorem runSections_listener {zs : List WatchSection} (hz : ∀ x ∈ zs, x.isListener = true)
    (w : Watch) :
    runSections w zs =
      { w with house := { w.house with
          snapshots := (followedIn zs).foldl applyTo w.house.snapshots,
          watchers := (announcedIn zs).foldl announceTo w.house.watchers } } := by
  induction zs generalizing w with
  | nil => rfl
  | cons x zs ih =>
    rw [runSections_cons, ih (fun y hy => hz y (List.mem_cons_of_mem _ hy))]
    cases x with
    | follow e => rfl
    | announce e => rfl
    | read _ | send _ _ | register _ _ => simp [WatchSection.isListener] at hz

/-- The feed's snapshot of an auction follows the events of that auction, in order. -/
theorem find?_foldl_applyTo {a : String} {evs : List Event} (hevs : ∀ e ∈ evs, e.auctionId = a)
    (t : Table AuctionState) :
    (evs.foldl applyTo t).find? a = (t.find? a).map (followAll · evs) := by
  induction evs generalizing t with
  | nil => simp
  | cons e evs ih =>
    rw [List.foldl_cons, ih (fun e' he' => hevs e' (List.mem_cons_of_mem _ he'))]
    have ha := hevs e List.mem_cons_self
    unfold applyTo
    cases hs : t.find? e.auctionId with
    | none => simp [← ha, hs]
    | some s => simp [← ha, hs, Table.find?_insert, followAll_cons]

/-- Following events keeps every snapshot the feed holds. -/
theorem isSome_find?_applyTo (t : Table AuctionState) (e : Event) (a : String) :
    ((applyTo t e).find? a).isSome = (t.find? a).isSome := by
  unfold applyTo
  cases hs : t.find? e.auctionId with
  | none => rfl
  | some s =>
    rw [Table.find?_insert]
    split
    · rename_i h
      subst h
      simp [hs]
    · rfl

/-- An event's messages register nobody and open no watcher, one event after another. -/
@[simp] theorem layout_foldl_announceTo (evs : List Event) (ws : Watchers) :
    (evs.foldl announceTo ws).layout = ws.layout := by
  induction evs generalizing ws with
  | nil => rfl
  | cons e evs ih => rw [List.foldl_cons, ih, layout_announceTo]

/-- A watcher listed nowhere hears none of the events. -/
theorem get?_foldl_announceTo_of_unlisted {ws : Watchers} {c : Nat}
    (hu : ∀ x, c ∉ ws.ofUser x) (ha : ∀ x, c ∉ ws.ofAuction x) (evs : List Event) :
    (evs.foldl announceTo ws).get? c = ws.get? c := by
  induction evs generalizing ws with
  | nil => rfl
  | cons e evs ih =>
    have hlayout := layout_announceTo ws e
    rw [List.foldl_cons, ih (by simpa only [ofUser_of_layout hlayout] using hu)
      (by simpa only [ofAuction_of_layout hlayout] using ha), get?_announceTo_of_unlisted hu ha]

/-- A watcher of the auction that takes every message ends showing where the events lead. -/
theorem lead_foldl_announceTo {a : String} {evs : List Event} (hevs : ∀ e ∈ evs, e.auctionId = a)
    {ws : Watchers} {c : Nat} (hc : ws.Accepts c) (hreg : c ∈ ws.ofAuction a) :
    ((evs.foldl announceTo ws).get? c).map Watcher.lead =
      ((ws.get? c).map Watcher.lead).map (·.afterAll evs) := by
  induction evs generalizing ws with
  | nil =>
    rw [List.foldl_nil]
    cases ws.get? c <;> simp
  | cons e evs ih =>
    have he := hevs e List.mem_cons_self
    have hreg' : c ∈ (announceTo ws e).ofAuction a := by
      rw [ofAuction_of_layout (layout_announceTo ws e)]
      exact hreg
    rw [List.foldl_cons, ih (fun e' he' => hevs e' (List.mem_cons_of_mem _ he'))
      (accepts_announceTo hc e) hreg', lead_announceTo hc (he ▸ hreg), Option.map_map]
    rfl

/-! ## The sections of a new watch -/

/-- A snapshot the feed holds is returned as it is, and nothing changes. -/
theorem snapshot_of_cached {a : String} {s : AuctionState} {hooks : Hooks} {h : House}
    (hs : h.snapshots.find? a = some s) : ((Feed.snapshot a).run hooks).run h = (.ok s, h) := by
  rw [Feed.snapshot, House.run_get_bind]
  simp only [hs]
  rfl

/-- A watch reading a snapshot the feed holds keeps it and changes nothing else. -/
theorem run_read_of_cached {w : Watch} {a : String} {s : AuctionState}
    (hs : w.house.snapshots.find? a = some s) :
    (WatchSection.read a).run w = { w with snapshot := some s } := by
  simp only [WatchSection.run, snapshot_of_cached hs]
  rfl

/-- A watch that read a snapshot opens a watcher at the next index and sends it the snapshot. -/
theorem run_send {w : Watch} {s : AuctionState} (hs : w.snapshot = some s) (u a : String) :
    (WatchSection.send u a).run w =
      { w with
        house :=
          { w.house with
            watchers := (w.house.watchers.add u a false false).2.send (snapshotMessage s)
              w.house.watchers.all.length },
        watcher := some w.house.watchers.all.length } := by
  simp only [WatchSection.run, hs]
  rfl

/-- A watch that opened a watcher registers it for its user on its auction. -/
theorem run_register {w : Watch} {c : Nat} (hc : w.watcher = some c) (u a : String) :
    (WatchSection.register u a).run w =
      { w with house := { w.house with watchers := w.house.watchers.register u a c } } := by
  simp only [WatchSection.run, hc]

/-- Every section but the listener's following leaves the feed's snapshots alone, a read of a
snapshot the feed holds included. -/
theorem snapshots_run {w : Watch} {x : WatchSection}
    (hx : ∀ b, x = .read b → (w.house.snapshots.find? b).isSome) :
    (x.run w).house.snapshots = (followedIn [x]).foldl applyTo w.house.snapshots := by
  cases x with
  | read b =>
    obtain ⟨s, hs⟩ := Option.isSome_iff_exists.mp (hx b rfl)
    rw [run_read_of_cached hs]
    rfl
  | send u b =>
    simp only [WatchSection.run]
    split <;> rfl
  | register u b =>
    simp only [WatchSection.run]
    split <;> rfl
  | follow e => rfl
  | announce e => rfl

/-- The feed's snapshots follow the listener's events, when every read is of an auction the
feed holds. -/
theorem snapshots_runSections {a : String} {zs : List WatchSection}
    (hreads : ∀ b, WatchSection.read b ∈ zs → b = a) {w : Watch}
    (hs : (w.house.snapshots.find? a).isSome) :
    (runSections w zs).house.snapshots = (followedIn zs).foldl applyTo w.house.snapshots := by
  induction zs generalizing w with
  | nil => rfl
  | cons x zs ih =>
    have hx : (x.run w).house.snapshots = (followedIn [x]).foldl applyTo w.house.snapshots :=
      snapshots_run fun b hb => hreads b (hb ▸ List.mem_cons_self) ▸ hs
    have hs' : ((x.run w).house.snapshots.find? a).isSome := by
      rw [hx]
      cases x with
      | follow e => exact (isSome_find?_applyTo _ e a).trans hs
      | read _ | send _ _ | register _ _ | announce _ => exact hs
    rw [runSections_cons, ih (fun b hb => hreads b (List.mem_cons_of_mem _ hb)) hs', hx,
      ← List.foldl_append, ← followedIn_append]
    rfl

/-- What a watch shows: the lead its watcher shows, once it opened one. -/
def Watch.shown (w : Watch) : Option Lead := (w.watcher.bind w.house.watchers.get?).map Watcher.lead

/-- The lead of the feed's snapshot of an auction. -/
def Watch.feedLead (w : Watch) (a : String) : Option Lead :=
  (w.house.snapshots.find? a).map AuctionState.lead

/-- A watcher opened with snapshot `s` and registered after a run `R` of the listener shows the
lead of `s` moved by the events announced after its registration: it hears nothing before. -/
theorem shown_of_opened {w : Watch} {s : AuctionState} {u a : String} {R T : List WatchSection}
    (hs : w.snapshot = some s) (hwf : w.house.watchers.Wf)
    (hR : ∀ x ∈ R, x.isListener = true) (hT : ∀ x ∈ T, x.isListener = true)
    (hevs : ∀ e ∈ announcedIn T, e.auctionId = a) :
    (runSections w (.send u a :: R ++ .register u a :: T)).shown =
      some (s.lead.afterAll (announcedIn T)) := by
  set c := w.house.watchers.all.length with hc
  let ws₁ := (w.house.watchers.add u a false false).2.send (snapshotMessage s) c
  have hc₁ : (ws₁.get? c).map Watcher.lead = some s.lead := by
    rw [lead_send (accepts_add_self _ u a false), get?_add_self]
    simp [hc, Watcher.lead, Lead.see_snapshotMessage]
  have hacc₁ : ws₁.Accepts c := accepts_send (accepts_add_self _ u a false) _ _
  have hu : ∀ x, c ∉ ws₁.ofUser x := fun x hx => lt_irrefl c (hwf.2 x c hx)
  have ha : ∀ x, c ∉ ws₁.ofAuction x := fun x hx => lt_irrefl c (hwf.1 x c hx)
  let ws₂ := (announcedIn R).foldl announceTo ws₁
  have hc₂ : ws₂.get? c = ws₁.get? c := get?_foldl_announceTo_of_unlisted hu ha _
  let ws₃ := ws₂.register u a c
  have hunc := unclosed_register ws₂ u a c c
  have hc₃ : (ws₃.get? c).map Watcher.lead = some s.lead := by
    rw [map_get?_of_unclosed Watcher.lead_unclosed hunc, hc₂, hc₁]
  have hacc₃ : ws₃.Accepts c :=
    accepts_of_unclosed hunc fun w' hw' => hacc₁ w' (hc₂ ▸ hw')
  rw [runSections_append, runSections_cons w, run_send hs, runSections_listener hR,
    runSections_cons, run_register rfl, runSections_listener hT]
  show ((((announcedIn T).foldl announceTo ws₃).get? c).map Watcher.lead) = _
  rw [lead_foldl_announceTo hevs hacc₃ (mem_ofAuction_register ws₂ u a c), hc₃]
  rfl

/-- The feed's snapshot follows every event the listener handles, wherever the watch's sections
fall: the watch only reads it. -/
theorem feedLead_of_opening {h : House} {u a : String} {s₀ : AuctionState} {evs : List Event}
    {zs : List WatchSection} (hs₀ : h.snapshots.find? a = some s₀)
    (hevs : ∀ e ∈ evs, e.auctionId = a) (hzs : Interleaving (opening u a) (listening evs) zs) :
    (runSections ⟨h, none, none⟩ zs).feedLead a = some (s₀.lead.afterAll evs) := by
  have hreads : ∀ b, WatchSection.read b ∈ zs → b = a := by
    intro b hb
    rcases hzs.mem_iff.mp hb with hb | hb
    · simpa [opening] using hb
    · exact absurd (isListener_of_mem_listening hb) (by simp [WatchSection.isListener])
  have hfollowed : followedIn zs = evs := by
    rw [← followedIn_listening evs]
    refine hzs.filterMap_eq_right fun x hx => ?_
    simp only [opening, List.mem_cons, List.not_mem_nil, or_false] at hx
    rcases hx with rfl | rfl | rfl <;> rfl
  rw [Watch.feedLead, snapshots_runSections hreads (by simp [hs₀]), hfollowed,
    find?_foldl_applyTo hevs, hs₀]
  simp [lead_followAll]

/-- Cut by the watch's sections into `P`, `Q`, `R` and `T`, the listener's run leaves the
watcher showing the snapshot read after `P`, moved by what `T` announces. -/
theorem shown_of_opening_cut {h : House} {u a : String} {s₀ : AuctionState}
    {P Q R T : List WatchSection} (hP : ∀ x ∈ P, x.isListener = true)
    (hQ : ∀ x ∈ Q, x.isListener = true) (hR : ∀ x ∈ R, x.isListener = true)
    (hT : ∀ x ∈ T, x.isListener = true) (hwf : h.watchers.Wf)
    (hs₀ : h.snapshots.find? a = some s₀) (hPa : ∀ e ∈ followedIn P, e.auctionId = a)
    (hTa : ∀ e ∈ announcedIn T, e.auctionId = a) :
    (runSections ⟨h, none, none⟩ (P ++ .read a :: Q ++ .send u a :: R ++ .register u a :: T)).shown =
      some ((s₀.lead.afterAll (followedIn P)).afterAll (announcedIn T)) := by
  have hread : (runSections ⟨h, none, none⟩ P).house.snapshots.find? a =
      some (followAll s₀ (followedIn P)) := by
    rw [runSections_listener hP, find?_foldl_applyTo hPa, hs₀]
    rfl
  have hopen : runSections ⟨h, none, none⟩ (P ++ .read a :: Q) =
      runSections { runSections ⟨h, none, none⟩ P with
        snapshot := some (followAll s₀ (followedIn P)) } Q := by
    rw [runSections_append, runSections_cons, run_read_of_cached hread]
  have hwfQ : (runSections ⟨h, none, none⟩ (P ++ .read a :: Q)).house.watchers.Wf := by
    rw [hopen, runSections_listener hQ, runSections_listener hP]
    exact hwf.of_layout (by simp)
  have hsQ : (runSections ⟨h, none, none⟩ (P ++ .read a :: Q)).snapshot =
      some (followAll s₀ (followedIn P)) := by
    rw [hopen, runSections_listener hQ]
  rw [List.append_assoc (P ++ .read a :: Q), runSections_append _ (P ++ .read a :: Q),
    shown_of_opened hsQ hwfQ hR hT hTa, lead_followAll]

/-- A new watch opened beside the listener ends showing the lead of the feed's snapshot when
every event the listener handles is followed before the watch reads the snapshot or announced
after it registers its watcher. -/
theorem watch_shows_feed_lead_of_covered {h : House} {u a : String} {evs : List Event}
    {zs : List WatchSection} (hwf : h.watchers.Wf) (hcached : (h.snapshots.find? a).isSome)
    (hevs : ∀ e ∈ evs, e.auctionId = a) (hzs : Interleaving (opening u a) (listening evs) zs)
    (hcover : Covers evs (followedIn (beforeRead zs)) (announcedIn (afterRegister zs))) :
    ∃ l, (runSections ⟨h, none, none⟩ zs).shown = some l ∧
      (runSections ⟨h, none, none⟩ zs).feedLead a = some l := by
  obtain ⟨s₀, hs₀⟩ := Option.isSome_iff_exists.mp hcached
  refine ⟨s₀.lead.afterAll evs, ?_, feedLead_of_opening hs₀ hevs hzs⟩
  obtain ⟨P, Q, R, T, hsplit, rfl⟩ := hzs.three_left
  have hL : ∀ x ∈ P ++ Q ++ R ++ T, x.isListener = true :=
    fun x hx => isListener_of_mem_listening (hsplit ▸ hx)
  simp only [List.mem_append, or_imp, forall_and] at hL
  obtain ⟨⟨⟨hP, hQ⟩, hR⟩, hT⟩ := hL
  have hfollowed : evs = followedIn P ++ (followedIn Q ++ followedIn R ++ followedIn T) := by
    rw [← followedIn_listening evs, hsplit]
    simp only [followedIn_append, List.append_assoc]
  have hannounced : evs = announcedIn P ++ announcedIn Q ++ announcedIn R ++ announcedIn T := by
    rw [← announcedIn_listening evs, hsplit]
    simp only [announcedIn_append]
  rw [afterRegister_of_listener hP hQ hR, List.append_assoc, List.append_assoc,
    List.cons_append, List.cons_append, beforeRead_of_listener hP] at hcover
  rw [shown_of_opening_cut hP hQ hR hT hwf hs₀
      (fun e he => hevs e (hfollowed ▸ List.mem_append_left _ he))
      (fun e he => hevs e (hannounced ▸ List.mem_append_right _ he)),
    ← Lead.afterAll_append,
    Lead.afterAll_of_covers ⟨_, hfollowed.symm⟩ ⟨_, hannounced.symm⟩ hcover]

/-- An auction led by bid `b-1` of `u` at 100, the only bid. -/
def ledSnapshot : AuctionState :=
  { auctionId := "a-1", highestBidId := "b-1", highestAmount := 100, highestBidderId := "u",
    minimumNextBid := 110, bidCount := 1, activeAutoBids := 0, closed := false, version := 1 }

/-- A house whose feed holds that snapshot and has no watchers. -/
def ledHouse : House := { (default : House) with snapshots := Table.empty.insert "a-1" ledSnapshot }

/-- The withdrawal of that lead, which leaves the auction without one. -/
def lastWithdrawal : Event :=
  { id := "id-1", auctionId := "a-1", occurredAt := Instant.zero,
    payload := .retracted
      { bidId := "b-1", auctionId := "a-1", bidderId := "u", amount := 100, reason := "typo",
        wasHighestBid := true } }

/-- A watch that opens before the listener follows and announces the withdrawal of the only lead
shows the lead the feed's snapshot shows. -/
theorem watch_shows_feed_lead_of_covered_opened_first :
    ∃ l, (runSections ⟨ledHouse, none, none⟩
        (opening "w" "a-1" ++ listening [lastWithdrawal])).shown = some l ∧
      (runSections ⟨ledHouse, none, none⟩
        (opening "w" "a-1" ++ listening [lastWithdrawal])).feedLead "a-1" = some l :=
  watch_shows_feed_lead_of_covered
    ⟨fun _ _ hid => (nomatch hid), fun _ _ hid => (nomatch hid)⟩ rfl
    (fun e he => by simp [List.mem_singleton.mp he, lastWithdrawal])
    (.left (.left (.left (.right (.right .nil)))))
    ⟨[], [lastWithdrawal], rfl, List.nil_prefix, List.suffix_refl _⟩

/-- A watch that reads the snapshot before the listener follows the withdrawal of the lead, and
opens its watcher after the listener announced it, shows the withdrawn bid as the lead while
the feed's snapshot has none. -/
theorem watch_misses_event_handled_in_window :
    Interleaving (opening "w" "a-1") (listening [lastWithdrawal])
        [.read "a-1", .follow lastWithdrawal, .announce lastWithdrawal, .send "w" "a-1",
          .register "w" "a-1"] ∧
      ((runSections ⟨ledHouse, none, none⟩
        [.read "a-1", .follow lastWithdrawal, .announce lastWithdrawal, .send "w" "a-1",
          .register "w" "a-1"]).shown.map (·.bidId)) = some "b-1" ∧
      ((runSections ⟨ledHouse, none, none⟩
        [.read "a-1", .follow lastWithdrawal, .announce lastWithdrawal, .send "w" "a-1",
          .register "w" "a-1"]).feedLead "a-1").map (·.bidId) = some "" :=
  ⟨.left (.right (.right (.left (.left .nil)))), by decide, by decide⟩

end Feed

end Auction
