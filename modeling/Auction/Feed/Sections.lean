import Auction.Feed.Listener

/-!
# Atomic sections · the feed's calls side by side

The feed's calls run side by side. A new watch of an auction opens while the listener hands
events to the feed, and a watcher whose read loop ended unregisters while another connection of
the same user registers. Each call is a short list of atomic sections, each run under one lock,
and two calls side by side run an interleaving of their sections (`Interleaving`): every
section of each, in each call's own order.

Opening a watch takes three sections (`opening`): the feed's snapshot of the auction is read,
and loaded from the ledger on first use; a new watcher is opened and sent that snapshot; and
the watcher is registered. The listener handles each event in two (`handling`): the feed's
snapshot of the event's auction follows the event, and then the event's messages go out.

A watcher whose read loop ended unregisters in two sections (`unregistering`): the check,
under the read lock, that it is still the watcher registered for its user and auction, and
then, if it was, the disconnection of whatever is registered for them. Registering is one
section.
-/

namespace Auction

/-- `zs` runs all of `xs` and all of `ys`, each in its own order. -/
inductive Interleaving {α : Type} : List α → List α → List α → Prop
  | nil : Interleaving [] [] []
  | left {x : α} {xs ys zs : List α} : Interleaving xs ys zs → Interleaving (x :: xs) ys (x :: zs)
  | right {y : α} {xs ys zs : List α} : Interleaving xs ys zs → Interleaving xs (y :: ys) (y :: zs)

namespace Feed

/-! ## A new watch beside the listener -/

/-- A new watch being opened beside the listener: the house, what the watch's snapshot read
returned, and the watcher it opened. -/
structure Watch where
  house : House
  snapshot : Option AuctionState
  watcher : Option Nat

/-- An atomic section of opening a watch or of the listener. -/
inductive WatchSection
  /-- The watch reads the feed's snapshot of its auction. -/
  | read (auctionId : String)
  /-- The watch opens its watcher and sends it the snapshot. -/
  | send (userId auctionId : String)
  /-- The watch registers its watcher. -/
  | register (userId auctionId : String)
  /-- The listener has the feed's snapshot follow an event. -/
  | follow (e : Event)
  /-- The listener sends an event's messages. -/
  | announce (e : Event)

namespace WatchSection

/-- Whether a section is the watch's read. -/
def isRead : WatchSection → Bool
  | .read _ => true
  | _ => false

/-- Whether a section is the watch's registration. -/
def isRegister : WatchSection → Bool
  | .register _ _ => true
  | _ => false

/-- Runs a section. A watch whose snapshot could not be read answers with an error and opens
nothing; a live connection takes every message. -/
def run (w : Watch) : WatchSection → Watch
  | .read a =>
    let (r, h) := ((Feed.snapshot a).run ⟨pure ()⟩).run w.house
    { w with house := h, snapshot := r.toOption }
  | .send u a =>
    match w.snapshot with
    | some s =>
      let (id, ws) := w.house.watchers.add u a false false
      { w with house := { w.house with watchers := ws.send (snapshotMessage s) id },
               watcher := some id }
    | none => w
  | .register u a =>
    match w.watcher with
    | some id => { w with house := { w.house with watchers := w.house.watchers.register u a id } }
    | none => w
  | .follow e => { w with house := { w.house with snapshots := applyTo w.house.snapshots e } }
  | .announce e => { w with house := { w.house with watchers := announceTo w.house.watchers e } }

end WatchSection

/-- The sections of opening a watch of `auctionId` for `userId`, in order. -/
def opening (userId auctionId : String) : List WatchSection :=
  [.read auctionId, .send userId auctionId, .register userId auctionId]

/-- The sections of the listener handling one event. -/
def handling (e : Event) : List WatchSection := [.follow e, .announce e]

/-- The sections of the listener handling events one after another. -/
def listening (evs : List Event) : List WatchSection := evs.flatMap handling

/-- Runs sections in order. -/
def runSections (w : Watch) (zs : List WatchSection) : Watch := zs.foldl WatchSection.run w

/-! ## A replaced watcher unregistering beside a registration -/

/-- The registry as calls side by side see it: the watchers, and those whose check found them
still registered and who are about to disconnect. -/
structure Registering where
  watchers : Watchers
  checked : List Nat

/-- An atomic section of registering or unregistering a watcher. -/
inductive RegistrySection
  /-- A watcher is registered for a user on an auction. -/
  | register (userId auctionId : String) (id : Nat)
  /-- A watcher whose read loop ended checks that it is still registered. -/
  | check (id : Nat)
  /-- That watcher, if its check found it registered, disconnects its user on its auction. -/
  | release (id : Nat)

/-- Runs a section. -/
def RegistrySection.run (s : Registering) : RegistrySection → Registering
  | .register u a id => { s with watchers := s.watchers.register u a id }
  | .check id => if s.watchers.isCurrent id then { s with checked := id :: s.checked } else s
  | .release id =>
    if id ∈ s.checked then
      { watchers := s.watchers.disconnect (s.watchers.userOf id) (s.watchers.auctionOf id),
        checked := s.checked.erase id }
    else s

/-- The sections of unregistering a watcher whose read loop ended, in order. -/
def unregistering (id : Nat) : List RegistrySection := [.check id, .release id]

/-- Runs registry sections in order. -/
def runRegistry (s : Registering) (zs : List RegistrySection) : Registering :=
  zs.foldl RegistrySection.run s

end Feed

end Auction
