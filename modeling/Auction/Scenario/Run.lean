import Auction.Scenario.Step
import Auction.Scenario.Web
import Auction.Event.Json

/-!
# Running a scenario

A scenario is a list of steps run in order against one house. Each step is read when it runs
(`StepInput.read`); a step that cannot be read is answered by the input error alone. The answer
to a step is its own members, with `op`, and:

* `published`, the events published during the step, in order (left out when none);
* `commits`, the number of book commits tried during the step (left out when none);

and, for a step of the scenario itself (not one run inside a commit):

* `interleaved`, the answers of the steps that commits ran on the way (`inject` sets them);
* `feed`, what each watcher received during the step and whether it is now closed, for the
  watchers where anything changed. When the scenario asks for it, the events a step published
  are handed to the feed after the step, in order, each as its JSON text read back;
* `feed_errors`, the events the feed could not read back (one without a JSON form reads back
  as an event of no type).

Steps run inside a commit can set steps to run inside a later commit in turn. How deep this
can nest is bounded by how deeply the scenario's JSON nests, which is the fuel of
`Scenario.runNested`: with no fuel left, steps set to run inside a commit are dropped.
-/

namespace Auction

namespace Scenario

/-- The members a step answers with, by its `op`. -/
def fields (s : StepInput) : HouseM Fields :=
  match s.op with
  | "place" => place s
  | "retract" => retract s
  | "create_autobid" => createAutoBidStep s
  | "toggle_autobid" => toggleAutoBidStep s
  | "cancel_autobid" => cancelAutoBidStep s
  | "finish" => finish s
  | "state" => stateStep s
  | "book" => book s
  | "find_bid" => do return indexFields (← House.findBidAuction s.bidId)
  | "find_autobid" => do return indexFields (← House.findAutoBidAuction s.autoBidId)
  | "seed" => seed s
  | "advance" => advance s
  | "set_now" => setNow s
  | "set_auction" => setAuction s
  | "remove_auction" => removeAuction s
  | "set_status" => setStatus s
  | "get_status" => getStatus s
  | "live" => live s
  | "inject" => inject s
  | "store_reserve" => storeReserve s
  | "store_complete" => storeComplete s
  | "store_release" => storeRelease s
  | "store_purge" => storePurge
  | "redis_set" => serverSet s
  | "redis_hset" => serverHashSet s
  | "redis_get" => serverGet s
  | "feed_connect" => feedConnect s
  | "feed_unregister" => feedUnregister s
  | "feed_connections" => feedConnections s
  | "feed_snapshot" => feedSnapshot s
  | "feed_finished" => feedFinished s
  | "feed_broadcast" => feedBroadcast s
  | "feed_close" => feedClose s
  | "ws_open" => socketOpen
  | "ws_send" | "ws_read" | "ws_close" => socketUse s
  | "leader_become" | "leader_is" | "leader_release" => leaderStep s.op
  | "archive_run" => archiveRun
  | "pubsub" => subscribe
  | "http" => httpStep s
  | "ws_connect" => watchStep s
  | op => pure (Report.inputErrorFields ("unknown step op " ++ Text.quote op))

/-- Runs the steps set to run inside a commit, with `run`, and keeps their answers. -/
def drain (run : Json.Parsed → StateM House Json) : StateM House Unit := do
  let steps := (← get).pending
  modify fun h => { h with pending := [] }
  for s in steps do
    let a ← run s
    modify fun h => { h with interleaved := h.interleaved ++ [a] }

/-- The answer to a step whose commits run interleaved steps with `run`: its members, with
the events it published and the commits it tried. -/
def answer (run : Json.Parsed → StateM House Json) (step : Json.Parsed) :
    StateM House Json := do
  match StepInput.read step with
  | .error t => pure (.obj (Report.inputErrorFields t))
  | .ok s =>
    let before ← get
    let own ← (fields s).run ⟨drain run⟩
    let after ← get
    let published := after.published.drop before.published.length
    let commits := after.commits - before.commits
    pure (.obj ([("op", .str s.op)] ++ own ++
      (if published.isEmpty then [] else
        [("published", .arr (published.map (·.toJson.marshalled)))]) ++
      (if commits == 0 then [] else [("commits", .ofNat commits)])))

/-- The answer to a step, where steps inside commits may nest `fuel` deep. -/
def runNested : Nat → Json.Parsed → StateM House Json
  | 0, s => answer (fun _ => pure .null) s
  | fuel + 1, s => answer (runNested fuel) s

/-- The JSON of what a watcher received. -/
def watchJson (w : Watcher) (fresh : List Json) : Json :=
  .obj [("conn", .ofNat w.id), ("user_id", .str w.userId), ("auction_id", .str w.auctionId),
    ("messages", .arr fresh), ("closed", .bool w.closed)]

/-- The answer to a step of the scenario itself. -/
def runTop (fuel : Nat) (s : Json.Parsed) : StateM House Json := do
  let before ← get
  if before.crashed.isSome then return .null
  modify fun h => { h with interleaved := [] }
  let a ← runNested fuel s
  let h ← get
  let mut errors : List Json := []
  if h.settings.feedsEvents then
    let fresh := h.published.drop before.published.length
    for e in fresh do
      match Event.ofText e.toJson.marshalled.render with
      | .ok e => (Feed.deliver e).run ⟨pure ()⟩
      | .error f => errors := errors ++ [.str ("decode: " ++ f.text)]
  let after ← get
  let changes := before.watchers.changes after.watchers
  let extra : List (String × Json) :=
    (if after.interleaved.isEmpty then [] else [("interleaved", .arr after.interleaved)]) ++
    (if changes.isEmpty then [] else
      [("feed", .arr (changes.map fun (w, m) => watchJson w m))]) ++
    (if errors.isEmpty then [] else [("feed_errors", .arr errors)])
  modify fun h => { h with interleaved := [] }
  match a with
  | .obj members => pure (.obj (members ++ extra))
  | other => pure other

/-- Runs a scenario: its settings and its steps. -/
def run (parsed : Json.Parsed) : Json :=
  match ScenarioInput.read parsed >>= fun c => (house c).map (c, ·) with
  | .error t => .obj (Report.inputErrorFields t)
  | .ok (c, h) =>
    let steps := c.steps.getD []
    let fuel := parsed.toJson.depth
    let (answers, after) := (steps.mapM (runTop fuel)).run h
    match after.crashed with
    | some text => .obj (Report.crashFields text)
    | none => .obj [("steps", .arr answers)]

end Scenario

end Auction
