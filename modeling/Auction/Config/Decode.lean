import Auction.Config.Basic
import Auction.Config.Layer
import Auction.Time.Span

/-!
# Decoding settings into the configuration

The settings tree fills the configuration section by section and field by field, each field
under its key (`server.port`), or else under a key that agrees with it up to case. A key that is
absent, or null, leaves the field as it was. The
conversions are lenient:

* a **text** field takes text as it is, a boolean as `1` or `0`, a number in its shortest
  positional form;
* an **integer** field takes integers (an unsigned one past the signed range wraps around), a
  float with its fraction dropped, a boolean as `1` or `0`, and text as a prefixed integer
  literal, the empty text standing for `0`;
* a **duration** field reads text as a duration and otherwise takes what an integer field
  takes, as nanoseconds;
* the **list** field splits text at commas (the empty text is the empty list), takes a
  sequence item by item, an empty mapping as the empty list, and any other value as a list of
  that one item.

Every field is tried, and every problem is kept, in the order of the sections and fields. A
configuration with problems is refused with all of them, one per line.
-/

namespace Auction

namespace Decode

/-- Problems found so far. -/
abbrev DecodeM := StateM (List String)

/-- The problem of a value a field cannot take. -/
def unconvertible (name expected : String) (d : Datum) : String :=
  "'" ++ name ++ "' expected type '" ++ expected ++ "', got unconvertible type '" ++ d.typeName ++
    "', value: '" ++ d.describe ++ "'"

/-- A text field's value. -/
def text (name : String) (current : String) : Datum → Except (List String) String
  | .null => .ok current
  | .str s => .ok s
  | .bool b => .ok (if b then "1" else "0")
  | .int n => .ok (toString n)
  | .long n => .ok (toString n)
  | .uint n => .ok (toString n)
  | .float x => .ok x.fixed
  | d => .error [unconvertible name "string" d]

/-- An unsigned 64-bit value seen as a signed one. -/
def wrap (n : Nat) : Int := if n ≥ 9223372036854775808 then (n : Int) - 18446744073709551616 else n

/-- An integer field's value; `expected` names the field's type. -/
def integer (expected : String) (name : String) (current : Int) : Datum → Except (List String) Int
  | .null => .ok current
  | .int n => .ok n
  | .long n => .ok n
  | .uint n => .ok (wrap n)
  | .float x => .ok x.truncate
  | .bool b => .ok (if b then 1 else 0)
  | .str s =>
    let s := if s.isEmpty then "0" else s
    match Literal.signed true s.toList with
    | .ok n => .ok n
    | e => .error ["cannot parse '" ++ name ++ "' as int: " ++ IntText.message "ParseInt" s e]
  | d => .error [unconvertible name expected d]

/-- A duration field's value, in nanoseconds. -/
def duration (name : String) (current : Int) : Datum → Except (List String) Int
  | .str s =>
    match Duration.parse s with
    | .ok d => .ok d.ns
    | .error m => .error ["error decoding '" ++ name ++ "': " ++ m]
  | d => integer "time.Duration" name current d

/-- The items of a list field, each read as text. -/
def items (name : String) : Nat → List Datum → List String × List String
  | _, [] => ([], [])
  | i, d :: rest =>
    let here := text (name ++ "[" ++ toString i ++ "]") "" d
    let (values, problems) := items name (i + 1) rest
    match here with
    | .ok v => (v :: values, problems)
    | .error ps => ("" :: values, ps ++ problems)

/-- A list field's value. -/
def texts (name : String) (current : List String) : Datum → Except (List String) (List String)
  | .null => .ok current
  | .str s => .ok (if s.isEmpty then [] else s.splitOn ",")
  | .seq ds =>
    let (values, problems) := items name 0 ds
    if problems.isEmpty then .ok values else .error problems
  | .map [] => .ok []
  | d =>
    let (values, problems) := items name 0 [d]
    if problems.isEmpty then .ok values else .error problems

/-- Decodes the field `key` of a section's entries with `read`, recording any problem and then
keeping the field as it was. -/
def field {α : Type} (entries : List (String × Datum)) (part key : String) (current : α)
    (read : String → α → Datum → Except (List String) α) : DecodeM α :=
  match Datum.lookupFold entries key with
  | none => pure current
  | some d =>
    match read (part ++ "." ++ key) current d with
    | .ok v => pure v
    | .error ps => do
      modify (· ++ ps)
      pure current

/-- Decodes a section with `fill` when its value is a mapping; null leaves it as it was. -/
def group {α : Type} (settings : List (String × Datum)) (key : String) (current : α)
    (fill : List (String × Datum) → DecodeM α) : DecodeM α :=
  match Datum.lookupFold settings key with
  | none => pure current
  | some .null => pure current
  | some (.map entries) => fill entries
  | some d => do
    modify (· ++ ["'" ++ key ++ "' expected a map, got '" ++ d.kindName ++ "'"])
    pure current

/-- Fills the configuration from the settings. -/
def fill (s : List (String × Datum)) : DecodeM Configuration := do
  let server ← group s "server" {} fun e => do
    let port ← field e "server" "port" 0 (integer "int")
    let host ← field e "server" "host" "" text
    pure { port, host }
  let redis ← group s "redis" {} fun e => do
    let address ← field e "redis" "address" "" text
    let password ← field e "redis" "password" "" text
    let db ← field e "redis" "db" 0 (integer "int")
    pure { address, password, db }
  let database ← group s "mysql" {} fun e => do
    let dsn ← field e "mysql" "dsn" "" text
    let maxOpenConns ← field e "mysql" "max_open_conns" 0 (integer "int")
    let maxIdleConns ← field e "mysql" "max_idle_conns" 0 (integer "int")
    let connMaxLifetime ← field e "mysql" "conn_max_lifetime" 0 duration
    pure { dsn, maxOpenConns, maxIdleConns, connMaxLifetime }
  let stream ← group s "nats" {} fun e => do
    let url ← field e "nats" "url" "" text
    let stream ← field e "nats" "stream" "" text
    let subjectPrefix ← field e "nats" "subject_prefix" "" text
    let durable ← field e "nats" "durable" "" text
    let publishTimeout ← field e "nats" "publish_timeout" 0 duration
    pure { url, stream, subjectPrefix, durable, publishTimeout }
  let leader ← group s "leader" {} fun e => do
    let ttl ← field e "leader" "ttl" 0 duration
    let key ← field e "leader" "key" "" text
    pure { ttl, key }
  let inst ← group s "instance" {} fun e => do
    let id ← field e "instance" "id" "" text
    pure { id }
  let log ← group s "log" {} fun e => do
    let level ← field e "log" "level" "" text
    pure { level }
  let bidding ← group s "bidding" {} fun e => do
    let ledger ← field e "bidding" "ledger" "" text
    let idempotencyStore ← field e "bidding" "idempotency_store" "" text
    let maxCommitAttempts ← field e "bidding" "max_commit_attempts" 0 (integer "int")
    let retryBaseDelay ← field e "bidding" "retry_base_delay" 0 duration
    let retryMaxDelay ← field e "bidding" "retry_max_delay" 0 duration
    let retractWindow ← field e "bidding" "retract_window" 0 duration
    let idempotencyTtl ← field e "bidding" "idempotency_ttl" 0 duration
    let maintenanceSpec ← field e "bidding" "maintenance_spec" "" text
    pure { ledger, idempotencyStore, maxCommitAttempts, retryBaseDelay, retryMaxDelay,
           retractWindow, idempotencyTtl, maintenanceSpec }
  let events ← group s "events" {} fun e => do
    let bidChannel ← field e "events" "bid_channel" "" text
    let finishedChannel ← field e "events" "finished_channel" "" text
    pure { bidChannel, finishedChannel }
  let feed ← group s "feed" {} fun e => do
    let allowedOrigins ← field e "feed" "allowed_origins" [] texts
    pure { allowedOrigins }
  pure { server, redis, database, stream, leader, inst, log, bidding, events, feed }

/-- The configuration the settings describe, or every problem found. -/
def configuration (settings : List (String × Datum)) : Except String Configuration :=
  let (c, problems) := (fill settings).run []
  if problems.isEmpty then .ok c
  else .error ("decoding failed due to the following error(s):\n\n" ++ "\n".intercalate problems)

end Decode

end Auction
