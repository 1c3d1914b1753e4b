import Auction.Config.Decode
import Auction.Config.Yaml
import Auction.Config.Toml
import Auction.Config.Env
import Auction.Json.Decode

/-!
# Loading the configuration from a file

`Configuration.load name content` reads a configuration file over the defaults:

1. the file's type is the extension of the file the name gives inside a directory (so
   `config.yaml//` is `config.yaml`); it must be one of the known configuration types, else
   the file is refused as an unsupported type;
2. the content is read as YAML (`yaml`, `yml`), JSON, TOML or an environment file (`env`,
   `dotenv`); the other known types have no reader. A reading error is reported as an error
   while parsing, and a failure of the reader itself ends the request (`LoadError.crashed`);
3. the file is laid over the defaults (`Layer.settings`) and decoded (`Decode.configuration`);
4. the configuration must be valid (`Configuration.problem`).

A JSON number is a float, like every number of a JSON document; an environment file gives
text values under flat keys, which name nested settings when they contain dots.
-/

namespace Auction

namespace Load

/-- The defaults every file is laid over. -/
def defaults : List (String × Datum) :=
  [("server", .map [("port", .int 8080), ("host", .str "0.0.0.0")]),
   ("redis", .map [("address", .str "localhost:6379"), ("password", .str ""), ("db", .int 0)]),
   ("mysql", .map [
     ("dsn", .str "bidding_user:bidding_pass@tcp(localhost:3306)/bidding_db?parseTime=true"),
     ("max_open_conns", .int 25), ("max_idle_conns", .int 10),
     ("conn_max_lifetime", .long 300000000000)]),
   ("nats", .map [("url", .str ""), ("stream", .str "BID_EVENTS"),
     ("subject_prefix", .str "bid.events"), ("durable", .str "bid-archiver"),
     ("publish_timeout", .long 5000000000)]),
   ("leader", .map [("ttl", .long 30000000000), ("key", .str "bid_archiver_leader")]),
   ("instance", .map [("id", .str "bidding-core-1")]),
   ("log", .map [("level", .str "info")]),
   ("bidding", .map [("ledger", .str "redis"), ("idempotency_store", .str "redis"),
     ("max_commit_attempts", .int 5), ("retry_base_delay", .long 5000000),
     ("retry_max_delay", .long 50000000), ("retract_window", .long 300000000000),
     ("idempotency_ttl", .long 86400000000000), ("maintenance_spec", .str "@every 1m")]),
   ("events", .map [("bid_channel", .str "bid.events"),
     ("finished_channel", .str "auction.finished")]),
   ("feed", .map [("allowed_origins", .seq [.str "*"])])]

/-- The types of configuration file that are known. -/
def knownTypes : List String :=
  ["json", "toml", "yaml", "yml", "properties", "props", "prop", "hcl", "tfvars", "dotenv", "env",
   "ini"]

/-- The parts of the path a file name gives inside a directory: empty parts and `.` dropped,
and each `..` dropping the part before it. -/
def pathParts (name : String) : List String :=
  (name.splitOn "/").foldl (fun acc p =>
    if p.isEmpty || p == "." then acc
    else if p == ".." then acc.dropLast
    else acc ++ [p]) []

/-- The type of a file: the extension of the last part of its path, without the dot, or
nothing. -/
def typeOf (name : String) : String :=
  let base := (pathParts name).getLast?.getD ""
  match base.splitOn "." with
  | [] => ""
  | [_] => ""
  | parts => parts.getLast?.getD ""

mutual
/-- A JSON value at `path` as configuration data; numbers are floats, and one too large for
them is refused. -/
def jsonDatum (path : List String) : Json.Parsed → Except String Datum
  | .null => .ok .null
  | .bool b => .ok (.bool b)
  | .number lit =>
    match Real64.ofLiteral? lit with
    | some x => .ok (.float x)
    | none => .error (Json.mismatchMessage ("number " ++ lit) "float64" ⟨"", path⟩)
  | .str s _ => .ok (.str s)
  | .arr items _ => .seq <$> jsonItems path 0 items
  | .obj fields _ => .map <$> jsonFields path [] fields

/-- JSON items as configuration data, counting their indexes from `i`. -/
def jsonItems (path : List String) (i : Nat) : List Json.Parsed → Except String (List Datum)
  | [] => .ok []
  | j :: rest => do
    let d ← jsonDatum (path ++ [toString i]) j
    let ds ← jsonItems path (i + 1) rest
    pure (d :: ds)

/-- JSON members as configuration entries onto `acc`; a repeated name keeps its last value. -/
def jsonFields (path : List String) (acc : List (String × Datum)) :
    List (String × Json.Parsed) → Except String (List (String × Datum))
  | [] => .ok acc
  | (k, j) :: rest => do
    let d ← jsonDatum (path ++ [k]) j
    jsonFields path (Datum.setKey acc k d) rest
end

/-- Reads a JSON document into top-level entries. -/
def readJson (content : String) : Except String (List (String × Datum)) :=
  match Json.read content with
  | .error e => .error e.message
  | .ok .null => .ok []
  | .ok (.obj fields _) => jsonFields [] [] fields
  | .ok j =>
    .error (Json.mismatchMessage (Json.kindName j) "map[string]interface {}" ⟨"", []⟩)

/-- Why a file gives no configuration. -/
inductive LoadError where
  /-- An error the loader reports. -/
  | reported (message : String)
  /-- A failure inside a reader, which ends the whole request. -/
  | crashed (message : String)
  deriving Repr

/-- A reading error, reported as met while parsing. -/
def parsing (message : String) : LoadError := .reported ("While parsing config: " ++ message)

/-- Reads a file's content by its type. -/
def readAs (kind content : String) : Except LoadError (List (String × Datum)) :=
  match kind with
  | "yaml" | "yml" =>
    match Yaml.read content with
    | .ok entries => .ok entries
    | .error (.crash m) => .error (.crashed m)
    | .error f => .error (parsing f.message)
  | "json" => (readJson content).mapError parsing
  | "toml" => (Toml.read content).mapError parsing
  | "dotenv" | "env" => (Env.read content).mapError parsing
  | _ => .error (parsing "decoder not found for this format")

end Load

/-- Loads the configuration from a file named `name` holding `content`. -/
def Configuration.load (name content : String) : Except Load.LoadError Configuration := do
  let kind := Load.typeOf name
  unless Load.knownTypes.contains kind do
    throw (.reported ("Unsupported Config Type " ++ Text.quote kind))
  let entries ← Load.readAs kind.toLower content
  let c ← (Decode.configuration (Layer.settings entries Load.defaults)).mapError .reported
  match c.problem with
  | some p => throw (.reported p)
  | none => pure c

end Auction
