import Auction.Time.Span
import Auction.Time.Zones
import Auction.Text

/-!
# Maintenance schedules

A schedule spec says when periodic maintenance runs. It is either a descriptor or five fields.

* **Descriptors**: `@yearly` (or `@annually`), `@monthly`, `@weekly`, `@daily` (or
  `@midnight`), `@hourly`, and `@every <duration>`.
* **Fields**, separated by white space: minute (0–59), hour (0–23), day of month (1–31),
  month (1–12, or `jan`…`dec`) and day of week (0–6, or `sun`…`sat`), names in any case. A
  field is a comma-separated list of ranges; a range is `*` (or `?`), a number or name, or
  `low-high`, optionally followed by `/step`. A single number with a step runs to the end of
  the field's range.
* A spec may start with `TZ=<zone>` or `CRON_TZ=<zone>` and a blank; the zone must load from
  the time zone database (`Zones.problem`).

`Schedule.check` accepts a spec or says why not, in the order the parts are read: the zone, the
descriptor, the number of fields, then each field from the minute on.
-/

namespace Auction

namespace Schedule

/-- Why a spec is refused. -/
inductive Refusal where
  /-- The spec is malformed; the message says how. -/
  | invalid (message : String)
  /-- The spec names a zone with nothing after it, which the reader cannot split; the
  message is the failure it reports. -/
  | broken (message : String)
  deriving DecidableEq, Repr

/-- The range and names of a field. -/
structure Bounds where
  low : Nat
  high : Nat
  names : List (String × Nat)

/-- The bounds of the five fields, in order. -/
def fieldBounds : List Bounds :=
  [⟨0, 59, []⟩, ⟨0, 23, []⟩, ⟨1, 31, []⟩,
   ⟨1, 12, [("jan", 1), ("feb", 2), ("mar", 3), ("apr", 4), ("may", 5), ("jun", 6), ("jul", 7),
     ("aug", 8), ("sep", 9), ("oct", 10), ("nov", 11), ("dec", 12)]⟩,
   ⟨0, 6, [("sun", 0), ("mon", 1), ("tue", 2), ("wed", 3), ("thu", 4), ("fri", 5), ("sat", 6)]⟩]

/-- Whether a character is white space. -/
def isSpace (c : Char) : Bool :=
  c = ' ' || c = '\t' || c = '\n' || c.toNat = 11 || c.toNat = 12 || c = '\r' ||
    c.toNat = 0x85 || c.toNat = 0xA0 || c.toNat = 0x1680 || (0x2000 ≤ c.toNat && c.toNat ≤ 0x200A) ||
    c.toNat = 0x2028 || c.toNat = 0x2029 || c.toNat = 0x202F || c.toNat = 0x205F || c.toNat = 0x3000

/-- The words of the characters `cs` separated by white space, the current word `cur` kept
reversed. -/
def wordsOf : List Char → List Char → List String
  | [], cur => if cur.isEmpty then [] else [String.ofList cur.reverse]
  | c :: rest, cur =>
    if isSpace c then
      if cur.isEmpty then wordsOf rest [] else String.ofList cur.reverse :: wordsOf rest []
    else wordsOf rest (c :: cur)

/-- The words of a text separated by white space. -/
def words (s : String) : List String := wordsOf s.toList []

/-- A list of words written as `[a b c]`. -/
def showWords (ws : List String) : String := "[" ++ " ".intercalate ws ++ "]"

/-- Reads a number of a field. -/
def number (expr : String) : Except String Nat :=
  match IntText.parse 64 expr with
  | .ok n =>
    if n < 0 then .error ("negative number (" ++ toString n ++ ") not allowed: " ++ expr)
    else .ok n.toNat
  | e => .error ("failed to parse int from " ++ expr ++ ": " ++ IntText.message "Atoi" expr e)

/-- Reads a number or a name of a field. -/
def numberOrName (b : Bounds) (expr : String) : Except String Nat :=
  match b.names.find? (·.1 == Text.lower expr) with
  | some (_, n) => .ok n
  | none => number expr

/-- Checks one range of a field. -/
def range (b : Bounds) (expr : String) : Except String Unit := do
  let rangeAndStep := expr.splitOn "/"
  let lowAndHigh := (rangeAndStep.headD "").splitOn "-"
  let single := lowAndHigh.length == 1
  let first := lowAndHigh.headD ""
  let (start, stop) ←
    if first == "*" || first == "?" then pure (b.low, b.high)
    else do
      let start ← numberOrName b first
      match lowAndHigh with
      | [_] => pure (start, start)
      | [_, second] => do
        let stop ← numberOrName b second
        pure (start, stop)
      | _ => throw ("too many hyphens: " ++ expr)
  let (stop, step) ←
    match rangeAndStep with
    | [_] => pure (stop, 1)
    | [_, s] => do
      let step ← number s
      pure (if single then b.high else stop, step)
    | _ => throw ("too many slashes: " ++ expr)
  if start < b.low then
    throw ("beginning of range (" ++ toString start ++ ") below minimum (" ++ toString b.low ++
      "): " ++ expr)
  if stop > b.high then
    throw ("end of range (" ++ toString stop ++ ") above maximum (" ++ toString b.high ++ "): " ++
      expr)
  if start > stop then
    throw ("beginning of range (" ++ toString start ++ ") beyond end of range (" ++
      toString stop ++ "): " ++ expr)
  if step = 0 then throw ("step of range should be a positive number: " ++ expr)

/-- Checks a field: each of its comma-separated ranges. -/
def fieldCheck (b : Bounds) (f : String) : Except String Unit :=
  ((f.splitOn ",").filter (!·.isEmpty)).forM (range b)

/-- Checks a descriptor. -/
def descriptor (spec : String) : Except String Unit :=
  if ["@yearly", "@annually", "@monthly", "@weekly", "@daily", "@midnight", "@hourly"].contains spec
  then .ok ()
  else if spec.startsWith "@every " then
    match Duration.parse (String.ofList (spec.toList.drop 7)) with
    | .ok _ => .ok ()
    | .error e => .error ("failed to parse duration " ++ spec ++ ": " ++ e)
  else .error ("unrecognized descriptor: " ++ spec)

/-- Checks a spec once its zone is read. -/
def body (spec : String) : Except String Unit :=
  if spec.startsWith "@" then descriptor spec
  else
    let fs := words spec
    if fs.length != 5 then
      .error ("expected exactly 5 fields, found " ++ toString fs.length ++ ": " ++ showWords fs)
    else (fieldBounds.zip fs).forM fun (b, f) => fieldCheck b f

/-- Trims white space at both ends. -/
def trim (s : String) : String :=
  String.ofList (((s.toList.dropWhile isSpace).reverse.dropWhile isSpace).reverse)

/-- Checks a schedule spec. -/
def check (spec : String) : Except Refusal Unit :=
  if spec.isEmpty then .error (.invalid "empty spec string")
  else if spec.startsWith "TZ=" || spec.startsWith "CRON_TZ=" then
    let cs := spec.toList
    let eq := cs.takeWhile (· ≠ '=') |>.length
    let space := cs.takeWhile (· ≠ ' ') |>.length
    if space = cs.length then .error (.broken "runtime error: slice bounds out of range [:-1]")
    else
      let zone := String.ofList ((cs.take space).drop (eq + 1))
      match Zones.problem zone with
      | some p => .error (.invalid ("provided bad location " ++ zone ++ ": " ++ p))
      | none => (body (trim (String.ofList (cs.drop space)))).mapError .invalid
  else (body spec).mapError .invalid

end Schedule

end Auction
