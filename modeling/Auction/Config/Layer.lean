import Auction.Config.Datum
import Auction.Text

/-!
# Layering a configuration file over the defaults

A setting is named by its path of keys joined with `.` (`bidding.ledger`). The file's tree is
read with its keys in lower case (in every mapping, those inside sequences too), and laid
over a tree of defaults:

* the **paths** are the leaves of the file's tree, then those of the defaults; a leaf — a
  scalar, a sequence or a null — hides every path below it, so a default under a path where
  the file has a scalar is not a path;
* the **value** of a path comes from the file, trying the whole path as one key first and then
  ever shorter leading parts of it (so a file key `server.port` stands for the nested one), and
  stepping into mappings and, by index, sequences; a null found there counts as absent; when the
  file has a scalar on the way to the path, the path has no value; otherwise it comes from the
  defaults;
* the **settings** are the tree built from every path that has a value.

So a mapping in the file merges into the defaults key by key, a null leaves the default in
place, and a scalar where the defaults have a section replaces the whole section.
-/

namespace Auction

namespace Layer

/-- The lower-case form of a text. -/
def lower (s : String) : String := Text.lower s

mutual
/-- A tree with the keys of its mappings in lower case; a key that then repeats keeps its
first place and its last value. -/
def lowerDatum : Datum → Datum
  | .map entries => .map (lowerEntries [] entries)
  | .seq items => .seq (lowerItems items)
  | other => other

/-- The items of a sequence, each with the keys of its mappings in lower case. -/
def lowerItems : List Datum → List Datum
  | [] => []
  | d :: rest => lowerDatum d :: lowerItems rest

/-- The entries of a mapping with their keys in lower case, added onto `acc`. -/
def lowerEntries (acc : List (String × Datum)) : List (String × Datum) → List (String × Datum)
  | [] => acc
  | (k, v) :: rest => lowerEntries (Datum.setKey acc (lower k) (lowerDatum v)) rest
end

/-- A path joined to a key. -/
def join (pre k : String) : String := if pre.isEmpty then k else pre ++ "." ++ k

mutual
/-- Adds the leaf paths of a value at path `full` to `seen`: nothing when `full` is already a
leaf there. -/
def leavesOf (seen : List String) (full : String) : Datum → List String
  | .map entries => if seen.contains full then seen else leavesOfEntries seen full entries
  | _ => if seen.contains (lower full) then seen else seen ++ [lower full]

/-- Adds the leaf paths of the entries of a mapping at path `pre`. -/
def leavesOfEntries (seen : List String) (pre : String) : List (String × Datum) → List String
  | [] => seen
  | (k, v) :: rest => leavesOfEntries (leavesOf seen (join pre k) v) pre rest
end

/-- The value at an exact path of keys, through mappings only. -/
def exactly : Datum → List String → Option Datum
  | d, [] => some d
  | .map entries, k :: ks =>
    match Datum.lookup entries k with
    | some next => exactly next ks
    | none => none
  | _, _ :: _ => none

/-- The index a key names in a sequence. -/
def indexOf (k : String) : Option Nat :=
  if !k.isEmpty && k.all Char.isDigit then some k.toNat! else none

/-- Whether a value is absent: null. -/
def isNull : Datum → Bool
  | .null => true
  | _ => false

mutual
/-- The value at a path in the file: the whole path as one key first, then shorter leading
parts, each followed by the rest of the path inside. -/
def search : Nat → Datum → List String → Option Datum
  | 0, _, _ => none
  | _ + 1, d, [] => some d
  | fuel + 1, d, path => searchFrom fuel d path path.length

/-- Tries the leading parts of `path` of at most `i` keys, longest first. -/
def searchFrom : Nat → Datum → List String → Nat → Option Datum
  | _, _, _, 0 => none
  | 0, _, _, _ => none
  | fuel + 1, d, path, i + 1 =>
    let key := lower (".".intercalate (path.take (i + 1)))
    let next : Option Datum := match d with
      | .map entries => Datum.lookup entries key
      | .seq items => (indexOf key).bind fun n => items[n]?
      | _ => none
    let found : Option Datum := match next with
      | none => none
      | some v =>
        if i + 1 = path.length then (if isNull v then none else some v)
        else match v with
          | .map _ | .seq _ => search fuel v (path.drop (i + 1))
          | _ => none
    match found with
    | some v => some v
    | none => searchFrom fuel d path i
end

/-- Whether a scalar at one of the leading paths hides what lies below: the paths are tried
in order, through mappings, until one is absent or null. -/
def hiddenBy (root : Datum) : List (List String) → Bool
  | [] => false
  | p :: ps =>
    match exactly root p with
    | some (.map _) => hiddenBy root ps
    | some .null => false
    | none => false
    | some _ => true

/-- Whether a scalar on the way to `path` hides it in a tree. -/
def hidden (root : Datum) (path : List String) : Bool :=
  hiddenBy root ((List.range (path.length - 1)).map fun j => path.take (j + 1))

/-- The value of a setting path, from the file or else the defaults. -/
def valueOf (file defaults : Datum) (key : String) : Option Datum :=
  let path := key.splitOn "."
  let nested := path.length > 1
  match search ((path.length + 2) * (path.length + 2)) file path with
  | some v => some v
  | none =>
    if nested && hidden file path then none
    else
      match exactly defaults path with
      | some v => if isNull v then none else some v
      | none => none

/-- Sets the value at a path of keys, making mappings on the way and replacing any scalar
there. -/
def deepSet (entries : List (String × Datum)) : List String → String → Datum → List (String × Datum)
  | [], last, v => Datum.setKey entries last v
  | k :: ks, last, v =>
    let inner := match Datum.lookup entries k with
      | some (.map es) => es
      | _ => []
    Datum.setKey entries k (.map (deepSet inner ks last v))

/-- The settings of a file tree laid over the defaults. -/
def settings (file defaults : List (String × Datum)) : List (String × Datum) :=
  let fileTree := Datum.map (lowerEntries [] file)
  let defaultTree := Datum.map defaults
  let keys := leavesOfEntries (leavesOfEntries [] "" (lowerEntries [] file)) "" defaults
  keys.foldl (fun acc key =>
    match valueOf fileTree defaultTree key with
    | none => acc
    | some v =>
      let path := key.splitOn "."
      deepSet acc path.dropLast (lower (path.getLast?.getD "")) v) []

end Layer

end Auction
