import Auction.Config.Yaml.Node
import Auction.Config.Datum
import Auction.Text

/-!
# Reading YAML documents

`Yaml.read` reads the first document of a YAML text into the entries of its top-level mapping,
the way a reflective decoder fills a map from text keys to values of any type. The text is
read into a node graph first (`Yaml.compose`); this module turns the graph into values.

**Scalars.** A quoted or block scalar, or one tagged `!!str`, is text; `!!binary` gives the
bytes its base64 text encodes; any other scalar is resolved by `Yaml.resolve`, whose errors
stop the reading.

**Keys.** Where keys must be text (the top level, and any mapping whose keys are all text or
the merge key), a scalar key is its own text as written, a null key drops its entry, and a
collection key drops its entry with the problem `cannot unmarshal !!map into string`. In other
mappings a key is its value, and a collection key stops the reading (`invalid map key`).

**Repeated keys.** A mapping in which two keys of the same kind have the same text is not read;
each repetition is a problem with its line.

**Merges.** The merge key `<<` (plain, or tagged `!!merge`) names a mapping, an alias of one, or
a sequence of those. Their entries are added, in order, for the keys not yet seen: the keys of
the mapping holding the merge key, each read as a value of any type, and the keys each source
added. So `1: a` in the holder does not keep a source's `1: b` out of a text-keyed mapping, the
one being read as a number and the other as text.

**Aliases.** An alias reads as a copy of the node it points at; an alias met again inside its
own copy stops the reading. Past 1000 nodes read, a document in which more than 99 of each 100
come through aliases is refused, and fewer are allowed as it grows.

**Problems.** The problems found (repeated keys, keys that cannot be text, a document that is
not a mapping) are reported together at the end, each with its line; an error stops the reading
at once and reports only itself. While the keys seen are kept for a merge, a collection among
them has no hash, and the reading itself fails (`Failure.crash`).
-/

namespace Auction

namespace Yaml

/-! ## Values -/

/-- Whether two floats are equal: zeros of either sign are, a value that is not a number is
not even equal to itself. -/
def sameFloat (x y : Real64) : Bool :=
  match x, y with
  | .nan, _ | _, .nan => false
  | _, _ => (x.isZero && y.isZero) || x == y

/-- Whether two map keys are the same key: same type and equal value. -/
def sameKey : Datum → Datum → Bool
  | .null, .null => true
  | .bool a, .bool b => a == b
  | .int a, .int b => a == b
  | .long a, .long b => a == b
  | .uint a, .uint b => a == b
  | .float x, .float y => sameFloat x y
  | .str a, .str b => a == b
  | .stamp _ a, .stamp _ b => a == b
  | _, _ => false

/-- A key's text in a mapping whose keys are not all text. -/
def keyText : Datum → String
  | .null => ""
  | .bool b => if b then "true" else "false"
  | .int n | .long n => toString n
  | .uint n => toString n
  | .float x => x.fixed
  | .str s => s
  | d => d.describe

mutual
/-- A value written as program syntax shows it, for the message about a key that cannot be
one: text quoted, sequences and mappings with their element types. -/
def valueSyntax : Datum → String
  | .null => "interface \x7b\x7d(nil)"
  | .bool b => if b then "true" else "false"
  | .int n | .long n => toString n
  | .uint n => "0x" ++ String.ofList (Nat.toDigits 16 n)
  | .float x => x.general
  | .str s => Text.quote s
  | .seq items => "[]interface \x7b\x7d\x7b" ++ ", ".intercalate (itemSyntax items) ++ "\x7d"
  | .map entries =>
    "map[string]interface \x7b\x7d\x7b" ++
      ", ".intercalate ((Datum.byKey (entrySyntax entries)).map fun (k, v) => Text.quote k ++ ":" ++ v) ++
      "\x7d"
  | .stamp _ shown => shown

/-- The items of a sequence as program syntax shows them. -/
def itemSyntax : List Datum → List String
  | [] => []
  | d :: rest => valueSyntax d :: itemSyntax rest

/-- The entries of a mapping, each value as program syntax shows it. -/
def entrySyntax : List (String × Datum) → List (String × String)
  | [] => []
  | (k, d) :: rest => (k, valueSyntax d) :: entrySyntax rest
end

/-- A map being filled: its keys text or of any type, and its entries. -/
structure DecodedMap where
  textKeys : Bool
  entries : List (Datum × Datum)
  deriving Inhabited

namespace DecodedMap

/-- Sets a key, replacing the value of the same key. -/
def set (m : DecodedMap) (k d : Datum) : DecodedMap :=
  if m.entries.any (sameKey k ·.1) then
    { m with entries := m.entries.map fun (k', d') => if sameKey k k' then (k', d) else (k', d') }
  else { m with entries := m.entries ++ [(k, d)] }

/-- The type of the map, as messages name it. -/
def typeName (m : DecodedMap) : String :=
  if m.textKeys then "map[string]interface \x7b\x7d" else "map[interface \x7b\x7d]interface \x7b\x7d"

/-- The entries of the map with their keys as text. -/
def textEntries (m : DecodedMap) : List (String × Datum) :=
  m.entries.foldl (fun acc (k, d) => Datum.setKey acc (keyText k) d) []

end DecodedMap

/-- Where a node is read: into text, into a value of any type, or into a map being filled. -/
inductive Target where
  | text
  | any
  | into (m : DecodedMap)

/-- What reading a node gives for its target: text or a value, none when the node does not fit
there; or the map filled, with whether the node fit. -/
inductive Outcome where
  | text (s : Option String)
  | any (d : Option Datum)
  | into (good : Bool) (m : DecodedMap)
  deriving Inhabited

/-- The outcome of a node that does not fit its target. -/
def Target.refused : Target → Outcome
  | .text => .text none
  | .any => .any none
  | .into m => .into false m

/-! ## Nodes -/

/-- The keys and values of a mapping's content. -/
def pairs : List Nat → List (Nat × Nat)
  | k :: v :: rest => (k, v) :: pairs rest
  | _ => []

/-- Whether a scalar is text by the way it is written or by its tag. -/
def Node.isText (n : Node) : Bool :=
  n.kind == .scalar &&
    (shortTag n.tag == "!!str" || ((n.tag == "" || n.tag == "!") && n.style != .plain))

/-- Whether a key is the merge key. -/
def Node.isMerge (n : Node) : Bool :=
  n.kind == .scalar && n.value == "<<" &&
    (n.tag == "" || n.tag == "!" || shortTag n.tag == "!!merge")

/-- The tag of a node that is not an alias, written short. -/
def Node.ownTag (n : Node) : String :=
  if n.isText then "!!str"
  else if n.tag == "" || n.tag == "!" then
    match n.kind with
    | .mapping => "!!map"
    | .sequence => "!!seq"
    | .scalar => resolvedTag n.value
    | .alias => ""
  else shortTag n.tag

/-- The node an alias points at; any other node itself. -/
def Document.follow (doc : Document) (n : Node) : Node :=
  if n.kind == .alias then doc.nodes.getD n.target default else n

/-- The tag of a node, an alias taking that of the node it points at. -/
def Document.tagOf (doc : Document) (n : Node) : String := (doc.follow n).ownTag

/-- Whether a mapping's keys are all text or the merge key. -/
def Document.isTextMap (doc : Document) (n : Node) : Bool :=
  n.kind == .mapping && (pairs n.content.toList).all fun (k, _) =>
    let t := doc.tagOf (doc.nodes.getD k default)
    t == "!!str" || t == "!!merge"

/-- The type of the value a collection node reads into, for a key that cannot be one. -/
def Document.collectionType (doc : Document) (n : Node) : Option String :=
  let t := doc.follow n
  match t.kind with
  | .mapping =>
    some (if doc.isTextMap t then "map[string]interface \x7b\x7d"
      else "map[interface \x7b\x7d]interface \x7b\x7d")
  | .sequence => some "[]interface \x7b\x7d"
  | _ => none

/-- A scalar's text for a message: over ten bytes cut to seven and `...`. -/
def shortValue (t : String) : String :=
  let bytes := t.toList.flatMap Text.utf8
  if bytes.length > 10 then Text.ofUtf8Lossy (bytes.take 7) ++ "..." else t

/-! ## Reading the graph -/

/-- The reader's state: the graph, the counts of nodes read and read through aliases, the
aliases being followed and the problems found. -/
structure Decoder where
  doc : Document
  decodes : Nat
  aliased : Nat
  depth : Nat
  active : List Nat
  problems : Array String
  /-- While a merge source is read, the keys seen so far. -/
  merged : Option (List Datum)

/-- A step of the reader. -/
abbrev Dec := StateT Decoder (Except Failure)

/-- The node of an index. -/
def nodeAt (id : Nat) : Dec Node := return (← get).doc.nodes.getD id default

/-- Whether too large a share of the nodes read came through aliases: above 99% up to 400000
nodes, then less, down to 10% from 4000000. -/
def tooAliased (decodes aliased : Nat) : Bool :=
  aliased > 100 && decodes > 1000 &&
    (if decodes ≤ 400000 then aliased * 100 > 99 * decodes
     else if decodes ≥ 4000000 then aliased * 10 > decodes
     else aliased * 360000000 > decodes * (356400000 - 89 * (decodes - 400000)))

/-- Counts a node read. -/
def countNode : Dec Unit := do
  let s ← get
  let s := { s with decodes := s.decodes + 1,
                    aliased := if s.depth > 0 then s.aliased + 1 else s.aliased }
  set s
  if tooAliased s.decodes s.aliased then throw (.decode "document contains excessive aliasing")

/-- Records a value that does not fit where it stands. -/
def mismatch (n : Node) (tag typeName : String) : Dec Unit := do
  let tag := if n.tag != "" then n.tag else tag
  let shown := if tag != "!!seq" && tag != "!!map" then " `" ++ shortValue n.value ++ "`" else ""
  let problem :=
    "line " ++ toString n.line ++ ": cannot unmarshal " ++ shortTag tag ++ shown ++ " into " ++
      typeName
  modify fun s => { s with problems := s.problems.push problem }

/-- The problems of keys that repeat an earlier key of the same kind and text. -/
def repeats : List Node → List String
  | [] => []
  | a :: rest =>
    rest.filterMap (fun b =>
      if a.kind == b.kind && a.value == b.value then
        some ("line " ++ toString b.line ++ ": mapping key " ++ Text.quote b.value ++
          " already defined at line " ++ toString a.line)
      else none) ++ repeats rest

/-- Records the keys of a mapping that repeat an earlier one; true when there are none. -/
def uniqueKeys (n : Node) : Dec Bool := do
  let keys ← (pairs n.content.toList).mapM fun (k, _) => nodeAt k
  let found := repeats keys
  modify fun s => { s with problems := s.problems ++ found.toArray }
  return found.isEmpty

/-- The value of a scalar and the tag it resolved to. -/
def scalarValue (n : Node) : Dec (String × Datum) := do
  if n.isText then return ("!!str", .str n.value)
  match resolve n.tag n.value with
  | .error m => throw (.decode m)
  | .ok (tag, d) =>
    if tag == "!!binary" then
      match Text.base64? n.value.toList with
      | some bytes => return (tag, .str (Text.ofUtf8Lossy bytes))
      | none => throw (.decode "!!binary value contains invalid base64 data")
    else return (tag, d)

/-- Reads a scalar into its target. -/
def scalarInto (n : Node) (t : Target) : Dec Outcome := do
  let (tag, d) ← scalarValue n
  match d, t with
  | .null, .text => return .text none
  | .null, .any => return .any (some .null)
  | .null, .into m => return .into true { m with entries := [] }
  | .str s, .text => return .text (some s)
  | _, .text => return .text (some n.value)
  | _, .any => return .any (some d)
  | _, .into m =>
    mismatch n tag m.typeName
    return .into false m

/-- The key an outcome gives. -/
def Outcome.key : Outcome → Option Datum
  | .text (some s) => some (.str s)
  | .any (some d) => some d
  | _ => none

/-- Fails on a key that has no hash, a collection read as a value, while the keys seen are
kept for a merge: the reading itself fails, ending the request. -/
def requireHashable (n : Node) : Dec Unit := do
  if let some name := (← get).doc.collectionType n then
    throw (.crash ("runtime error: hash of unhashable type " ++ name))

mutual
/-- Reads a node into its target; `fuel` bounds the depth of the reading. -/
def unmarshal : Nat → Nat → Target → Dec Outcome
  | 0, _, _ => throw .exhausted
  | fuel + 1, id, t => do
    countNode
    let n ← nodeAt id
    match n.kind with
    | .alias => followAlias fuel id n t
    | .scalar => scalarInto n t
    | .sequence => sequenceInto fuel n t
    | .mapping => mappingInto fuel n t

/-- Reads the node an alias points at, unless the alias is already being followed. -/
def followAlias : Nat → Nat → Node → Target → Dec Outcome
  | 0, _, _, _ => throw .exhausted
  | fuel + 1, id, n, t => do
    if (← get).active.contains id then throw (.selfAlias n.value)
    modify fun s => { s with active := id :: s.active, depth := s.depth + 1 }
    let r ← unmarshal fuel n.target t
    modify fun s => { s with active := s.active.erase id, depth := s.depth - 1 }
    return r

/-- Reads a sequence: a value of any type holds the items that read. -/
def sequenceInto : Nat → Node → Target → Dec Outcome
  | 0, _, _ => throw .exhausted
  | fuel + 1, n, t => do
    match t with
    | .text =>
      mismatch n "!!seq" "string"
      return .text none
    | .into m =>
      mismatch n "!!seq" m.typeName
      return .into false m
    | .any =>
      let mut items : Array Datum := #[]
      for c in n.content do
        if let .any (some d) ← unmarshal fuel c .any then items := items.push d
      return .any (some (.seq items.toList))

/-- Reads a mapping, unless it repeats a key: into a value of any type as a new map, or into
the map being filled. -/
def mappingInto : Nat → Node → Target → Dec Outcome
  | 0, _, _ => throw .exhausted
  | fuel + 1, n, t => do
    if !(← uniqueKeys n) then return t.refused
    match t with
    | .text =>
      mismatch n "!!map" "string"
      return .text none
    | .any =>
      let m ← fillEntries fuel n ⟨(← get).doc.isTextMap n, []⟩
      return .any (some (.map m.textEntries))
    | .into m => return .into true (← fillEntries fuel n m)

/-- Reads the entries of a mapping into a map, then what its merge key names. While a merge
source is read, a key already seen is passed over, its value unread. -/
def fillEntries : Nat → Node → DecodedMap → Dec DecodedMap
  | 0, _, _ => throw .exhausted
  | fuel + 1, n, m => do
    let saved := (← get).merged
    modify fun s => { s with merged := none }
    let mut seen := saved
    let mut source : Option Nat := none
    let mut m := m
    for (k, v) in pairs n.content.toList do
      let kn ← nodeAt k
      if kn.isMerge then
        source := some v
        continue
      match (← unmarshal fuel k (if m.textKeys then .text else .any)).key with
      | none => pure ()
      | some key =>
        let mut fresh := true
        if let some keys := seen then
          requireHashable kn
          if keys.any (sameKey key) then fresh := false
          else seen := some (keys ++ [key])
        if fresh then
          match key with
          | .seq _ | .map _ => throw (.decode ("invalid map key: " ++ valueSyntax key))
          | _ => pure ()
          if let some d := (← unmarshal fuel v .any).key then m := m.set key d
    modify fun s => { s with merged := seen }
    match source with
    | some s => mergeInto fuel n s m
    | none => return m

/-- Adds to a map what a merge key names: a mapping, an alias of one, or a sequence of those.
The keys of the mapping holding the merge key count as seen, each read as a value. -/
def mergeInto : Nat → Node → Nat → DecodedMap → Dec DecodedMap
  | 0, _, _, _ => throw .exhausted
  | fuel + 1, holder, source, m => do
    let saved := (← get).merged
    if saved.isNone then
      let mut keys : List Datum := []
      for (k, _) in pairs holder.content.toList do
        if let some d := (← unmarshal fuel k .any).key then
          requireHashable (← nodeAt k)
          if !keys.any (sameKey d) then keys := keys ++ [d]
      modify fun s => { s with merged := some keys }
    let sn ← nodeAt source
    let doc := (← get).doc
    let mut m := m
    match sn.kind with
    | .mapping => m ← fillFrom fuel source m
    | .alias =>
      if (doc.follow sn).kind != .mapping then throw .mergeNotMap
      m ← fillFrom fuel source m
    | .sequence =>
      for item in sn.content do
        let it ← nodeAt item
        if (doc.follow it).kind != .mapping then throw .mergeNotMap
        m ← fillFrom fuel item m
    | .scalar => throw .mergeNotMap
    modify fun s => { s with merged := saved }
    return m

/-- Reads a merge source into the map being filled. -/
def fillFrom : Nat → Nat → DecodedMap → Dec DecodedMap
  | 0, _, _ => throw .exhausted
  | fuel + 1, id, m => do
    match ← unmarshal fuel id (.into m) with
    | .into _ m' => return m'
    | _ => return m
end

/-- Reads the first document of a YAML text into the entries of its top-level mapping. -/
def read (text : String) : Except Failure (List (String × Datum)) := do
  match ← compose text with
  | none => pure []
  | some doc =>
    let fuel := 4 * (doc.nodes.size + 2) * (doc.nodes.size + 2)
    let start : Decoder := ⟨doc, 1, 0, 0, [], #[], none⟩
    let (out, st) ← (unmarshal fuel doc.root (.into ⟨true, []⟩)).run start
    if !st.problems.isEmpty then throw (.unmarshal st.problems.toList)
    match out with
    | .into _ m => pure m.textEntries
    | _ => pure []

end Yaml

end Auction
