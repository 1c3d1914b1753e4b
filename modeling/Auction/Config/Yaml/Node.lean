import Auction.Config.Yaml.Event
import Auction.Config.Yaml.Resolve

/-!
# YAML documents: the node graph

The composer reads the events of the first document of a text into a graph of nodes, kept in an
array and named by their index (`Document`).

**Tags.** A node tagged with anything but `!` keeps its tag, written short. Otherwise a quoted
or block scalar is `!!str`, a plain `<<` is `!!merge`, another plain scalar has the tag its form
resolves to, and collections are `!!seq` and `!!map`.

**Anchors and aliases.** An anchor names its node from the moment the node starts, before its
children are read, and a later anchor of the same name takes over. An alias is a node of its own
that points at the node its anchor names when the alias is read; an alias to a name not yet
given is an error.

**Lines.** A node's line, counted from one, is where its first property or its content starts.
-/

namespace Auction

namespace Yaml

/-- What a node is. -/
inductive NodeKind where
  | scalar
  | sequence
  | mapping
  | alias
  deriving DecidableEq, Repr, Inhabited

/-- A node of the graph. -/
structure Node where
  kind : NodeKind
  /-- The tag, written short; empty for an alias. -/
  tag : String
  /-- The text of a scalar, or the anchor name of an alias. -/
  value : String
  style : ScalarStyle
  /-- The line where the node starts, from one. -/
  line : Nat
  /-- The items of a sequence, or the keys and values of a mapping in turn. -/
  content : Array Nat
  /-- The node an alias points at. -/
  target : Nat
  deriving Repr, Inhabited

/-- The node graph of a document and its root. -/
structure Document where
  nodes : Array Node
  root : Nat
  deriving Repr, Inhabited

/-- The composer: the parser, the event looked at but not yet taken, and the graph so far. -/
structure Composer where
  parser : Parser
  event : Option Event
  nodes : Array Node
  /-- The anchors given so far and the nodes they name, the latest first. -/
  anchors : List (String × Nat)
  deriving Inhabited

/-- A step of the composer. -/
abbrev Compose := StateT Composer (Except Failure)

/-- Runs a step of the parser. -/
def parseStep (x : Parse α) : Compose α := fun c => do
  let (a, p) ← x.run c.parser
  pure (a, { c with parser := p })

/-- The next event, read if not yet. A character error met while reading it, even while
looking ahead, fails here. -/
def peekEvent : Compose Event := do
  if let some e := (← get).event then return e
  let e? ← parseStep Parser.next
  if let some m := (← get).parser.scanner.input.failed then throw (.reader m)
  match e? with
  | some e =>
    modify fun c => { c with event := some e }
    return e
  | none => throw .exhausted

/-- Takes the event looked at. -/
def advance : Compose Unit := modify fun c => { c with event := none }

/-- A node for an event, with its tag settled. -/
def makeNode (kind : NodeKind) (defaultTag tag value : String) (style : ScalarStyle)
    (e : Event) : Node :=
  let tag :=
    if tag != "" && tag != "!" then shortTag tag
    else if defaultTag != "" then defaultTag
    else if kind == .scalar then resolvedTag value
    else ""
  ⟨kind, tag, value, style, e.start.line + 1, #[], 0⟩

/-- Adds a node to the graph, named by an anchor if it has one. -/
def addNode (n : Node) (anchor : Option String) : Compose Nat := do
  let c ← get
  let id := c.nodes.size
  set { c with nodes := c.nodes.push n,
               anchors := match anchor with
                 | some a => (a, id) :: c.anchors
                 | none => c.anchors }
  return id

/-- Adds a child to a collection. -/
def addChild (parent child : Nat) : Compose Unit :=
  modify fun c => { c with nodes := c.nodes.modify parent fun n =>
    { n with content := n.content.push child } }

/-- Whether an event ends a collection. -/
def EventKind.isEnd : EventKind → Bool
  | .sequenceEnd | .mappingEnd => true
  | _ => false

/-- Reads a node and its children; `fuel` bounds the nesting. -/
def composeNode : Nat → Compose Nat
  | 0 => throw .exhausted
  | fuel + 1 => do
    let e ← peekEvent
    match e.kind with
    | .scalar anchor tag value style =>
      let defaultTag :=
        if style == .plain then (if value == "<<" then "!!merge" else "") else "!!str"
      let id ← addNode (makeNode .scalar defaultTag tag value style e) anchor
      advance
      return id
    | .alias name =>
      match (← get).anchors.lookup name with
      | none => throw (.unknownAnchor name)
      | some target =>
        let id ← addNode { makeNode .alias "" "" name .plain e with target } none
        advance
        return id
    | .sequenceStart anchor tag =>
      let id ← addNode (makeNode .sequence "!!seq" tag "" .plain e) anchor
      advance
      for _ in [0:(← parseStep (scan bound)) * 2] do
        if (← peekEvent).kind.isEnd then break
        addChild id (← composeNode fuel)
      advance
      return id
    | .mappingStart anchor tag =>
      let id ← addNode (makeNode .mapping "!!map" tag "" .plain e) anchor
      advance
      for _ in [0:(← parseStep (scan bound)) * 2] do
        if (← peekEvent).kind.isEnd then break
        addChild id (← composeNode fuel)
        addChild id (← composeNode fuel)
      advance
      return id
    | _ => throw .exhausted

/-- Reads the first document of a text into its node graph; none when the text holds no
document. -/
def compose (text : String) : Except Failure (Option Document) := do
  let run : Compose (Option Document) := do
    let _ ← peekEvent
    advance
    let e ← peekEvent
    match e.kind with
    | .documentStart =>
      advance
      let root ← composeNode ((← parseStep (scan bound)) * 2)
      let _ ← peekEvent
      advance
      return some ⟨(← get).nodes, root⟩
    | _ => return none
  let (d, _) ← run.run ⟨Parser.ofString text, none, #[], []⟩
  return d

end Yaml

end Auction
