import Auction.Json.Parse
import Auction.Error

/-!
# Decoding JSON into records

A text is first read whole, so a syntax error anywhere is the answer before any value is
decoded. The value is then read into a record member by member, in the order of the text. A
member is matched to a field by its exact name, or else by its name up to case, where `ſ`
counts as `s` and the Kelvin sign as `k`; unknown members are skipped, and `null` leaves a
field as it was.

A value that does not fit its field does not stop the reading: the field keeps its value and
the fault is remembered, and the first fault of the text, in text order, is the answer once the
whole text was read. Two kinds of fault arise:

* a **mismatch**, a value of the wrong JSON kind for its field, or a number that is not an
  integer of the field's range; it names the path from the top to the value and the wire type
  of the field, for instance
  `cannot unmarshal number into Go struct field AuctionBook.bids.0.id of type string`;
* a refusal by a field's own reader (an amount or a time), which is given the exact text of the
  value.
-/

namespace Auction

namespace Json

variable {α σ : Type}

/-- Where a value sits: the name of the type the whole text is read into, and the member names
and element indexes on the way to the value. -/
structure Site where
  root : String
  path : List String
  deriving Repr

/-- The site of a part of the value at `site`. -/
def Site.push (site : Site) (token : String) : Site := { site with path := site.path ++ [token] }

/-- A path step as a path shows it: `~` and `/` escaped as `~0` and `~1`. -/
def escapeToken (t : String) : String :=
  String.ofList (t.toList.flatMap fun c =>
    if c = '~' then ['~', '0'] else if c = '/' then ['~', '1'] else [c])

/-- Whether a path step is an element index. -/
def isIndex (t : String) : Bool := !t.isEmpty && t.toList.all Char.isDigit

/-- The message of a value of the wrong kind: `found` describes it (`string`, `number`,
`number 1.5`, `bool`, `array`, `object`) and `target` is the wire type of its place. A value at
the top is "into Go value"; a value inside one names the root type and the path, as a struct
field unless the last step is an element index. -/
def mismatchMessage (found target : String) (site : Site) : String :=
  match site.path.getLast? with
  | none => "json: cannot unmarshal " ++ found ++ " into Go value of type " ++ target
  | some last =>
    let place := site.root ++ "." ++ ".".intercalate (site.path.map escapeToken)
    if isIndex last then
      "json: cannot unmarshal " ++ found ++ " into " ++ place ++ " of type " ++ target
    else
      "json: cannot unmarshal " ++ found ++ " into Go struct field " ++ place ++ " of type " ++
        target

/-- A decoded value with the first fault met while reading it. -/
structure Decoded (α : Type) where
  value : α
  fault : Option Fault

/-- A reader of a value of type `α` at a site. -/
abbrev Reader (α : Type) := Parsed → Site → Decoded α

/-- The first of two faults. -/
def firstFault (a b : Option Fault) : Option Fault :=
  match a with
  | some f => some f
  | none => b

/-- How a JSON value is named in a mismatch. -/
def kindName : Parsed → String
  | .null => "null"
  | .bool _ => "bool"
  | .number _ => "number"
  | .str .. => "string"
  | .arr .. => "array"
  | .obj .. => "object"

/-- The fault of a value of the wrong kind at a site. -/
def mismatch (found target : String) (site : Site) : Option Fault :=
  some (.json (mismatchMessage found target site))

/-- A reader that leaves `current` for `null` and otherwise takes what `take` accepts; any
other value is a mismatch against `target`. -/
def scalar (target : String) (current : α) (take : Parsed → Option α) : Reader α := fun j site =>
  match j with
  | .null => ⟨current, none⟩
  | _ =>
    match take j with
    | some v => ⟨v, none⟩
    | none => ⟨current, mismatch (kindName j) target site⟩

/-- Text fields of wire type `target` (`string`, or a named text type). -/
def textReader (target : String) (current : String) : Reader String :=
  scalar target current fun
    | .str s _ => some s
    | _ => none

/-- Boolean fields. -/
def boolReader (current : Bool) : Reader Bool :=
  scalar "bool" current fun
    | .bool b => some b
    | _ => none

/-- Whether a number literal is an optionally signed digit string. -/
def isIntegerLiteral (lit : String) : Bool :=
  let cs := match lit.toList with
    | '-' :: r => r
    | r => r
  !cs.isEmpty && cs.all Char.isDigit

/-- The value of an integer literal. -/
def integerValue (lit : String) : Int :=
  match lit.toList with
  | '-' :: r => -((r.foldl (fun a c => a * 10 + (c.toNat - 48)) 0 : Nat) : Int)
  | r => ((r.foldl (fun a c => a * 10 + (c.toNat - 48)) 0 : Nat) : Int)

/-- Signed 64-bit integer fields of wire type `target` (`int` or `int64`, both 64 bits wide):
a number that is not an integer in range is a mismatch that quotes the literal. -/
def integerReader (target : String) (current : Int) : Reader Int := fun j site =>
  match j with
  | .null => ⟨current, none⟩
  | .number lit =>
    if isIntegerLiteral lit then
      let n := integerValue lit
      if -9223372036854775808 ≤ n && n < 9223372036854775808 then ⟨n, none⟩
      else ⟨current, mismatch ("number " ++ lit) target site⟩
    else ⟨current, mismatch ("number " ++ lit) target site⟩
  | _ => ⟨current, mismatch (kindName j) target site⟩

/-- Fields of wire type `int64`. -/
def int64Reader (current : Int) : Reader Int := integerReader "int64" current

/-- A character folded for matching member names: ASCII letters to lower case, `ſ` to `s` and
the Kelvin sign to `k`, the characters that fold to ASCII letters. -/
def foldChar (c : Char) : Char :=
  if c.toNat = 0x17F then 's' else if c.toNat = 0x212A then 'k' else c.toLower

/-- Whether two member names agree up to case. -/
def namesFold (a b : String) : Bool :=
  a.length == b.length && (a.toList.zip b.toList).all fun (x, y) => foldChar x == foldChar y

/-- A field of a record of type `σ`: its name and how a value updates the record. -/
structure Field (σ : Type) where
  name : String
  read : σ → Parsed → Site → Decoded σ

/-- A field whose value is read by `r` from the current value `get` and stored by `set`. -/
def Field.of (name : String) (get : σ → α) (set : σ → α → σ) (r : α → Reader α) : Field σ :=
  ⟨name, fun s j site =>
    let d := r (get s) j site
    ⟨set s d.value, d.fault⟩⟩

/-- The field a member name selects: the exact name first, then up to case. -/
def selectField (fields : List (Field σ)) (key : String) : Option (Field σ) :=
  match fields.find? (·.name == key) with
  | some f => some f
  | none => fields.find? (fun f => namesFold f.name key)

/-- Reads the members of an object into a record, in order. -/
def readMembers (fields : List (Field σ)) (site : Site) :
    σ → Option Fault → List (String × Parsed) → Decoded σ
  | s, m, [] => ⟨s, m⟩
  | s, m, (k, v) :: rest =>
    match selectField fields k with
    | none => readMembers fields site s m rest
    | some f =>
      let d := f.read s v (site.push k)
      readMembers fields site d.value (firstFault m d.fault) rest

/-- A record reader: `null` keeps the record, an object is read member by member, any other
value is a mismatch against the record type `target`. -/
def recordReader (target : String) (fields : List (Field σ)) (current : σ) : Reader σ :=
  fun j site =>
    match j with
    | .null => ⟨current, none⟩
    | .obj members _ => readMembers fields site current none members
    | _ => ⟨current, mismatch (kindName j) target site⟩

/-- Reads the elements of a list with `elem`, each into the element at its index in `old`, or
into `fresh` past the end of `old`; indexes count from `i`. -/
def readElements (elem : α → Reader α) (fresh : α) (site : Site) :
    Nat → List α → List α → Option Fault → List Parsed → Decoded (List α)
  | _, _, acc, m, [] => ⟨acc.reverse, m⟩
  | i, old, acc, m, j :: rest =>
    let d := elem (old.headD fresh) j (site.push (toString i))
    readElements elem fresh site (i + 1) old.tail (d.value :: acc) (firstFault m d.fault) rest

/-- A list reader: `null` gives `none` (no list), an array its elements, any other value is a
mismatch against the list type `target`. An element is read into the element already at its
index, if the list has one (a list given twice merges its elements), and into `fresh`
otherwise; the list then has as many elements as the array. -/
def listReader (target : String) (elem : α → Reader α) (fresh : α) (current : Option (List α)) :
    Reader (Option (List α)) := fun j site =>
  match j with
  | .null => ⟨none, none⟩
  | .arr items _ =>
    let d := readElements elem fresh site 0 (current.getD []) [] none items
    ⟨some d.value, d.fault⟩
  | _ => ⟨current, mismatch (kindName j) target site⟩

/-- An optional value: `null` gives `none`, any other value is read by `r` from `fresh`. -/
def optionReader (fresh : α) (r : α → Reader α) (current : Option α) : Reader (Option α) :=
  fun j site =>
    match j with
    | .null => ⟨none, none⟩
    | _ =>
      let d := r (current.getD fresh) j site
      ⟨some d.value, d.fault⟩

/-- A list of entries that may each be missing: a `null` element is a missing entry, any
other is read by `elem` into the entry at its index, or into `fresh` where there is none. -/
def entriesReader (target : String) (fresh : α) (elem : α → Reader α)
    (current : Option (List (Option α))) : Reader (Option (List (Option α))) :=
  listReader target (optionReader fresh elem) none current

/-- Fields that keep a value as it was written, whatever its kind: `null` too is kept. -/
def rawReader (_current : Option Parsed) : Reader (Option Parsed) := fun j _ => ⟨some j, none⟩

/-- Reads the members of an object into a text map, in order; a repeated name keeps its place
and takes the later value. -/
def readTextMembers (site : Site) :
    List (String × String) → Option Fault → List (String × Parsed) → Decoded (List (String × String))
  | acc, m, [] => ⟨acc, m⟩
  | acc, m, (k, v) :: rest =>
    let d := textReader "string" "" v (site.push k)
    let acc := if acc.any (·.1 == k) then acc.map fun (k', v') => if k' == k then (k', d.value) else (k', v')
      else acc ++ [(k, d.value)]
    readTextMembers site acc (firstFault m d.fault) rest

/-- Text map fields: `null` gives `none` (no map), an object its members added to the map
there is, each value a text; any other value is a mismatch against `map[string]string`. -/
def textMapReader (current : Option (List (String × String))) :
    Reader (Option (List (String × String))) := fun j site =>
  match j with
  | .null => ⟨none, none⟩
  | .obj members _ =>
    let d := readTextMembers site (current.getD []) none members
    ⟨some d.value, d.fault⟩
  | _ => ⟨current, mismatch (kindName j) "map[string]string" site⟩

/-- Reads a parsed value into the root type `root` with a reader; the first fault, if any, is
the answer. -/
def decodeParsed (root : String) (r : α → Reader α) (initial : α) (j : Parsed) : Except Fault α :=
  let d := r initial j ⟨root, []⟩
  match d.fault with
  | some f => .error f
  | none => .ok d.value

/-- Reads a whole text into the root type `root`: a syntax error first, then the first fault of
the reading. -/
def decodeText (root : String) (r : α → Reader α) (initial : α) (text : String) :
    Except Fault α :=
  match read text with
  | .ok j => decodeParsed root r initial j
  | .error e => .error (.json e.message)

end Json

end Auction
