import Auction.Config.Literal

/-!
# Configuration data

A configuration file reads into a tree of `Datum`s: scalars (null, booleans, integers of the
reader's widths, floats, texts), sequences and mappings with text keys. Mappings keep their
entries in file order; a key appears once.

Messages about a datum name its type and its kind the way a dynamically typed reader names
them: an integer is an `int`, a sequence a `[]interface {}` of kind `slice`, a mapping a
`map[string]interface {}` of kind `map`. `Datum.describe` writes a datum for such messages: a
sequence as `[a b]`, a mapping as `map[k:v …]` with its keys in order, null as `<nil>`.

Dates and times are values of their own (`Datum.stamp`): a record type named by the reader that
made it (`time.Time`, or a local date or time of a TOML document), of kind `struct`, shown in
messages by its own text.
-/

namespace Auction

/-- A value read from a configuration file. -/
inductive Datum where
  | null
  | bool (b : Bool)
  /-- A platform integer. -/
  | int (n : Int)
  /-- An explicitly 64-bit integer. -/
  | long (n : Int)
  /-- An unsigned 64-bit integer, for a value past the signed range. -/
  | uint (n : Nat)
  | float (x : Real64)
  | str (s : String)
  | seq (items : List Datum)
  | map (entries : List (String × Datum))
  /-- A date or a time: the name of its type and its text in messages. -/
  | stamp (type shown : String)
  deriving Repr, Inhabited

namespace Datum

/-- The type of a datum, as messages name it. -/
def typeName : Datum → String
  | .null => "<nil>"
  | .bool _ => "bool"
  | .int _ => "int"
  | .long _ => "int64"
  | .uint _ => "uint64"
  | .float _ => "float64"
  | .str _ => "string"
  | .seq _ => "[]interface {}"
  | .map _ => "map[string]interface {}"
  | .stamp t _ => t

/-- The kind of a datum, as messages name it. -/
def kindName : Datum → String
  | .null => "invalid"
  | .bool _ => "bool"
  | .int _ => "int"
  | .long _ => "int64"
  | .uint _ => "uint64"
  | .float _ => "float64"
  | .str _ => "string"
  | .seq _ => "slice"
  | .map _ => "map"
  | .stamp .. => "struct"

/-- Whether a datum is a mapping. -/
def isMap : Datum → Bool
  | .map _ => true
  | _ => false

/-- Inserts an entry into a list kept in key order. -/
def insertByKey (e : String × String) : List (String × String) → List (String × String)
  | [] => [e]
  | x :: xs => if e.1 < x.1 then e :: x :: xs else x :: insertByKey e xs

/-- Entries in key order. -/
def byKey (entries : List (String × String)) : List (String × String) :=
  entries.foldr insertByKey []

mutual
/-- A datum written for a message. -/
def describe : Datum → String
  | .null => "<nil>"
  | .bool b => if b then "true" else "false"
  | .int n => toString n
  | .long n => toString n
  | .uint n => toString n
  | .float x => x.general
  | .str s => s
  | .seq items => "[" ++ " ".intercalate (showItems items) ++ "]"
  | .map entries =>
    "map[" ++ " ".intercalate ((byKey (showEntries entries)).map fun (k, v) => k ++ ":" ++ v) ++ "]"
  | .stamp _ shown => shown

/-- The items of a sequence, each written for a message. -/
def showItems : List Datum → List String
  | [] => []
  | d :: rest => describe d :: showItems rest

/-- The entries of a mapping, each value written for a message. -/
def showEntries : List (String × Datum) → List (String × String)
  | [] => []
  | (k, d) :: rest => (k, describe d) :: showEntries rest
end

/-- The value under a key of a mapping. -/
def lookup (entries : List (String × Datum)) (k : String) : Option Datum :=
  (entries.find? (·.1 == k)).map (·.2)

/-- A character folded for matching keys up to case: ASCII letters to lower case, and `ſ` and
the Kelvin sign to the ASCII letters they fold with. -/
def foldChar (c : Char) : Char :=
  if c.toNat = 0x17F then 's' else if c.toNat = 0x212A then 'k' else c.toLower

/-- Whether two keys agree up to case. -/
def keysFold (a b : String) : Bool :=
  a.length == b.length && (a.toList.zip b.toList).all fun (x, y) => foldChar x == foldChar y

/-- The value under a key of a mapping, or else under the first key that agrees with it up to
case. -/
def lookupFold (entries : List (String × Datum)) (k : String) : Option Datum :=
  match lookup entries k with
  | some d => some d
  | none => (entries.find? (keysFold ·.1 k)).map (·.2)

/-- Sets a key of a mapping, in place when present, else at the end. -/
def setKey (entries : List (String × Datum)) (k : String) (d : Datum) : List (String × Datum) :=
  if entries.any (·.1 == k) then entries.map fun (k', d') => if k' == k then (k', d) else (k', d')
  else entries ++ [(k, d)]

end Datum

end Auction
