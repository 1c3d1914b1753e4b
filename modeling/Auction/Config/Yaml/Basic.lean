/-!
# YAML text: positions, character classes and failures

A YAML text is read in stages, each in a module of its own: characters (`Yaml.Input`), tokens
(`Yaml.Token`), events (`Yaml.Event`) and the node graph of the first document (`Yaml.Node`);
values are read from that graph in `Config.Yaml`, with scalars resolved by `Yaml.Resolve`. This
module holds what the stages share.

**Positions.** A `Mark` counts characters read, lines and columns, all from zero. A carriage
return and line feed pair is one line break but two characters.

**Characters.** The text may hold tabs, line breaks and the printable characters: `0x20`–`0x7E`,
next line (`0x85`), `0xA0`–`0xD7FF`, `0xE000`–`0xFFFD` and everything above the basic plane.
Anything else is refused before it is read (`isAllowed`). Line breaks are the line feed, the
carriage return, next line and the line and paragraph separators; blanks are the space and the
tab. The end of the text reads as the character `0`.

**Failures.** A failure names the stage that found it. A character error has no line. A
scanner error is reported with the line of its context, counted from one, or else with the line
of the problem, and with no line when both are on the first line. A parser error does the same
with lines counted from zero, so a problem on the second line reads `line 1`.
-/

namespace Auction

namespace Yaml

/-- A position in the text: characters read, line and column, all from zero. -/
structure Mark where
  index : Nat
  line : Nat
  column : Nat
  deriving Inhabited, Repr

/-- The start of the text. -/
def Mark.start : Mark := ⟨0, 0, 0⟩

/-- Why a text is not a YAML document, or not one that reads into configuration. -/
inductive Failure where
  /-- A character the text may not hold. -/
  | reader (message : String)
  /-- A scanner error, with the lines of its context and of its problem (from zero). -/
  | scanner (context problem : Nat) (message : String)
  /-- A parser error, with the lines of its context and of its problem (from zero). -/
  | parser (context problem : Nat) (message : String)
  /-- An alias to an anchor that is not known. -/
  | unknownAnchor (name : String)
  /-- An alias inside the node its anchor names. -/
  | selfAlias (name : String)
  /-- A merge key whose value is neither a mapping nor a sequence of mappings. -/
  | mergeNotMap
  /-- A value that cannot be read as its tag asks, or another failure of reading values. -/
  | decode (message : String)
  /-- Values that do not fit where they stand, each with its line. -/
  | unmarshal (problems : List String)
  /-- The text nests or aliases deeper than the reader follows. -/
  | exhausted
  /-- A failure of the reading itself, which ends the whole request. -/
  | crash (message : String)
  deriving Repr

/-- The wording of a failure. -/
def Failure.message : Failure → String
  | .reader m => "yaml: " ++ m
  | .scanner c p m =>
    "yaml: " ++ (if c ≠ 0 then "line " ++ toString (c + 1) ++ ": "
      else if p ≠ 0 then "line " ++ toString (p + 1) ++ ": " else "") ++ m
  | .parser c p m =>
    "yaml: " ++ (if c ≠ 0 then "line " ++ toString c ++ ": "
      else if p ≠ 0 then "line " ++ toString p ++ ": " else "") ++ m
  | .unknownAnchor n => "yaml: unknown anchor '" ++ n ++ "' referenced"
  | .selfAlias n => "yaml: anchor '" ++ n ++ "' value contains itself"
  | .mergeNotMap => "yaml: map merge requires map or sequence of maps as the value"
  | .decode m => "yaml: " ++ m
  | .unmarshal ps => "yaml: unmarshal errors:\n  " ++ "\n  ".intercalate ps
  | .exhausted => "yaml: document nests too deeply"
  | .crash m => m

/-! ## Characters -/

/-- Whether a code point may stand in a text. -/
def isAllowed (n : Nat) : Bool :=
  n = 0x09 || n = 0x0A || n = 0x0D || (0x20 ≤ n && n ≤ 0x7E) || n = 0x85 ||
    (0xA0 ≤ n && n ≤ 0xD7FF) || (0xE000 ≤ n && n ≤ 0xFFFD) || (0x10000 ≤ n && n ≤ 0x10FFFF)

/-- The character read past the end of the text. -/
def endChar : Char := Char.ofNat 0

/-- Whether a character is the end of the text. -/
def isEnd (c : Char) : Bool := c.toNat = 0

/-- Whether a character is a blank: a space or a tab. -/
def isBlank (c : Char) : Bool := c = ' ' || c = '\t'

/-- Whether a character is a line break. -/
def isBreak (c : Char) : Bool :=
  c = '\r' || c = '\n' || c.toNat = 0x85 || c.toNat = 0x2028 || c.toNat = 0x2029

/-- Whether a character is a line break or the end of the text. -/
def isBreakOrEnd (c : Char) : Bool := isBreak c || isEnd c

/-- Whether a character is a blank, a line break or the end of the text. -/
def isBlankOrEnd (c : Char) : Bool := isBlank c || isBreakOrEnd c

/-- Whether a character is an ASCII letter or digit, `_` or `-`: the characters of directive
names, tag handles and anchors. -/
def isWordChar (c : Char) : Bool :=
  ('0' ≤ c && c ≤ '9') || ('A' ≤ c && c ≤ 'Z') || ('a' ≤ c && c ≤ 'z') || c = '_' || c = '-'

/-- The value of a hexadecimal digit. -/
def hexValue (c : Char) : Option Nat :=
  if '0' ≤ c && c ≤ '9' then some (c.toNat - 48)
  else if 'a' ≤ c && c ≤ 'f' then some (c.toNat - 87)
  else if 'A' ≤ c && c ≤ 'F' then some (c.toNat - 55)
  else none

/-- The length of the UTF-8 sequence an octet starts, or zero when it starts none. -/
def octetWidth (b : Nat) : Nat :=
  if b < 0x80 then 1
  else if b / 32 = 6 then 2
  else if b / 16 = 14 then 3
  else if b / 8 = 30 then 4
  else 0

end Yaml

end Auction
