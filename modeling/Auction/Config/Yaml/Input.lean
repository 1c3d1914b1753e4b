import Auction.Config.Yaml.Basic

/-!
# YAML text: the character buffer

The scanner reads the text through a buffer of decoded characters. What the buffer holds at a
given moment is observable, so it is modelled exactly:

* The bytes are read in windows: at most 512 bytes of the text past the last character decoded.
  A window is decoded whole, up to its last complete character, when the scanner asks for more
  characters than the buffer holds (`Input.fill`); a refused character fails the decoding there
  (the characters before it stay decoded), and the failure is kept in `failed`.
* A leading byte order mark is passed over before the first window is decoded.
* When the text is exhausted, each request that finds too few characters adds one end character
  (`0`) to the buffer.
* Each request that finds too few characters also moves the rest of the buffer to its start, so
  the character at the start of the buffer (`Input.atStart`) is the one under the reading position
  at the last such request. A byte order mark is skipped at the start of a line only when the
  buffer starts with one, wherever the reading position is.

The reading position is the number of characters read, `mark.index`: a carriage return and
line feed pair counts as two characters and one line break. `newlines` counts the line breaks
read since the last character that is neither a blank nor a break.
-/

namespace Auction

namespace Yaml

/-- The text being read, the part of it decoded so far, and the reading position. -/
structure Input where
  /-- The characters of the text, without a leading byte order mark. -/
  chars : Array Char
  /-- The length of the text in bytes, the byte order mark included. -/
  total : Nat
  /-- How many characters have been decoded. -/
  decoded : Nat
  /-- The bytes those characters span, from the start of the text. -/
  decodedBytes : Nat
  /-- The bytes read from the text so far. -/
  rawEnd : Nat
  /-- Whether a read found the text exhausted. -/
  eof : Bool
  /-- End characters added after the text. -/
  nuls : Nat
  /-- The character at the start of the buffer. -/
  start : Nat
  /-- The reading position. -/
  mark : Mark
  /-- Line breaks read since the last character that is neither a blank nor a break. -/
  newlines : Nat
  /-- The character error met while decoding, if any. -/
  failed : Option String
  deriving Inhabited

namespace Input

/-- The input of a text; an empty text reads as a single line break. -/
def ofString (text : String) : Input :=
  let text := if text.isEmpty then "\n" else text
  let total := text.utf8ByteSize
  let (chars, skipped) : List Char × Nat :=
    match text.toList with
    | c :: rest => if c.toNat = 0xFEFF then (rest, 3) else (c :: rest, 0)
    | [] => ([], 0)
  { chars := chars.toArray, total, decoded := 0, decodedBytes := skipped,
    rawEnd := min 512 total, eof := total < 3, nuls := 0, start := 0, mark := Mark.start,
    newlines := 0, failed := none }

/-- The characters in the buffer not yet read. -/
def unread (s : Input) : Int := ((s.decoded + s.nuls : Nat) : Int) - (s.mark.index : Int)

/-- The character `k` places after the reading position; the end character past what is
decoded. -/
def peek (s : Input) (k : Nat) : Char :=
  let i := s.mark.index + k
  if i < s.decoded then s.chars.getD i endChar else endChar

/-- The character at the start of the buffer. -/
def atStart (s : Input) : Char :=
  if s.start < s.decoded then s.chars.getD s.start endChar else endChar

/-- Reads the next window of bytes, or finds the text exhausted. -/
def readRaw (s : Input) : Input :=
  if s.eof then s
  else if s.rawEnd = s.total then { s with eof := true }
  else { s with rawEnd := min s.total (s.decodedBytes + 512) }

/-- Decodes the characters that the bytes read hold whole; a refused character stops there
with the character error. -/
def decode (s : Input) : Input × Bool := Id.run do
  let mut s := s
  for _ in [0:s.chars.size + 1] do
    match s.chars[s.decoded]? with
    | none => break
    | some c =>
      if s.decodedBytes + c.utf8Size > s.rawEnd then break
      if !isAllowed c.toNat then
        return ({ s with failed := some "control characters are not allowed" }, false)
      s := { s with decoded := s.decoded + 1, decodedBytes := s.decodedBytes + c.utf8Size }
  return (s, true)

/-- Makes at least `length` characters available past the reading position, decoding windows
and adding end characters as needed; false when a refused character stops the decoding. -/
def fill (s : Input) (length : Nat) : Input × Bool := Id.run do
  if s.unread ≥ (length : Int) then return (s, true)
  let mut s := { s with start := s.mark.index }
  let mut first := true
  for _ in [0:s.total + 3] do
    if s.unread ≥ (length : Int) then break
    if !first || s.decodedBytes = s.rawEnd then s := s.readRaw
    first := false
    let (s', ok) := s.decode
    s := s'
    if !ok then return (s, false)
    if s.eof then
      s := { s with nuls := s.nuls + 1 }
      break
  return (s, true)

/-- Passes over the character at the reading position. -/
def skip (s : Input) : Input :=
  { s with newlines := if isBlank (s.peek 0) then s.newlines else 0,
           mark := ⟨s.mark.index + 1, s.mark.line, s.mark.column + 1⟩ }

/-- Passes over a line break: a carriage return and line feed together, or one break. -/
def skipLine (s : Input) : Input :=
  if s.peek 0 = '\r' && s.peek 1 = '\n' then
    { s with mark := ⟨s.mark.index + 2, s.mark.line + 1, 0⟩, newlines := s.newlines + 1 }
  else if isBreak (s.peek 0) then
    { s with mark := ⟨s.mark.index + 1, s.mark.line + 1, 0⟩, newlines := s.newlines + 1 }
  else s

/-- Reads the character at the reading position onto `acc`. -/
def read (s : Input) (acc : String) : Input × String := (s.skip, acc.push (s.peek 0))

/-- Reads a line break onto `acc`: a carriage return, a line feed, both together, or a next
line character, each as a line feed; a line or paragraph separator as itself. Anything else is
left. -/
def readLine (s : Input) (acc : String) : Input × String :=
  let c := s.peek 0
  let broken (width : Nat) : Input :=
    { s with mark := ⟨s.mark.index + width, s.mark.line + 1, 0⟩, newlines := s.newlines + 1 }
  if c = '\r' && s.peek 1 = '\n' then (broken 2, acc.push '\n')
  else if c = '\r' || c = '\n' || c.toNat = 0x85 then (broken 1, acc.push '\n')
  else if c.toNat = 0x2028 || c.toNat = 0x2029 then (broken 1, acc.push c)
  else (s, acc)

end Input

end Yaml

end Auction
