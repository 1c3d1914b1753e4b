import Auction.Time.Basic

/-!
# Reading RFC 3339 times

`Instant.parse` reads `YYYY-MM-DDTHH:MM:SS`, an optional fraction of a second after `.` or `,`
(digits past the ninth are dropped), and a zone `Z` or `±hh:mm`; the instant is the moment it
names. The reading is lenient in two places: the hour may have one digit, and a zone offset
may reach 24 hours or 60 minutes. The instant keeps the zone offset it was written with.

The text is read field by field, and the first field that fails is reported (`TimeError`): a
field that does not have the expected form is "cannot parse" with the rest of the text and the
field's pattern; a month, hour, minute or second out of range, or a zone offset past its limit,
is "out of range"; text after the zone is "extra text"; last, the day must exist in its month.
-/

namespace Auction

/-- The pattern of RFC 3339 times, as the error messages name it. -/
def rfc3339Pattern : String := "2006-01-02T15:04:05Z07:00"

/-- Why a text is not an RFC 3339 time. -/
inductive TimeError where
  /-- The text `rest` does not start with the pattern field `field`. -/
  | cannotParse (text rest field : String)
  /-- A field is out of its range; `what` names it. -/
  | outOfRange (text what : String)
  /-- Text is left after the zone. -/
  | extraText (text rest : String)
  deriving DecidableEq, Repr

/-- The bytes of the UTF-8 encoding of a character. -/
def utf8Bytes (c : Char) : List Nat :=
  let n := c.toNat
  if n < 0x80 then [n]
  else if n < 0x800 then [0xC0 + n / 64, 0x80 + n % 64]
  else if n < 0x10000 then [0xE0 + n / 4096, 0x80 + n / 64 % 64, 0x80 + n % 64]
  else [0xF0 + n / 262144, 0x80 + n / 4096 % 64, 0x80 + n / 64 % 64, 0x80 + n % 64]

/-- Lower-case hexadecimal digit. -/
def lowerHex (n : Nat) : Char :=
  if n < 10 then Char.ofNat (48 + n) else Char.ofNat (87 + n)

/-- A text in double quotes for a time message: quote and backslash escaped, control and
non-ASCII characters as `\x` escapes of their bytes. -/
def quoteTimeText (s : String) : String :=
  let body := s.toList.flatMap fun c =>
    if c.toNat < 0x20 || c.toNat ≥ 0x80 then
      (utf8Bytes c).flatMap fun b => ['\\', 'x', lowerHex (b / 16), lowerHex (b % 16)]
    else if c = '"' || c = '\\' then ['\\', c]
    else [c]
  String.ofList ('"' :: body ++ ['"'])

/-- The pattern of RFC 3339 times with an optional fraction of up to nine digits, as the error
messages name it. Both patterns read the same texts: a fraction is read after the seconds
either way. -/
def rfc3339NanoPattern : String := "2006-01-02T15:04:05.999999999Z07:00"

/-- The wording of a time error when the text was read by `pattern`. -/
def TimeError.messageFor (pattern : String) : TimeError → String
  | .cannotParse t r f =>
    "parsing time " ++ quoteTimeText t ++ " as " ++ quoteTimeText pattern ++
      ": cannot parse " ++ quoteTimeText r ++ " as " ++ quoteTimeText f
  | .outOfRange t w => "parsing time " ++ quoteTimeText t ++ ": " ++ w ++ " out of range"
  | .extraText t r => "parsing time " ++ quoteTimeText t ++ ": extra text: " ++ quoteTimeText r

/-- The wording of a time error when the text was read as an RFC 3339 time. -/
def TimeError.message (e : TimeError) : String := e.messageFor rfc3339Pattern

namespace TimeReader

/-- Value of a digit character. -/
def digit (c : Char) : Nat := c.toNat - 48

/-- A number of two digits, or of one when `fixed` is false and only one digit follows. -/
def number (fixed : Bool) : List Char → Option (Nat × List Char)
  | a :: b :: rest =>
    if a.isDigit then
      if b.isDigit then some (digit a * 10 + digit b, rest)
      else if fixed then none else some (digit a, b :: rest)
    else none
  | [a] => if a.isDigit && !fixed then some (digit a, []) else none
  | [] => none

/-- Takes a fixed separator character. -/
def separator (c : Char) : List Char → Option (List Char)
  | d :: rest => if c = d then some rest else none
  | [] => none

/-- The nanoseconds of a fraction `digits` (at most nine are read). -/
def nanosOf (digits : List Char) : Nat :=
  let kept := digits.take 9
  kept.foldl (fun acc c => acc * 10 + digit c) 0 * Nat.pow 10 (9 - kept.length)

end TimeReader

open TimeReader in
/-- Reads an RFC 3339 time. -/
def Instant.parse (text : String) : Except TimeError Instant := do
  let s := text.toList
  let fail (rest : List Char) (field : String) : TimeError :=
    .cannotParse text (String.ofList rest) field
  let (year, r) ← match s with
    | a :: b :: c :: d :: rest =>
      if a.isDigit && b.isDigit && c.isDigit && d.isDigit then
        pure (digit a * 1000 + digit b * 100 + digit c * 10 + digit d, rest)
      else throw (fail s "2006")
    | _ => throw (fail s "2006")
  let some r := separator '-' r | throw (fail r "-")
  let (month, r') ← match number true r with
    | some v => pure v
    | none => throw (fail r "01")
  if month = 0 || month > 12 then throw (.outOfRange text "month")
  let some r := separator '-' r' | throw (fail r' "-")
  let (day, r') ← match number true r with
    | some v => pure v
    | none => throw (fail r "02")
  let some r := separator 'T' r' | throw (fail r' "T")
  let (hour, r') ← match number false r with
    | some v => pure v
    | none => throw (fail r "15")
  if hour ≥ 24 then throw (.outOfRange text "hour")
  let some r := separator ':' r' | throw (fail r' ":")
  let (minute, r') ← match number true r with
    | some v => pure v
    | none => throw (fail r "04")
  if minute ≥ 60 then throw (.outOfRange text "minute")
  let some r := separator ':' r' | throw (fail r' ":")
  let (sec, r) ← match number true r with
    | some v => pure v
    | none => throw (fail r "05")
  if sec ≥ 60 then throw (.outOfRange text "second")
  let (nanos, r) := match r with
    | p :: d :: rest =>
      if (p = '.' || p = ',') && d.isDigit then
        let ds := (d :: rest).takeWhile Char.isDigit
        (nanosOf ds, (d :: rest).dropWhile Char.isDigit)
      else (0, r)
    | _ => (0, r)
  let (offset, r') ← match r with
    | 'Z' :: rest => pure ((0 : Int), rest)
    | sign :: h1 :: h2 :: colon :: m1 :: m2 :: rest =>
      if colon != ':' then throw (fail r "Z07:00")
      else
        let hh := number true [h1, h2]
        let mm := if hh.isSome then number true [m1, m2] else none
        let hours := (hh.map (·.1)).getD 0
        let minutes := (mm.map (·.1)).getD 0
        if minutes > 60 then throw (.outOfRange text "time zone offset minute")
        else if hours > 24 then throw (.outOfRange text "time zone offset hour")
        else if hh.isNone || mm.isNone then throw (fail r "Z07:00")
        else
          let seconds : Int := ((hours * 60 + minutes) * 60 : Nat)
          if sign = '+' then pure (seconds, rest)
          else if sign = '-' then pure (-seconds, rest)
          else throw (fail r "Z07:00")
    | _ => throw (fail r "Z07:00")
  unless r'.isEmpty do throw (.extraText text (String.ofList r'))
  if day < 1 || day > daysInMonth year month then throw (.outOfRange text "day")
  let wall := Instant.ofCivil year month day hour minute sec nanos
  pure ⟨wall.ns - offset * 1000000000, offset⟩

end Auction
