import Auction.Time.Basic

/-!
# Timestamps in YAML documents

A plain scalar that starts with four digits and `-` may be a timestamp. It is one when it fits
one of four layouts, tried in order:

* `2006-1-2T15:4:5.999999999Z07:00`, and the same with a lower-case `t`;
* `2006-1-2 15:4:5.999999999`, date and time apart by one or more spaces, in UTC;
* `2006-1-2`, a date at midnight UTC.

The year has four digits; month, day, hour, minute and second one or two each. The fraction of
a second, after `.` or `,`, may be left out and may have any number of digits, of which the
first nine count. The zone is `Z` or `±hh:mm`, with at most 24 hours and 60 minutes. Every field
must lie in its range and the day must exist in its month; nothing may follow the last field.
-/

namespace Auction

namespace Timestamp

/-- A part of a layout. -/
inductive Part where
  | year
  | month
  | day
  | hour
  | minute
  | second
  /-- An optional fraction of a second. -/
  | fraction
  /-- `Z` or a numeric offset `±hh:mm`. -/
  | zone
  /-- A character that must stand there. -/
  | literal (c : Char)
  /-- One or more spaces. -/
  | spaces
  deriving DecidableEq

/-- The layouts tried, in order. -/
def layouts : List (List Part) :=
  let date := [Part.year, .literal '-', .month, .literal '-', .day]
  let clock := [Part.hour, .literal ':', .minute, .literal ':', .second, .fraction]
  [date ++ .literal 'T' :: clock ++ [.zone], date ++ .literal 't' :: clock ++ [.zone],
    date ++ .spaces :: clock, date]

/-- The fields read so far; the offset is in seconds east of UTC. -/
structure Fields where
  year : Nat := 0
  month : Nat := 1
  day : Nat := 1
  hour : Nat := 0
  minute : Nat := 0
  second : Nat := 0
  nanos : Nat := 0
  offset : Int := 0

/-- The value of a decimal digit. -/
def digit (c : Char) : Nat := c.toNat - 48

/-- Reads a number of one or two digits. -/
def number : List Char → Option (Nat × List Char)
  | a :: b :: rest =>
    if !a.isDigit then none
    else if b.isDigit then some (digit a * 10 + digit b, rest)
    else some (digit a, b :: rest)
  | [a] => if a.isDigit then some (digit a, []) else none
  | [] => none

/-- Reads a number of one or two digits below `bound`. -/
def below (bound : Nat) (cs : List Char) : Option (Nat × List Char) :=
  match number cs with
  | some (n, rest) => if n < bound then some (n, rest) else none
  | none => none

/-- The nanoseconds a run of fraction digits stands for: the first nine, scaled. -/
def nanosOf (ds : List Char) : Nat :=
  let kept := ds.take 9
  kept.foldl (fun a c => a * 10 + digit c) 0 * Nat.pow 10 (9 - kept.length)

/-- Reads a zone: `Z`, or a sign, two digits of hours, `:` and two digits of minutes. -/
def zone : List Char → Option (Int × List Char)
  | 'Z' :: rest => some (0, rest)
  | s :: h₁ :: h₂ :: ':' :: m₁ :: m₂ :: rest =>
    if [h₁, h₂, m₁, m₂].all Char.isDigit && (s = '+' || s = '-') then
      let hours := digit h₁ * 10 + digit h₂
      let minutes := digit m₁ * 10 + digit m₂
      if hours > 24 || minutes > 60 then none
      else
        let seconds : Int := ((hours * 60 + minutes) * 60 : Nat)
        some (if s = '-' then -seconds else seconds, rest)
    else none
  | _ => none

/-- Reads one part of a layout into the fields. -/
def readPart (f : Fields) : Part → List Char → Option (Fields × List Char)
  | .year, cs =>
    let ds := cs.take 4
    if ds.length = 4 && ds.all Char.isDigit then
      some ({ f with year := ds.foldl (fun a c => a * 10 + digit c) 0 }, cs.drop 4)
    else none
  | .month, cs => (below 13 cs).bind fun (n, r) => if n = 0 then none else some ({ f with month := n }, r)
  | .day, cs => (number cs).map fun (n, r) => ({ f with day := n }, r)
  | .hour, cs => (below 24 cs).map fun (n, r) => ({ f with hour := n }, r)
  | .minute, cs => (below 60 cs).map fun (n, r) => ({ f with minute := n }, r)
  | .second, cs => (below 60 cs).map fun (n, r) => ({ f with second := n }, r)
  | .fraction, cs =>
    match cs with
    | p :: d :: rest =>
      if (p = '.' || p = ',') && d.isDigit then
        let ds := (d :: rest).takeWhile Char.isDigit
        some ({ f with nanos := nanosOf ds }, (d :: rest).drop ds.length)
      else some (f, cs)
    | _ => some (f, cs)
  | .zone, cs => (zone cs).map fun (o, r) => ({ f with offset := o }, r)
  | .literal c, cs =>
    match cs with
    | d :: rest => if c = d then some (f, rest) else none
    | [] => none
  | .spaces, cs =>
    match cs with
    | ' ' :: _ => some (f, cs.dropWhile (· = ' '))
    | [] => some (f, [])
    | _ => none

/-- Reads the parts of a layout in order. -/
def readParts (f : Fields) : List Part → List Char → Option (Fields × List Char)
  | [], cs => some (f, cs)
  | p :: ps, cs => (readPart f p cs).bind fun (f, r) => readParts f ps r

/-- The instant a text denotes in a layout: all of it read, and the day one of its month. -/
def inLayout (cs : List Char) (layout : List Part) : Option Instant :=
  match readParts {} layout cs with
  | some (f, []) =>
    if f.day < 1 || f.day > daysInMonth f.year f.month then none
    else
      let wall := Instant.ofCivil f.year f.month f.day f.hour f.minute f.second f.nanos
      some ⟨wall.ns - f.offset * 1000000000, f.offset⟩
  | _ => none

/-- The instant a scalar denotes, when it is a timestamp: it starts with four digits and `-`,
and fits one of the layouts. -/
def parse (s : String) : Option Instant :=
  let cs := s.toList
  if (cs.takeWhile Char.isDigit).length ≠ 4 || cs[4]? ≠ some '-' then none
  else layouts.findSome? (inLayout cs)

end Timestamp

end Auction
