/-!
# Instants and durations · the clock of the auction house

An `Instant` is a count of nanoseconds since `0001-01-01T00:00:00Z` on the proleptic Gregorian
calendar in UTC, so the zero instant is that moment, and it is the instant of a time that was
never set. It also carries the offset of the zone it is shown in, which a time read from text
keeps; instants compare by their moment alone. A `Duration` is a signed count of nanoseconds;
one made from a count of milliseconds wraps around the signed 64-bit range, as a multiplication
of 64-bit integers does.

`Instant.render` writes the RFC 3339 form of the wall-clock time in the instant's zone with as
many fractional digits as needed (none for a whole second, at most nine), ending in `Z` for a
zero offset and in `±hh:mm` otherwise. The strict form, which the wire format requires, also
needs a year from 0 to 9999 and an offset under a day (`Instant.strictProblem`). `Duration.render` writes hours, minutes and
seconds, the seconds with a fraction as needed (`5m0s`, `1.5s`, `25h1m1.001s`); a duration under
a second uses the largest of `ms`, `µs`, `ns` that keeps it whole before the point (`1.5ms`).
-/

namespace Auction

/-- A moment, as nanoseconds since `0001-01-01T00:00:00Z`, shown in the zone `offset` seconds
east of UTC. -/
structure Instant where
  ns : Int
  offset : Int := 0
  deriving DecidableEq, Inhabited, Repr

/-- A signed length of time in nanoseconds. -/
structure Duration where
  ns : Int
  deriving DecidableEq, Inhabited, Repr

namespace Duration

/-- One nanosecond. -/
def nanosecond : Duration := ⟨1⟩
/-- One millisecond. -/
def millisecond : Duration := ⟨1000000⟩
/-- One second. -/
def second : Duration := ⟨1000000000⟩

/-- An integer taken modulo `2 ^ 64` into the signed 64-bit range. -/
def wrap64 (n : Int) : Int :=
  let m := n % 18446744073709551616
  if m ≥ 9223372036854775808 then m - 18446744073709551616 else m

/-- A whole number of milliseconds, wrapped into the signed 64-bit range of nanoseconds. -/
def ofMillis (ms : Int) : Duration := ⟨wrap64 (ms * 1000000)⟩

instance : LT Duration := ⟨fun a b => a.ns < b.ns⟩
instance : LE Duration := ⟨fun a b => a.ns ≤ b.ns⟩
instance (a b : Duration) : Decidable (a < b) := inferInstanceAs (Decidable (a.ns < b.ns))
instance (a b : Duration) : Decidable (a ≤ b) := inferInstanceAs (Decidable (a.ns ≤ b.ns))

/-- The digits of `v % 10 ^ prec` after a point, trailing zeros and then the point dropped,
and `v / 10 ^ prec`. -/
def fraction (v : Nat) (prec : Nat) : String × Nat :=
  let digits := (List.range prec).map (fun i => v / Nat.pow 10 i % 10)
  let kept := (digits.dropWhile (· == 0)).reverse
  let text := if kept.isEmpty then "" else "." ++ String.ofList (kept.map fun d => Char.ofNat (48 + d))
  (text, v / Nat.pow 10 prec)

/-- Hours, minutes and seconds, or a smaller unit under a second. -/
def render (d : Duration) : String :=
  let u := d.ns.natAbs
  let body :=
    if u = 0 then "0s"
    else if u < 1000 then toString u ++ "ns"
    else if u < 1000000 then
      let (f, w) := fraction u 3
      toString w ++ f ++ "µs"
    else if u < 1000000000 then
      let (f, w) := fraction u 6
      toString w ++ f ++ "ms"
    else
      let (f, secs) := fraction u 9
      let s := toString (secs % 60) ++ f ++ "s"
      let mins := secs / 60
      if mins = 0 then s
      else
        let m := toString (mins % 60) ++ "m" ++ s
        let hours := mins / 60
        if hours = 0 then m else toString hours ++ "h" ++ m
  if d.ns < 0 then "-" ++ body else body

end Duration

namespace Instant

/-- The instant of a time never set: `0001-01-01T00:00:00Z`. -/
def zero : Instant := ⟨0, 0⟩

/-- Whether this is the instant of a time never set. -/
def isZero (t : Instant) : Bool := t.ns == 0

instance : LT Instant := ⟨fun a b => a.ns < b.ns⟩
instance : LE Instant := ⟨fun a b => a.ns ≤ b.ns⟩
instance (a b : Instant) : Decidable (a < b) := inferInstanceAs (Decidable (a.ns < b.ns))
instance (a b : Instant) : Decidable (a ≤ b) := inferInstanceAs (Decidable (a.ns ≤ b.ns))

/-- The instant `d` later, in the same zone. -/
def add (t : Instant) (d : Duration) : Instant := { t with ns := t.ns + d.ns }

/-- Instants compare by their nanoseconds. -/
theorem lt_iff_ns {a b : Instant} : a < b ↔ a.ns < b.ns := Iff.rfl

/-- Instants compare, or are equal, by their nanoseconds. -/
theorem le_iff_ns {a b : Instant} : a ≤ b ↔ a.ns ≤ b.ns := Iff.rfl

/-- A duration added to an instant adds its nanoseconds. -/
@[simp] theorem add_ns (t : Instant) (d : Duration) : (t.add d).ns = t.ns + d.ns := rfl

/-- The same moment shown in UTC. -/
def utc (t : Instant) : Instant := { t with offset := 0 }

/-- The time from `b` to `a`, held to the range of a signed 64-bit count of nanoseconds (about
292 years either way): a longer span reads as the nearest end of that range. -/
def sub (a b : Instant) : Duration :=
  let d := a.ns - b.ns
  ⟨max (-9223372036854775808) (min 9223372036854775807 d)⟩

end Instant

/-! ## The calendar -/

/-- Whether a year of the proleptic Gregorian calendar has 29 February. -/
def isLeapYear (y : Int) : Bool := y % 4 == 0 && (y % 100 != 0 || y % 400 == 0)

/-- The number of days of a month (1 to 12) in a year. -/
def daysInMonth (y : Int) (m : Nat) : Nat :=
  match m with
  | 2 => if isLeapYear y then 29 else 28
  | 4 | 6 | 9 | 11 => 30
  | _ => 31

/-- Days from `1970-01-01` to a date (month 1 to 12, day from 1), by the era count of 400-year
cycles. -/
def daysFromCivil (y : Int) (m : Nat) (d : Nat) : Int :=
  let y := if m ≤ 2 then y - 1 else y
  let era := y / 400
  let yoe := y - era * 400
  let mp : Int := if m > 2 then m - 3 else m + 9
  let doy := (153 * mp + 2) / 5 + d - 1
  let doe := yoe * 365 + yoe / 4 - yoe / 100 + doy
  era * 146097 + doe - 719468

/-- The date of a day counted from `1970-01-01`: year, month (1 to 12), day (from 1). -/
def civilFromDays (z : Int) : Int × Nat × Nat :=
  let z := z + 719468
  let era := z / 146097
  let doe := z - era * 146097
  let yoe := (doe - doe / 1460 + doe / 36524 - doe / 146096) / 365
  let y := yoe + era * 400
  let doy := doe - (365 * yoe + yoe / 4 - yoe / 100)
  let mp := (5 * doy + 2) / 153
  let d := doy - (153 * mp + 2) / 5 + 1
  let m := if mp < 10 then mp + 3 else mp - 9
  ((if m ≤ 2 then y + 1 else y), m.toNat, d.toNat)

/-- Days from `0001-01-01` to `1970-01-01`. -/
def unixEpochDay : Int := 719162

/-- Nanoseconds in a day. -/
def nanosPerDay : Int := 86400 * 1000000000

/-- The instant of a date and time of day in UTC. -/
def Instant.ofCivil (y : Int) (mo d h mi s : Nat) (nanos : Nat) : Instant :=
  ⟨(daysFromCivil y mo d + unixEpochDay) * nanosPerDay +
    ((h * 60 + mi) * 60 + s : Nat) * 1000000000 + nanos, 0⟩

/-- Nanoseconds since `0001-01-01T00:00:00` of the wall-clock time in the instant's zone. -/
def Instant.wallNs (t : Instant) : Int := t.ns + t.offset * 1000000000

/-- The year of the wall-clock time in the instant's zone. -/
def Instant.year (t : Instant) : Int :=
  (civilFromDays (t.wallNs / nanosPerDay - unixEpochDay)).1

/-- Zero-padded decimal digits of a natural number. -/
def padNat (width : Nat) (n : Nat) : String :=
  let s := toString n
  String.ofList (List.replicate (width - s.length) '0') ++ s

/-- The zone of RFC 3339 text: `Z` for a zero offset, else `±hh:mm` of whole minutes. -/
def zoneText (offset : Int) : String :=
  if offset = 0 then "Z"
  else
    let minutes := offset.natAbs / 60
    (if offset < 0 then "-" else "+") ++ padNat 2 (minutes / 60) ++ ":" ++ padNat 2 (minutes % 60)

/-- RFC 3339 text of the wall-clock time in the instant's zone, with the fraction of a second
as needed. -/
def Instant.render (t : Instant) : String :=
  let days := t.wallNs / nanosPerDay - unixEpochDay
  let inDay := (t.wallNs % nanosPerDay).toNat
  let (y, mo, d) := civilFromDays days
  let secs := inDay / 1000000000
  let nanos := inDay % 1000000000
  let (frac, _) := Duration.fraction nanos 9
  let year := if y < 0 then "-" ++ padNat 4 y.natAbs else padNat 4 y.toNat
  year ++ "-" ++ padNat 2 mo ++ "-" ++ padNat 2 d ++ "T" ++ padNat 2 (secs / 3600) ++ ":" ++
    padNat 2 (secs / 60 % 60) ++ ":" ++ padNat 2 (secs % 60) ++ frac ++ zoneText t.offset

/-- The text of an instant in messages, `2006-01-02 15:04:05.999999999 -0700 MST`: the
wall-clock time in its zone with the fraction of a second as needed, the offset, and the name of
the zone, `UTC` for a zero offset and the offset once more for any other, since such a zone has
no name. -/
def Instant.describe (t : Instant) : String :=
  let days := t.wallNs / nanosPerDay - unixEpochDay
  let inDay := (t.wallNs % nanosPerDay).toNat
  let (y, mo, d) := civilFromDays days
  let secs := inDay / 1000000000
  let nanos := inDay % 1000000000
  let (frac, _) := Duration.fraction nanos 9
  let year := if y < 0 then "-" ++ padNat 4 y.natAbs else padNat 4 y.toNat
  let minutes := t.offset.natAbs / 60
  let offset := (if t.offset < 0 then "-" else "+") ++ padNat 2 (minutes / 60) ++
    padNat 2 (minutes % 60)
  year ++ "-" ++ padNat 2 mo ++ "-" ++ padNat 2 d ++ " " ++ padNat 2 (secs / 3600) ++ ":" ++
    padNat 2 (secs / 60 % 60) ++ ":" ++ padNat 2 (secs % 60) ++ frac ++ " " ++ offset ++ " " ++
    (if t.offset = 0 then "UTC" else offset)

/-- Why an instant has no strict RFC 3339 text, if it has none: its year in its own zone is
outside 0 to 9999, or its offset is a day or more. -/
def Instant.strictProblem (t : Instant) : Option String :=
  if t.year < 0 || t.year > 9999 then some "year outside of range [0,9999]"
  else if t.offset.natAbs / 3600 ≥ 24 then some "timezone hour outside of range [0,23]"
  else none

end Auction
