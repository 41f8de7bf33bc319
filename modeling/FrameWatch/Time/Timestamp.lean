import FrameWatch.Time.Duration

/-!
# Points in time

A moment of civil time in UTC and its written form with date, time and as many decimals of the
second as it needs. Dates follow the Gregorian calendar in both directions.
-/

namespace FrameWatch

/-- A moment: whole seconds since 1970-01-01T00:00:00 and nanoseconds beyond them. A nanosecond
count of a second or more lies inside a leap second. -/
structure Timestamp where
  seconds : Int
  nanos : Nat
deriving DecidableEq

/-- A date of the Gregorian calendar. -/
structure CivilDate where
  year : Int
  month : Nat
  day : Nat
deriving DecidableEq, Repr

namespace CivilDate

/-- The date `days` days after 1970-01-01. Counted from March, every year ends with its leap day, so
that month and day follow from the day of the year alone; 400 years have 146097 days. -/
def ofDays (days : Int) : CivilDate :=
  let fromMarch := days + 719468
  let era := fromMarch.fdiv 146097
  let dayOfEra := (fromMarch.fmod 146097).toNat
  let yearOfEra :=
    (dayOfEra - dayOfEra / 1460 + dayOfEra / 36524 - dayOfEra / 146096) / 365
  let dayOfYear := dayOfEra - (365 * yearOfEra + yearOfEra / 4 - yearOfEra / 100)
  let marchMonth := (5 * dayOfYear + 2) / 153
  let day := dayOfYear - (153 * marchMonth + 2) / 5 + 1
  let month := if marchMonth < 10 then marchMonth + 3 else marchMonth - 9
  let year := era * 400 + yearOfEra + (if month ≤ 2 then 1 else 0)
  ⟨year, month, day⟩

end CivilDate

/-- `n` in decimal digits, with zeros in front up to `width` digits. -/
def zeroPadded (width n : Nat) : String :=
  let digits := toString n
  String.ofList (List.replicate (width - digits.length) '0') ++ digits

namespace Timestamp

/-- The year: four digits, and a sign in front where they are not enough. -/
def yearText (year : Int) : String :=
  if 0 ≤ year ∧ year ≤ 9999 then zeroPadded 4 year.toNat
  else (if year < 0 then "-" else "+") ++ zeroPadded 4 year.natAbs

/-- Decimals of a second: three, six or nine, or none at all. -/
def secondDecimals (nanos : Nat) : String :=
  if nanos = 0 then ""
  else if nanos % 1000000 = 0 then "." ++ zeroPadded 3 (nanos / 1000000)
  else if nanos % 1000 = 0 then "." ++ zeroPadded 6 (nanos / 1000)
  else "." ++ zeroPadded 9 nanos

/-- The moment `d` after `t`. -/
def after (t : Timestamp) (d : Duration) : Timestamp :=
  let nanos := t.nanos + d.subsec
  ⟨t.seconds + d.secs + nanos / 1000000000, nanos % 1000000000⟩

/-- Date and time, followed by `zone` as the name of UTC. A leap second is second 60. -/
def write (t : Timestamp) (zone : String) : String :=
  let date := CivilDate.ofDays (t.seconds.fdiv 86400)
  let ofDay := (t.seconds.fmod 86400).toNat
  let leap := t.nanos / 1000000000
  yearText date.year ++ "-" ++ zeroPadded 2 date.month ++ "-" ++ zeroPadded 2 date.day ++ "T"
    ++ zeroPadded 2 (ofDay / 3600) ++ ":" ++ zeroPadded 2 (ofDay % 3600 / 60) ++ ":"
    ++ zeroPadded 2 (ofDay % 60 + leap) ++ secondDecimals (t.nanos % 1000000000) ++ zone

end Timestamp

end FrameWatch
