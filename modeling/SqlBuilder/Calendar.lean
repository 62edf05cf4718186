import SqlBuilder.Text.Digits

/-!
# Calendar dates and instants

Days and instants of the proleptic Gregorian calendar and their ISO 8601 text. Years from 0 to
9999 have four digits, all others a sign. A fraction of a second has three, six or nine digits,
the fewest that are exact, or is left out when it is zero. Dates are representable from year
-262143 to year 262142.
-/

namespace SqlBuilder

open Text

/-- A day, counted from 1970-01-01. -/
structure Day where
  number : Int
  deriving DecidableEq

/-- A year, month and day of the month. -/
structure CivilDate where
  year : Int
  month : Nat
  day : Nat
  deriving DecidableEq

/-- A point in time: seconds since 1970-01-01T00:00:00Z, rounded down, and the nanoseconds after
that second. -/
structure Instant where
  seconds : Int
  nanos : Nat
  deriving DecidableEq

namespace Day

/-- The last representable year and the first one, which is one farther from zero. -/
def maxYear : Int := 262142

/-- The civil date of a day. Years are counted from March so that the leap day comes last, and
days are taken relative to the 400-year cycle of 146097 days. -/
def civil (d : Day) : CivilDate :=
  let shifted := d.number + 719468
  let era := shifted.fdiv 146097
  let dayOfEra := (shifted.fmod 146097).toNat
  let yearOfEra :=
    (dayOfEra - dayOfEra / 1460 + dayOfEra / 36524 - dayOfEra / 146096) / 365
  let dayOfYear := dayOfEra - (365 * yearOfEra + yearOfEra / 4 - yearOfEra / 100)
  let marchMonth := (5 * dayOfYear + 2) / 153
  let day := dayOfYear - (153 * marchMonth + 2) / 5 + 1
  let month := if marchMonth < 10 then marchMonth + 3 else marchMonth - 9
  let year := era * 400 + yearOfEra + (if month ≤ 2 then 1 else 0)
  ⟨year, month, day⟩

/-- Whether the day lies in the representable years. -/
def isRepresentable (d : Day) : Bool :=
  let year := d.civil.year
  decide (-maxYear - 1 ≤ year) && decide (year ≤ maxYear)

end Day

/-- Four digits, or a sign and at least four digits. -/
def yearText (year : Int) : String :=
  if 0 ≤ year ∧ year ≤ 9999 then zeroPadded 4 year.toNat
  else (if year < 0 then "-" else "+") ++ zeroPadded 4 year.natAbs

/-- The text of a day, such as `2000-02-29`. -/
def Day.toText (d : Day) : String :=
  let c := d.civil
  yearText c.year ++ "-" ++ zeroPadded 2 c.month ++ "-" ++ zeroPadded 2 c.day

namespace Instant

/-- The day an instant falls on. -/
def day (t : Instant) : Day := ⟨t.seconds.fdiv 86400⟩

/-- The fraction of a second with its point. -/
def fractionText (nanos : Nat) : String :=
  if nanos = 0 then ""
  else if nanos % 1000000 = 0 then "." ++ zeroPadded 3 (nanos / 1000000)
  else if nanos % 1000 = 0 then "." ++ zeroPadded 6 (nanos / 1000)
  else "." ++ zeroPadded 9 nanos

/-- The text of an instant without a zone, such as `2000-02-29T12:00:00.500`. -/
def toText (t : Instant) : String :=
  let second := (t.seconds.fmod 86400).toNat
  t.day.toText ++ "T" ++ zeroPadded 2 (second / 3600) ++ ":" ++
    zeroPadded 2 (second / 60 % 60) ++ ":" ++ zeroPadded 2 (second % 60) ++ fractionText t.nanos

/-- Seconds from the epoch of instants to 2000-01-01T00:00:00Z. -/
def secondsTo2000 : Int := 946684800

/-- Microseconds since 2000-01-01, what is finer being cut off toward that date. -/
def microsSince2000 (t : Instant) : Int :=
  ((t.seconds - secondsTo2000) * 1000000000 + t.nanos).tdiv 1000

/-- The instant a number of microseconds after 2000-01-01. -/
def ofMicrosSince2000 (micros : Int) : Instant :=
  ⟨secondsTo2000 + micros.fdiv 1000000, (micros.fmod 1000000).toNat * 1000⟩

/-- The instant of seconds and nanoseconds of any size. -/
def ofParts (seconds nanos : Int) : Instant :=
  ⟨seconds + nanos.fdiv 1000000000, (nanos.fmod 1000000000).toNat⟩

end Instant

/-- The day a number of days after 2000-01-01. -/
def Day.ofDaysSince2000 (days : Int) : Day := ⟨10957 + days⟩

end SqlBuilder
