/-!
# Times as text

A moment, given in nanoseconds since the start of 1970, as date and time of day in universal time.
Days are counted from the first of March of the year 0, so that a leap day is the last of its year.
-/

namespace DeclaredDebt.Text

/-- A date of the calendar. -/
structure CalendarDate where
  year : Nat
  month : Nat
  day : Nat
  deriving DecidableEq

/-- The date of a day, counted from the first of January 1970. -/
def CalendarDate.ofDays (days : Nat) : CalendarDate :=
  let z := days + 719468
  let dayOfEra := z % 146097
  let yearOfEra := (dayOfEra - dayOfEra / 1460 + dayOfEra / 36524 - dayOfEra / 146096) / 365
  let dayOfYear := dayOfEra - (365 * yearOfEra + yearOfEra / 4 - yearOfEra / 100)
  let fromMarch := (5 * dayOfYear + 2) / 153
  let month := if fromMarch < 10 then fromMarch + 3 else fromMarch - 9
  let year := yearOfEra + z / 146097 * 400
  { year := if month ≤ 2 then year + 1 else year
    month
    day := dayOfYear - (153 * fromMarch + 2) / 5 + 1 }

/-- A number filled up with zeros. -/
def zeroPadded (width n : Nat) : String :=
  let digits := Nat.toDigits 10 n
  String.ofList (List.replicate (width - digits.length) '0' ++ digits)

/-- A fraction of a second, in as many groups of three digits as it needs. -/
def fractionText (nanoseconds : Nat) : String :=
  if nanoseconds = 0 then ""
  else if nanoseconds % 1000000 = 0 then "." ++ zeroPadded 3 (nanoseconds / 1000000)
  else if nanoseconds % 1000 = 0 then "." ++ zeroPadded 6 (nanoseconds / 1000)
  else "." ++ zeroPadded 9 nanoseconds

/-- A moment in universal time. -/
def timestamp (nanoseconds : Nat) : String :=
  let seconds := nanoseconds / 1000000000
  let date := CalendarDate.ofDays (seconds / 86400)
  let ofDay := seconds % 86400
  zeroPadded 4 date.year ++ "-" ++ zeroPadded 2 date.month ++ "-" ++ zeroPadded 2 date.day ++ "T" ++
    zeroPadded 2 (ofDay / 3600) ++ ":" ++ zeroPadded 2 (ofDay / 60 % 60) ++ ":" ++
    zeroPadded 2 (ofDay % 60) ++ fractionText (nanoseconds % 1000000000) ++ "+00:00"

end DeclaredDebt.Text
