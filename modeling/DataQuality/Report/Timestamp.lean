import DataQuality.Number.Literal

/-!
# Points in time

A report says when it was made. A point in time is a count of seconds since the beginning of 1970
and a count of nanoseconds within the second; it is written as date and time in universal time.
The date is found in the calendar that is counted from the first of March, in which the leap day
is the last day of a year and four centuries are one cycle.
-/

namespace DataQuality

/-- A **point in time**. -/
structure Timestamp where
  /-- The seconds since the beginning of 1970. -/
  seconds : Int
  /-- The nanoseconds within the second; a whole further second for a leap second. -/
  nanoseconds : Nat
  deriving DecidableEq, Inhabited

/-- A **date** of the calendar. -/
structure CivilDate where
  /-- The year. -/
  year : Int
  /-- The month, counted from one. -/
  month : Int
  /-- The day of the month, counted from one. -/
  day : Int
  deriving DecidableEq

/-- The date that lies a number of days after the beginning of 1970. -/
def CivilDate.ofDays (days : Int) : CivilDate :=
  let shifted := days + 719468
  let cycle := shifted.fdiv 146097
  let dayOfCycle := shifted - cycle * 146097
  let yearOfCycle :=
    (dayOfCycle - dayOfCycle / 1460 + dayOfCycle / 36524 - dayOfCycle / 146096) / 365
  let dayOfYear := dayOfCycle - (365 * yearOfCycle + yearOfCycle / 4 - yearOfCycle / 100)
  let monthFromMarch := (5 * dayOfYear + 2) / 153
  let month := if monthFromMarch < 10 then monthFromMarch + 3 else monthFromMarch - 9
  { year := yearOfCycle + cycle * 400 + (if month ≤ 2 then 1 else 0)
    month
    day := dayOfYear - (153 * monthFromMarch + 2) / 5 + 1 }

namespace Timestamp

/-- A natural number with at least the given number of digits. -/
def padded (width n : Nat) : String :=
  let ds := (Digit.ofNat n).map Digit.char
  String.ofList (List.replicate (width - ds.length) '0' ++ ds)

/-- A year: four digits, and a sign in front of a year that has no four of them. -/
def yearText (year : Int) : String :=
  if 0 ≤ year ∧ year ≤ 9999 then padded 4 year.toNat
  else if year < 0 then "-" ++ padded 4 year.natAbs
  else "+" ++ padded 4 year.toNat

/-- The fraction of a second, in thousandths, millionths or billionths, whichever is enough. -/
def fractionText (nanoseconds : Nat) : String :=
  if nanoseconds = 0 then ""
  else if nanoseconds % 1000000 = 0 then "." ++ padded 3 (nanoseconds / 1000000)
  else if nanoseconds % 1000 = 0 then "." ++ padded 6 (nanoseconds / 1000)
  else "." ++ padded 9 nanoseconds

/-- The date and the time, with the given mark for universal time. -/
def text (zone : String) (t : Timestamp) : String :=
  let days := t.seconds.fdiv 86400
  let ofDay := (t.seconds - days * 86400).toNat
  let date := CivilDate.ofDays days
  let second := ofDay % 60 + t.nanoseconds / 1000000000
  yearText date.year ++ "-" ++ padded 2 date.month.toNat ++ "-" ++ padded 2 date.day.toNat ++ "T" ++
    padded 2 (ofDay / 3600) ++ ":" ++ padded 2 (ofDay / 60 % 60) ++ ":" ++ padded 2 second ++
    fractionText (t.nanoseconds % 1000000000) ++ zone

/-- The text of a point in time, universal time being written as an offset of zero. -/
def offsetText (t : Timestamp) : String := t.text "+00:00"

/-- The text of a point in time, universal time being written as a letter. -/
def zuluText (t : Timestamp) : String := t.text "Z"

end Timestamp

end DataQuality
