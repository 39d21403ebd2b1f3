/-!
# Time

The proleptic Gregorian calendar as a numbering of days. Years are counted from
March, so that the leap day is the last day of a year and every cycle of four
hundred years has the same days.

An instant in UTC, counted in seconds and nanoseconds from 1 January 1970. Its
text is a date and a time of day with the fewest of zero, three, six or nine
fractional digits that lose nothing. The database counts microseconds from
1 January 2000 instead, without what lies below a microsecond.
-/

namespace CriteriaQuery.Time

/-- A day of the calendar. -/
structure Date where
  year : Int
  month : Nat
  day : Nat
deriving DecidableEq, Repr

/-- Days in a cycle of four hundred years. -/
def daysPerCycle : Int := 146097

/-- Days from 1 March of year 0 to 1 January 1970. -/
def epochOffset : Int := 719468

/-- The date of a day counted from 1 January 1970. -/
def dateOfDay (day : Int) : Date :=
  let shifted := day + epochOffset
  let cycle := shifted / daysPerCycle
  let dayOfCycle := (shifted % daysPerCycle).toNat
  let yearOfCycle :=
    (dayOfCycle - dayOfCycle / 1460 + dayOfCycle / 36524 - dayOfCycle / 146096) / 365
  let dayOfYear := dayOfCycle - (365 * yearOfCycle + yearOfCycle / 4 - yearOfCycle / 100)
  let monthFromMarch := (5 * dayOfYear + 2) / 153
  let month := if monthFromMarch < 10 then monthFromMarch + 3 else monthFromMarch - 9
  { year := Int.ofNat yearOfCycle + cycle * 400 + (if month ≤ 2 then 1 else 0)
    month
    day := dayOfYear - (153 * monthFromMarch + 2) / 5 + 1 }

end CriteriaQuery.Time

namespace CriteriaQuery

/-- An instant in UTC: whole seconds since 1970 rounded down, and the rest. -/
structure Timestamp where
  seconds : Int
  nanoseconds : Fin 1000000000
deriving DecidableEq, Repr, Inhabited

namespace Timestamp

/-- A number in decimal with at least `width` digits. -/
def padded (width number : Nat) : String :=
  let digits := Nat.toDigits 10 number
  String.ofList (List.replicate (width - digits.length) '0' ++ digits)

/-- A year with at least four digits; years outside of 0 to 9999 have a sign. -/
def yearText (year : Int) : String :=
  if 0 ≤ year ∧ year ≤ 9999 then padded 4 year.toNat
  else (if year < 0 then "-" else "+") ++ padded 4 year.natAbs

/-- The fraction of a second with its point, as short as three, six or nine digits allow. -/
def fractionText (nanoseconds : Nat) : String :=
  if nanoseconds = 0 then ""
  else if nanoseconds % 1000000 = 0 then "." ++ padded 3 (nanoseconds / 1000000)
  else if nanoseconds % 1000 = 0 then "." ++ padded 6 (nanoseconds / 1000)
  else "." ++ padded 9 nanoseconds

/-- Date and time of day in UTC. -/
def text (instant : Timestamp) : String :=
  let date := Time.dateOfDay (instant.seconds / 86400)
  let second := (instant.seconds % 86400).toNat
  yearText date.year ++ "-" ++ padded 2 date.month ++ "-" ++ padded 2 date.day ++ "T" ++
    padded 2 (second / 3600) ++ ":" ++ padded 2 (second / 60 % 60) ++ ":" ++
    padded 2 (second % 60) ++ fractionText instant.nanoseconds.val ++ "Z"

/-- Seconds from 1970 to 2000. -/
def databaseEpoch : Int := 946684800

/-- Microseconds since 2000, cut toward zero. -/
def microseconds (instant : Timestamp) : Int :=
  let nanoseconds :=
    (instant.seconds - databaseEpoch) * 1000000000 + Int.ofNat instant.nanoseconds.val
  nanoseconds.tdiv 1000

end Timestamp

end CriteriaQuery
