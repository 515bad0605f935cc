import JavaConstants.Decimal.Basic

/-!
# Dates and times

A moment on the calendar, and the two ways in which it is written: in the comment at the top of a
generated file and in the lines of a log.
-/

namespace JavaConstants

/-- A moment. -/
structure DateTime where
  /-- The year; the year before 1 is 0. -/
  year : Int
  /-- The month, from 1. -/
  month : Nat
  /-- The day of the month, from 1. -/
  day : Nat
  /-- The hour. -/
  hour : Nat
  /-- The minute. -/
  minute : Nat
  /-- The second. -/
  second : Nat
  /-- The nanosecond. -/
  nanosecond : Nat := 0
  deriving DecidableEq, Repr

namespace DateTime

/-- Whether a year has a leap day. -/
def isLeapYear (year : Int) : Bool :=
  year % 4 == 0 && (year % 100 != 0 || year % 400 == 0)

/-- The number of days of a month. -/
def daysInMonth (year : Int) (month : Nat) : Nat :=
  if month = 2 then (if isLeapYear year then 29 else 28)
  else if month = 4 ∨ month = 6 ∨ month = 9 ∨ month = 11 then 30
  else 31

/-- Whether a moment is on the calendar, which covers the years from -262143 to 262142. -/
def isValid (t : DateTime) : Bool :=
  -262143 ≤ t.year && t.year ≤ 262142 && 1 ≤ t.month && t.month ≤ 12 && 1 ≤ t.day &&
    t.day ≤ daysInMonth t.year t.month && t.hour < 24 && t.minute < 60 && t.second < 60

/-- A number with zeros in front, `width` digits long at least. -/
def padded (width n : Nat) : String :=
  let ds := digitChars n
  String.ofList (List.replicate (width - ds.length) '0' ++ ds)

/-- A year with four digits at least; years before 0 and after 9999 have a sign. -/
def yearText (year : Int) : String :=
  (if year < 0 then "-" else if 9999 < year then "+" else "") ++ padded 4 year.natAbs

/-- The hour on a clock of twelve hours. -/
def clockHour (t : DateTime) : Nat := if t.hour % 12 = 0 then 12 else t.hour % 12

/-- The comment at the top of a file generated at a moment. -/
def comment (t : DateTime) : String :=
  "Generated at " ++ padded 2 t.month ++ "-" ++ padded 2 t.day ++ "-" ++ yearText t.year ++
    " at " ++ String.ofList (digitChars t.clockHour) ++ "." ++ padded 2 t.minute ++ "." ++
    padded 2 t.second ++ (if t.hour < 12 then " AM" else " PM")

/-- The fraction of a second with as many groups of three digits as it needs. -/
def fractionText (nanosecond : Nat) : String :=
  if nanosecond = 0 then ""
  else if nanosecond % 1000000 = 0 then "." ++ padded 3 (nanosecond / 1000000)
  else if nanosecond % 1000 = 0 then "." ++ padded 6 (nanosecond / 1000)
  else "." ++ padded 9 nanosecond

/-- A moment as a log line writes it. -/
def logText (t : DateTime) : String :=
  yearText t.year ++ "-" ++ padded 2 t.month ++ "-" ++ padded 2 t.day ++ "T" ++
    padded 2 t.hour ++ ":" ++ padded 2 t.minute ++ ":" ++ padded 2 t.second ++
    fractionText t.nanosecond ++ "+00:00"

end DateTime

/-- What a run needs to know about time. -/
structure Clock where
  /-- The moment of the run, in universal time. -/
  now : DateTime
  /-- The same moment in local time. -/
  here : DateTime := now
  /-- The time the run takes, in milliseconds. -/
  elapsed : Nat := 0

end JavaConstants
