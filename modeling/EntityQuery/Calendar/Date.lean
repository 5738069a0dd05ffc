/-!
# Dates

Days of the Gregorian calendar, extended to all years, and their numbers counted from the first
of January 2000.  A year is taken to begin in March, so that the leap day is its last.
-/

namespace EntityQuery.Calendar

/-- A day by year, month and day of the month; the year before year one is year zero. -/
structure Date where
  year : Int
  month : Nat
  day : Nat
  deriving DecidableEq

/-- Whether a year has a leap day. -/
def isLeapYear (year : Int) : Bool := year % 4 == 0 && (year % 100 != 0 || year % 400 == 0)

/-- The number of days of a month. -/
def monthLength (year : Int) (month : Nat) : Nat :=
  if month = 2 then if isLeapYear year then 29 else 28
  else if month = 4 ∨ month = 6 ∨ month = 9 ∨ month = 11 then 30
  else 31

namespace Date

/-- The first year that dates are given for. -/
def firstYear : Int := -262143

/-- The last year that dates are given for. -/
def lastYear : Int := 262142

def exists? (date : Date) : Bool :=
  firstYear ≤ date.year && date.year ≤ lastYear && 1 ≤ date.month && date.month ≤ 12 &&
    1 ≤ date.day && date.day ≤ monthLength date.year date.month

/-- The days from the first of March of year zero to the first of January 2000. -/
def daysToEpoch : Int := 730425

/-- The days from the first of January 2000 to the date. -/
def dayNumber (date : Date) : Int :=
  let year := if date.month ≤ 2 then date.year - 1 else date.year
  let month := (date.month + 9) % 12
  365 * year + year / 4 - year / 100 + year / 400 + ((153 * month + 2) / 5 + date.day : Nat) - 1 -
    daysToEpoch

/-- The date that lies so many days after the first of January 2000. -/
def ofDayNumber (number : Int) : Date :=
  let days := number + daysToEpoch
  let cycle := days / 146097
  let day := (days % 146097).toNat
  let year := (day - day / 1460 + day / 36524 - day / 146096) / 365
  let dayOfYear := day - (365 * year + year / 4 - year / 100)
  let month := (5 * dayOfYear + 2) / 153
  let calendarYear := 400 * cycle + year
  { year := if month < 10 then calendarYear else calendarYear + 1
    month := if month < 10 then month + 3 else month - 9
    day := dayOfYear - (153 * month + 2) / 5 + 1 }

end Date

/-- A number with at least so many digits. -/
def padded (width number : Nat) : List Char :=
  let digits := Nat.toDigits 10 number
  List.replicate (width - digits.length) '0' ++ digits

/-- A year with at least four digits, and with a sign outside the years from 0 to 9999. -/
def yearText (year : Int) : List Char :=
  if year < 0 then '-' :: padded 4 year.natAbs
  else if 9999 < year then '+' :: padded 4 year.natAbs
  else padded 4 year.natAbs

/-- Year, month and day with dashes between them. -/
def Date.text (date : Date) : List Char :=
  yearText date.year ++ '-' :: padded 2 date.month ++ '-' :: padded 2 date.day

end EntityQuery.Calendar
