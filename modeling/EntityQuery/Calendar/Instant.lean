import EntityQuery.Calendar.Date

/-!
# Instants

Points in time by the number of microseconds since the beginning of 2000, as a date and a time of
day.
-/

namespace EntityQuery.Calendar

/-- A point in time: the microseconds since the beginning of 2000, in universal time or in the
local time of whoever reads it. -/
structure Instant where
  microseconds : Int
  deriving DecidableEq

namespace Instant

def perSecond : Nat := 1000000

def perDay : Nat := 86400 * perSecond

def date (instant : Instant) : Date := .ofDayNumber (instant.microseconds / perDay)

/-- The microseconds since the beginning of the day. -/
def timeOfDay (instant : Instant) : Nat := (instant.microseconds % perDay).toNat

/-- A fraction of a second after a point, with three or six digits, or nothing. -/
def fractionText (microseconds : Nat) : List Char :=
  if microseconds = 0 then []
  else if microseconds % 1000 = 0 then '.' :: padded 3 (microseconds / 1000)
  else '.' :: padded 6 microseconds

/-- Hours, minutes and seconds with colons between them, and the fraction of the second. -/
def timeText (microseconds : Nat) : List Char :=
  let seconds := microseconds / perSecond
  padded 2 (seconds / 3600) ++ ':' :: padded 2 (seconds / 60 % 60) ++
    ':' :: padded 2 (seconds % 60) ++ fractionText (microseconds % perSecond)

/-- The date and the time of day. -/
def text (instant : Instant) : List Char :=
  instant.date.text ++ 'T' :: timeText instant.timeOfDay

end Instant

end EntityQuery.Calendar
