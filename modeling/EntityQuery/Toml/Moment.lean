import EntityQuery.Calendar.Reader

/-!
# Dates and times in TOML

A moment is a date, a time of day, or both with a `T` or a blank between them; with both there may
be an offset from universal time.  Every number has a fixed width, and the seconds may be left
out.  A moment is written back in one form: with a `T`, with its seconds, and without zeros at the
end of the fraction.
-/

namespace EntityQuery.Toml

open Calendar

/-- A time of day. -/
structure ClockTime where
  hour : Nat
  minute : Nat
  second : Nat
  nanosecond : Nat
  deriving DecidableEq

/-- How far a time is from universal time. -/
inductive Offset
  | universal
  | ahead (minutes : Nat)
  | behind (minutes : Nat)
  deriving DecidableEq

/-- A date, a time of day, or both. -/
inductive Moment
  | date (day : Date)
  | time (clock : ClockTime)
  | dateTime (day : Date) (clock : ClockTime) (offset : Option Offset)
  deriving DecidableEq

/-- The fraction of a second after a point, or nothing. -/
def fractionText (nanosecond : Nat) : List Char :=
  if nanosecond = 0 then []
  else '.' :: ((padded 9 nanosecond).reverse.dropWhile (· == '0')).reverse

/-- Hours, minutes and seconds with colons between them, and the fraction of the second. -/
def ClockTime.text (time : ClockTime) : List Char :=
  padded 2 time.hour ++ ':' :: padded 2 time.minute ++ ':' :: padded 2 time.second ++
    fractionText time.nanosecond

namespace Offset

/-- Hours and minutes with a colon between them. -/
def minutesText (minutes : Nat) : List Char :=
  padded 2 (minutes / 60) ++ ':' :: padded 2 (minutes % 60)

/-- The offset with its sign; no distance at all has a plus. -/
def text : Offset → List Char
  | .universal => ['Z']
  | .ahead minutes => '+' :: minutesText minutes
  | .behind minutes => (if minutes = 0 then '+' else '-') :: minutesText minutes

end Offset

namespace Moment

def text : Moment → List Char
  | .date day => day.text
  | .time clock => clock.text
  | .dateTime day clock offset =>
      day.text ++ 'T' :: clock.text ++ (offset.map Offset.text).getD []

def readDate : Reader Date := do
  let year ← Reader.fixed 4
  discard (Reader.oneOf ['-'])
  let month ← Reader.fixed 2
  discard (Reader.oneOf ['-'])
  Reader.dateOf year month (← Reader.fixed 2)

/-- Seconds with their fraction, if there are any. -/
def readSeconds : Reader (Nat × Nat) := do
  match ← get with
  | ':' :: rest =>
      set rest
      let second ← Reader.atMost 60 (Reader.fixed 2)
      return (second, ← Reader.nanoseconds)
  | _ => return (0, 0)

def readTime : Reader ClockTime := do
  let hour ← Reader.atMost 23 (Reader.fixed 2)
  discard (Reader.oneOf [':'])
  let minute ← Reader.atMost 59 (Reader.fixed 2)
  let (second, nanosecond) ← readSeconds
  return ⟨hour, minute, second, nanosecond⟩

/-- Hours and minutes of an offset, in minutes. -/
def readMinutes : Reader Nat := do
  let hours ← Reader.atMost 23 (Reader.fixed 2)
  discard (Reader.oneOf [':'])
  return hours * 60 + (← Reader.atMost 59 (Reader.fixed 2))

def readOffset : Reader (Option Offset) := do
  if (← get).isEmpty then return none
  match ← Reader.oneOf ['Z', 'z', '+', '-'] with
  | '+' => return some (.ahead (← readMinutes))
  | '-' => return some (.behind (← readMinutes))
  | _ => return some .universal

/-- What follows a date: nothing, or a time and perhaps an offset. -/
def readAfter (day : Date) : Reader Moment := do
  if (← get).isEmpty then return .date day
  discard (Reader.oneOf ['T', 't', ' '])
  let clock ← readTime
  return .dateTime day clock (← readOffset)

def ofChars? (chars : List Char) : Option Moment :=
  let text := String.ofList chars
  ((readDate >>= readAfter).all? text).or ((Moment.time <$> readTime).all? text)

end Moment

end EntityQuery.Toml
