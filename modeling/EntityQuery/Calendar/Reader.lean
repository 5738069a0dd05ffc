import EntityQuery.Calendar.Instant
import EntityQuery.Number.Numeral
import EntityQuery.Text.Blank

/-!
# Reading dates and instants

A date or a local time may have short numbers, a signed year and blanks around its parts.  A time
with an offset from universal time follows RFC 3339, whose numbers have fixed widths.  Seconds may
be 60, which is the first second of the next minute.
-/

namespace EntityQuery.Calendar

/-- Reads something from the front of a text and leaves the rest. -/
abbrev Reader := StateT (List Char) Option

namespace Reader

def blanks : Reader Unit := modify (·.dropWhile Text.isBlank)

/-- The next character, which is one of those given. -/
def oneOf (chars : List Char) : Reader Char := do
  match ← get with
  | char :: rest =>
      if char ∈ chars then
        set rest
        return char
      else failure
  | [] => failure

/-- A mark that may have blanks before it. -/
def mark (char : Char) : Reader Unit := do
  blanks
  discard (oneOf [char])

/-- Digits from the front, at least `least` and at most `most` of them. -/
def digits (least most : Nat) : Reader (List Char) := do
  let chars ← get
  let run := (chars.take most).takeWhile Char.isDigit
  if run.length < least then failure
  set (chars.drop run.length)
  return run

def fixed (width : Nat) : Reader Nat := Numeral.value <$> digits width width

/-- A number with one or two digits that may have blanks before it. -/
def short : Reader Nat := do
  blanks
  Numeral.value <$> digits 1 2

/-- A year: with a sign it may have any number of digits, without one it has at most four. -/
def year : Reader Int := do
  blanks
  let chars ← get
  match chars with
  | '-' :: rest =>
      set rest
      return -((Numeral.value (← digits 1 rest.length) : Nat) : Int)
  | '+' :: rest =>
      set rest
      return (Numeral.value (← digits 1 rest.length) : Nat)
  | _ => return (Numeral.value (← digits 1 4) : Nat)

/-- A number that is at most `greatest`. -/
def atMost (greatest : Nat) (reader : Reader Nat) : Reader Nat := do
  let number ← reader
  if number ≤ greatest then return number else failure

/-- The nanoseconds of a fraction of a second, if there is one; digits after the ninth count for
nothing. -/
def nanoseconds : Reader Nat := do
  match ← get with
  | '.' :: rest =>
      set rest
      let digits ← digits 1 9
      modify (·.dropWhile Char.isDigit)
      return Numeral.value digits * Nat.pow 10 (9 - digits.length)
  | _ => return 0

def dateOf (year : Int) (month day : Nat) : Reader Date :=
  let date : Date := ⟨year, month, day⟩
  if date.exists? then return date else failure

/-- A date that may have blanks around its parts. -/
def date : Reader Date := do
  let year ← year
  mark '-'
  let month ← short
  mark '-'
  let day ← short
  blanks
  dateOf year month day

def perSecond : Nat := 1000000000

/-- The nanoseconds from the beginning of the day to a time of day. -/
def timeOf (hour minute second nanosecond : Nat) : Nat :=
  ((hour * 60 + minute) * 60 + second) * perSecond + nanosecond

/-- The nanoseconds from the beginning of 2000 to a time on a date. -/
def nanosecondsAt (date : Date) (time : Nat) : Int :=
  date.dayNumber * (86400 * perSecond) + time

/-- A date and a local time, in nanoseconds. -/
def localTime : Reader Int := do
  let date ← date
  mark 'T'
  let hour ← atMost 23 short
  mark ':'
  let minute ← atMost 59 short
  mark ':'
  let second ← atMost 60 short
  let nanosecond ← nanoseconds
  blanks
  return nanosecondsAt date (timeOf hour minute second nanosecond)

/-- An offset from universal time, in minutes. -/
def offset : Reader Int := do
  let sign ← oneOf ['Z', 'z', '+', '-', '\u2212']
  if sign = 'Z' ∨ sign = 'z' then return 0
  let hours ← atMost 23 (fixed 2)
  discard (oneOf [':'])
  let minutes ← atMost 59 (fixed 2)
  let total : Int := hours * 60 + minutes
  return if sign = '+' then total else -total

/-- A date, a time and an offset, in nanoseconds of universal time. -/
def offsetTime : Reader Int := do
  let year ← fixed 4
  discard (oneOf ['-'])
  let month ← fixed 2
  discard (oneOf ['-'])
  let day ← fixed 2
  discard (oneOf ['T', 't', ' '])
  let hour ← atMost 23 (fixed 2)
  discard (oneOf [':'])
  let minute ← atMost 59 (fixed 2)
  discard (oneOf [':'])
  let second ← atMost 60 (fixed 2)
  let nanosecond ← nanoseconds
  let offset ← offset
  let date ← dateOf year month day
  return nanosecondsAt date (timeOf hour minute second nanosecond) - offset * (60 * perSecond)

/-- What a reader finds in a text that it uses up. -/
def all? {α : Type} (reader : Reader α) (text : String) : Option α :=
  match reader.run text.toList with
  | some (found, []) => some found
  | _ => none

end Reader

def Date.read? (text : String) : Option Date := Reader.date.all? text

/-- The instant that a text denotes, without an offset or with one.  Parts of a microsecond are
dropped from the distance to the beginning of 2000. -/
def Instant.read? (text : String) : Option Instant :=
  let nanoseconds := (Reader.localTime.all? text).or (Reader.offsetTime.all? text)
  nanoseconds.map fun total => ⟨total.tdiv 1000⟩

end EntityQuery.Calendar
