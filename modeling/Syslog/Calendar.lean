import Syslog.Text.Numeral

/-!
# Calendar

The proleptic Gregorian calendar. Days are numbered from the first of January 1970, which is day
zero; years run from -262143 to 262142.
-/
namespace Syslog

structure Date where
  year : Int
  month : Nat
  day : Nat
  deriving DecidableEq, Repr

namespace Date
open Text

def firstYear : Int := -262143

def lastYear : Int := 262142

def isLeap (year : Int) : Bool := year % 4 = 0 && (year % 100 != 0 || year % 400 = 0)

/-- The days of the months of a year, from January to December. -/
def monthLengths (year : Int) : List Nat :=
  [31, if isLeap year then 29 else 28, 31, 30, 31, 30, 31, 31, 30, 31, 30, 31]

/-- The day of a month exists in its year, and the year is one of the calendar. -/
def isValid (date : Date) : Bool :=
  firstYear ≤ date.year && date.year ≤ lastYear && 1 ≤ date.month && 1 ≤ date.day &&
    (monthLengths date.year)[date.month - 1]?.any (date.day ≤ ·)

/-- The number of the first day of a year. -/
def yearStart (year : Int) : Int :=
  365 * (year - 1970) + (year - 1) / 4 - (year - 1) / 100 + (year - 1) / 400 - 477

/-- The days of a year before a month. -/
def daysBefore (year : Int) (month : Nat) : Nat :=
  ((monthLengths year).take (month - 1)).foldl (· + ·) 0

def dayNumber (date : Date) : Int :=
  yearStart date.year + daysBefore date.year date.month + date.day - 1

/-- The year that holds a day. The mean length of a year, of which 400 have 146097 days, misses it
by one at most. -/
def yearOfDay (number : Int) : Int :=
  let year := 1970 + 400 * number / 146097
  if number < yearStart year then year - 1
  else if yearStart (year + 1) ≤ number then year + 1
  else year

/-- The month and the day of the month for a day of the year, counted from zero. -/
def monthAndDay : List Nat → Nat → Nat × Nat
  | [], day => (1, day + 1)
  | length :: lengths, day =>
    if day < length then (1, day + 1)
    else
      let (month, day) := monthAndDay lengths (day - length)
      (month + 1, day)

def ofDayNumber (number : Int) : Date :=
  let year := yearOfDay number
  let (month, day) := monthAndDay (monthLengths year) (number - yearStart year).toNat
  ⟨year, month, day⟩

/-- Years 0 to 9999 in four digits; others have a sign and four digits at least. -/
def yearText (year : Int) : Text :=
  if 0 ≤ year ∧ year ≤ 9999 then padded 4 year.toNat
  else (if year < 0 then '-' else '+') :: padded 4 year.natAbs

/-- Year, month and day joined by hyphens. -/
def text (date : Date) : Text :=
  yearText date.year ++ ['-'] ++ padded 2 date.month ++ ['-'] ++ padded 2 date.day

end Date

/-- A date and a time of day, not tied to a zone. -/
structure LocalTime where
  date : Date
  hour : Nat
  minute : Nat
  second : Nat
  deriving DecidableEq, Repr

namespace LocalTime
open Text

def isValid (t : LocalTime) : Bool :=
  t.date.isValid && t.hour < 24 && t.minute < 60 && t.second < 60

/-- The seconds since the start of day zero. -/
def toSeconds (t : LocalTime) : Int :=
  t.date.dayNumber * 86400 + (t.hour * 3600 + t.minute * 60 + t.second : Nat)

def ofSeconds (seconds : Int) : LocalTime :=
  let rest := (seconds % 86400).toNat
  ⟨.ofDayNumber (seconds / 86400), rest / 3600, rest / 60 % 60, rest % 60⟩

/-- The seconds that fall into a year of the calendar. -/
def inCalendar (seconds : Int) : Bool :=
  Date.yearStart Date.firstYear * 86400 ≤ seconds &&
    seconds < Date.yearStart (Date.lastYear + 1) * 86400

/-- Hour, minute and second joined by colons. -/
def timeText (t : LocalTime) : Text :=
  padded 2 t.hour ++ [':'] ++ padded 2 t.minute ++ [':'] ++ padded 2 t.second

def text (t : LocalTime) : Text := t.date.text ++ ['T'] ++ t.timeText

end LocalTime
end Syslog
