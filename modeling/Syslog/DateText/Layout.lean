import Syslog.Text.WordCharacter

/-!
# Layouts of dates

A date is accepted in one of eight layouts. A layout has a fixed number of places; each admits one
kind of character and may belong to a part of the date. No text has two layouts.
-/
namespace Syslog

inductive DatePart where
  | year | month | day | hour | minute | second | offset | zone
  deriving DecidableEq, Repr

/-- The kind of character at one place of a layout. -/
inductive PlaceKind where
  | mark (c : Char)
  | digit
  | capital
  | small
  | sign
  deriving DecidableEq, Repr

def PlaceKind.admits : PlaceKind → Char → Bool
  | mark c, d => c == d
  | digit, d => Text.isDecimalDigit d
  | capital, d => d.isUpper
  | small, d => d.isLower
  | sign, d => d == '+' || d == '-'

structure Place where
  kind : PlaceKind
  part : Option DatePart
  deriving DecidableEq, Repr

inductive DateLayout where
  | monthDayTime
  | monthDayTimeZone
  | monthDayYearTime
  | monthDayYearTimeZone
  | numeric
  | numericOffset
  | numericZone
  | isoOffset
  deriving DecidableEq, Repr

namespace DateLayout

def all : List DateLayout := [
  monthDayTime, monthDayTimeZone, monthDayYearTime, monthDayYearTimeZone, numeric, numericOffset,
  numericZone, isoOffset]

def name : DateLayout → String
  | monthDayTime => "MonthDayTime"
  | monthDayTimeZone => "MonthDayTimeZone"
  | monthDayYearTime => "MonthDayYearTime"
  | monthDayYearTimeZone => "MonthDayYearTimeZone"
  | numeric => "Numeric"
  | numericOffset => "NumericOffset"
  | numericZone => "NumericZone"
  | isoOffset => "IsoOffset"

def mark (c : Char) : List Place := [⟨.mark c, none⟩]

def digits (n : Nat) (part : DatePart) : List Place := List.replicate n ⟨.digit, part⟩

def monthName : List Place :=
  [⟨.capital, some .month⟩, ⟨.small, some .month⟩, ⟨.small, some .month⟩]

def time : List Place :=
  digits 2 .hour ++ mark ':' ++ digits 2 .minute ++ mark ':' ++ digits 2 .second

def zone : List Place := mark ' ' ++ List.replicate 3 ⟨.capital, some .zone⟩

def offset : List Place :=
  [⟨.sign, some .offset⟩] ++ digits 2 .offset ++ [⟨.mark ':', some .offset⟩] ++ digits 2 .offset

def monthDay : List Place := monthName ++ mark ' ' ++ digits 2 .day ++ mark ' '

def numericDate : List Place :=
  digits 2 .month ++ mark '-' ++ digits 2 .day ++ mark '-' ++ digits 4 .year ++ mark ' '

/-- The places of a layout, from the first character to the last. -/
def places : DateLayout → List Place
  | monthDayTime => monthDay ++ time
  | monthDayTimeZone => monthDay ++ time ++ zone
  | monthDayYearTime => monthDay ++ digits 4 .year ++ mark ' ' ++ time
  | monthDayYearTimeZone => monthDay ++ digits 4 .year ++ mark ' ' ++ time ++ zone
  | numeric => numericDate ++ time
  | numericOffset => numericDate ++ time ++ offset
  | numericZone => numericDate ++ time ++ zone
  | isoOffset =>
    digits 4 .year ++ mark '-' ++ digits 2 .month ++ mark '-' ++ digits 2 .day ++ mark 'T' ++
      time ++ offset

/-- The text has one character for each place, of the kind that the place admits. -/
def fits (layout : DateLayout) (t : Text) : Bool :=
  layout.places.length == t.length &&
    (layout.places.zip t).all fun (place, c) => place.kind.admits c

/-- The first layout that a text has. -/
def ofText? (t : Text) : Option DateLayout := all.find? (·.fits t)

/-- The characters of a text that belong to a part of its date. -/
def partOf (layout : DateLayout) (part : DatePart) (t : Text) : Text :=
  ((layout.places.zip t).filter fun (place, _) => place.part == some part).map Prod.snd

end DateLayout
end Syslog
