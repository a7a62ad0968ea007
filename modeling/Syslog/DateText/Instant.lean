import Syslog.DateText.Layout
import Syslog.Moment

/-!
# Reading dates

The instant that a text of a date stands for. A date without a year is one of the year of the
reference moment, and one without an offset or zone is told in the offset of the reference moment.
Only ASCII digits are read as numbers.
-/
namespace Syslog.DateLayout
open Text

def monthNames : List Text := [
  "Jan", "Feb", "Mar", "Apr", "May", "Jun", "Jul", "Aug", "Sep", "Oct", "Nov", "Dec"].map ofString

/-- The number of a month written in digits or as the first three letters of its name. -/
def month? (t : Text) : Option Nat :=
  if t.all Char.isDigit then digits? t else (monthNames.idxOf? t).map (· + 1)

/-- The seconds of an offset of less than a day, written as a sign, hours, a colon and minutes. -/
def offset? (t : Text) : Option Int := do
  let hours ← digits? ((t.drop 1).take 2)
  let minutes ← digits? (t.drop 4)
  let seconds := hours * 3600 + minutes * 60
  if 86400 ≤ seconds then none
  else some (if t.head? = some '-' then -(seconds : Int) else seconds)

/-- The local time that a text of a layout gives, with the year for a text that has none. -/
def localTime? (layout : DateLayout) (currentYear : Int) (t : Text) : Option LocalTime := do
  let year ←
    match layout.partOf .year t with
    | [] => some currentYear
    | year => (digits? year).map Int.ofNat
  let month ← month? (layout.partOf .month t)
  let day ← digits? (layout.partOf .day t)
  let hour ← digits? (layout.partOf .hour t)
  let minute ← digits? (layout.partOf .minute t)
  let second ← digits? (layout.partOf .second t)
  let time : LocalTime := ⟨⟨year, month, day⟩, hour, minute, second⟩
  if time.isValid then some time else none

/-- The seconds east of UTC that a text of a layout gives, with those for a text that has none. -/
def offsetOf? (layout : DateLayout) (currentOffset : Int) (t : Text) : Option Int :=
  match layout.partOf .offset t, layout.partOf .zone t with
  | [], [] => some currentOffset
  | [], zone => Zone.offset? zone
  | offset, _ => offset? offset

/-- The seconds since the start of 1970 in UTC of the time that a text stands for. -/
def seconds? (now : Moment) (t : Text) : Option Int := do
  let layout ← ofText? t
  let time ← layout.localTime? now.localTime.date.year t
  let offset ← layout.offsetOf? now.offset t
  let seconds := time.toSeconds - offset
  if LocalTime.inCalendar seconds then some seconds else none

end Syslog.DateLayout
