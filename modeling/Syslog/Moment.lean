import Syslog.Calendar

/-!
# Moments and zones

An instant is a count of milliseconds since the start of 1970 in UTC; a moment is an instant
together with the offset from UTC in which its local time is read. Devices write some offsets as
abbreviations of time zones in capitals; one with several meanings has the one most common in North
American and European equipment.
-/
namespace Syslog

/-- Milliseconds since the start of 1970 in UTC. -/
abbrev Instant := Int

namespace Instant
open Text

/-- The whole seconds, rounded down. -/
def seconds (instant : Instant) : Int := instant / 1000

/-- The time in UTC in whole seconds, rounded down. -/
def wholeText (instant : Instant) : Text := (LocalTime.ofSeconds instant.seconds).text ++ ['Z']

/-- The time in UTC, with three places if the instant is no whole second. -/
def text (instant : Instant) : Text :=
  let millis := (instant % 1000).toNat
  (LocalTime.ofSeconds instant.seconds).text ++
    (if millis = 0 then [] else '.' :: padded 3 millis) ++ ['Z']

end Instant

structure Moment where
  instant : Instant
  /-- Seconds east of UTC. -/
  offset : Int
  deriving DecidableEq, Repr

namespace Moment
open Text

def localTime (moment : Moment) : LocalTime :=
  .ofSeconds (moment.instant.seconds + moment.offset)

/-- An offset as hours and minutes, rounded to the nearest minute, a half away from zero. -/
def offsetText (offset : Int) : Text :=
  let minutes := (offset.natAbs + 30) / 60
  (if offset < 0 then '-' else '+') :: padded 2 (minutes / 60) ++ [':'] ++ padded 2 (minutes % 60)

/-- The local time in whole seconds with its offset. -/
def text (moment : Moment) : Text := moment.localTime.text ++ offsetText moment.offset

end Moment

namespace Zone

/-- The abbreviations and their minutes east of UTC. -/
def table : List (String × Int) := [
  ("UTC", 0), ("GMT", 0), ("UT", 0), ("WET", 0), ("WEST", 60), ("BST", 60), ("CET", 60),
  ("MET", 60), ("CEST", 120), ("MEST", 120), ("EET", 120), ("EEST", 180), ("MSK", 180),
  ("IST", 330), ("SGT", 480), ("HKT", 480), ("AWST", 480), ("JST", 540), ("KST", 540),
  ("ACST", 570), ("AEST", 600), ("AEDT", 660), ("NZST", 720), ("NZDT", 780), ("HST", -600),
  ("AKST", -540), ("AKDT", -480), ("PST", -480), ("PDT", -420), ("MST", -420), ("MDT", -360),
  ("CST", -360), ("CDT", -300), ("EST", -300), ("EDT", -240), ("AST", -240), ("ADT", -180),
  ("NST", -210), ("NDT", -150)]

/-- Seconds east of UTC. -/
def offset? (abbreviation : Text) : Option Int :=
  (table.lookup (String.ofList abbreviation)).map (· * 60)

def isAbbreviation (t : Text) : Bool := (offset? t).isSome

end Zone
end Syslog
