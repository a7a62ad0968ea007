import Syslog.Moment

/-!
# Clocks and windows

The reference clock stands at an instant that was set or follows the time of the system, which the
caller supplies. It shows local time in a fixed offset. A window says how far the time in a message
may stray from the reference time, in whole minutes.
-/
namespace Syslog

structure Clock where
  /-- The instant at which the clock stands, or none while it follows the system. -/
  pinned : Option Instant
  /-- Seconds east of UTC. -/
  offset : Int
  deriving DecidableEq, Repr

namespace Clock

/-- A clock in UTC that follows the system. -/
def standard : Clock := ⟨none, 0⟩

def following (offset : Int) : Clock := ⟨none, offset⟩

def fixed (moment : Moment) : Clock := ⟨some moment.instant, moment.offset⟩

def set (clock : Clock) (instant : Instant) : Clock := { clock with pinned := some instant }

def follow (clock : Clock) : Clock := { clock with pinned := none }

/-- What the clock shows at a time of the system. -/
def read (clock : Clock) (system : Instant) : Moment := ⟨clock.pinned.getD system, clock.offset⟩

end Clock

/-- What a window makes of a message. -/
inductive Timeliness where
  | timely
  | ahead
  | stale
  deriving DecidableEq, Repr

/-- The minutes tolerated ahead of the reference time and behind it. -/
structure Window where
  ahead : Nat
  behind : Nat
  deriving DecidableEq, Repr

namespace Window

/-- Five minutes ahead and thirty days behind. -/
def standard : Window := ⟨5, 43200⟩

/-- Judges a message by the minutes that its time lies behind the reference time. The greatest
number of minutes behind is still timely, that of minutes ahead no longer. -/
def judge (window : Window) (minutes : Int) : Timeliness :=
  if (window.behind : Int) < minutes then .stale
  else if -(window.ahead : Int) < minutes then .timely
  else .ahead

end Window
end Syslog
