import Syslog.Catalog.Bundled
import Syslog.Collector
import Syslog.Settings

/-!
# Setup

The collector that settings ask for. Settings that name a file of grammars need one that can be
read; those that name none get the bundled grammars.
-/
namespace Syslog
open Text

/-- The grammars that settings ask for, given the content of the file that they name. -/
def Catalog.ofSettings (settings : Settings) (patterns : Option (List UInt8)) :
    Except SetupFault Catalog :=
  match settings.patternsPath with
  | some _ => ofFile patterns
  | none => .ok bundled

/-- The window that settings ask for, given the content of the file that they name. -/
def Window.ofSettings (settings : Settings) (thresholds : Option (List UInt8)) : Window :=
  match settings.thresholdsPath with
  | some _ => ofFile thresholds
  | none => standard

namespace Collector

/-- A day has this many seconds; no clock is so far from UTC. -/
def daySeconds : Nat := 86400

/-- The collector for settings, given the contents of the files that the settings name. -/
def ofSettings (settings : Settings) (patterns thresholds : Option (List UInt8)) :
    Except SetupFault Collector := do
  if let some fault := settings.fault? then throw fault
  let catalog ← Catalog.ofSettings settings patterns
  let window := Window.ofSettings settings thresholds
  let some seconds := Checked.mul? settings.clockOffsetMinutes 60 | throw .overflow
  if daySeconds ≤ seconds.toInt.natAbs then
    throw (.invalid (ofString "clock offset out of range: " ++
      ofInt settings.clockOffsetMinutes.toInt))
  return new catalog window (.following seconds.toInt)

end Collector
end Syslog
