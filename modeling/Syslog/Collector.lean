import Syslog.Clock
import Syslog.Matching
import Syslog.Record
import Syslog.SourceMarker

/-!
# Collectors

A collector makes a record of every datagram, or discards it with a reason, and counts what it does.
-/
namespace Syslog

structure Collector where
  catalog : Catalog
  window : Window
  clock : Clock
  tally : Tally
  deriving DecidableEq, Repr

/-- Counts an outcome. Time is not measured here, so a record takes none. -/
def Tally.countResult (tally : Tally) : Except Discard Record → Tally
  | .ok record => tally.countRecord record.grammarIndex record.clamped 0
  | .error discard => tally.countDiscard discard.reason

namespace Collector
open Text

def new (catalog : Catalog) (window : Window) (clock : Clock) : Collector :=
  ⟨catalog, window, clock, .empty catalog.size⟩

def isLineEnd (c : Char) : Bool := c == '\r' || c == '\n'

/-- The message in a datagram without source markers and line end, and the sender's address. -/
def message (raw : List UInt8) : Text × Option Text :=
  let (text, address) := SourceMarker.remove (Utf8.decodeLossy raw)
  (trimEnd isLineEnd text, address)

/-- The record of a datagram at a moment. Of the counters only those of grammars move. -/
def readAt (collector : Collector) (now : Moment) (raw : List UInt8) :
    Except Discard Record × Tally :=
  if maxDatagram < raw.length then (.error (.tooLarge raw.length), collector.tally)
  else
    let (text, address) := message raw
    let (reading, tally) := collector.catalog.read now text collector.tally
    (reading.bind fun reading => Record.ofReading reading now collector.window address, tally)

/-- Reads a datagram by the collector's clock without counting the outcome. -/
def examine (collector : Collector) (system : Instant) (raw : List UInt8) :
    Except Discard Record × Collector :=
  let (result, tally) := collector.readAt (collector.clock.read system) raw
  (result, { collector with tally := tally })

/-- Reads a datagram by the collector's clock and counts the outcome. -/
def collect (collector : Collector) (system : Instant) (raw : List UInt8) :
    Except Discard Record × Collector :=
  let (result, collector) := collector.examine system raw
  (result, { collector with tally := collector.tally.countResult result })

def setClock (collector : Collector) (instant : Instant) : Collector :=
  { collector with clock := collector.clock.set instant }

end Collector
end Syslog
