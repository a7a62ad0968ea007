import Mathlib.Data.Nat.Notation
import Syslog.Program
import Syslog.Proofs.Feeder.Delivery

/-!
# The program in a recorded world

In a world whose files and times are given, the program writes one report for each datagram of its
inputs, in order, and reads each datagram at a time of its own.
-/
namespace Syslog
open Framing

/-- The reports of datagrams read one after another, the first of them at the time with a number. -/
def Collector.reportsFrom (collector : Collector) (times : ℕ → Instant) :
    ℕ → List (List UInt8) → List Report
  | _, [] => []
  | n, raw :: raws => collector.report (times n) raw :: collector.reportsFrom times (n + 1) raws

namespace Program

def inputs (files : Text → File) (input : List UInt8) (arguments : List Text) :
    List (Option (List UInt8)) :=
  if arguments = [] then [some input] else arguments.map fun path => (files path).content?

variable {environment : Environment} {files : Text → File} {input : List UInt8}
  {times : ℕ → Instant} {collector : Collector} {pool : Pool}

def after (collector : Collector) (times : ℕ → Instant) (raws : List (List UInt8))
    (record : ℕ × Text) : ℕ × Text :=
  (record.1 + raws.length,
    record.2 ++ Report.lines (collector.reportsFrom times record.1 raws))

end Program
end Syslog
