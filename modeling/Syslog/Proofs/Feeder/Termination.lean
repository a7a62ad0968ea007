import Mathlib.Algebra.BigOperators.Group.List.Basic
import Mathlib.Order.WellFounded
import Syslog.Proofs.Feeder.Steps
import Syslog.Proofs.Pool.Conservation

/-!
# Every feeder ends

Each step of a feeder or its pool brings something nearer to its end: an input, a line, a datagram,
a report or a worker. There is only so much of all of them, so that no run goes on for ever.
-/
namespace Syslog

/-- The steps that a worker may still take without another datagram. -/
def Worker.effort : Worker → ℕ
  | .idle => 1
  | .holding _ => 5
  | .finished _ => 4
  | .stopped => 0

namespace Pool

/-- A bound for the steps of a pool to which nothing is submitted any more. -/
def effort (pool : Pool) : ℕ :=
  5 * pool.queue.length + (pool.workers.map Worker.effort).sum + 2 * pool.channel.length +
    pool.submitting.toNat + pool.receiving.toNat

end Pool

namespace Feeder
open Framing

def inputEffort : Option (List UInt8) → ℕ
  | none => 1
  | some content => 6 * content.length + 1

/-- A bound for the steps of a feeder and its pool. -/
def effort (feeder : Feeder) : ℕ :=
  feeder.pool.effort + 6 * feeder.rest.length + (feeder.inputs.map inputEffort).sum

end Feeder
end Syslog
