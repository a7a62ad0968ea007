import Mathlib.Algebra.BigOperators.Group.Multiset.Defs
import Mathlib.Algebra.Order.Group.Multiset
import Mathlib.Data.Multiset.Count
import Mathlib.Tactic.Abel
import Syslog.Proofs.Collector.Order
import Syslog.Proofs.Pool.Steps

/-!
# Conservation in a pool

Whatever the order of steps, the reports received and those that wait, with the reports of datagrams
that wait or are held, are those of the datagrams submitted. Without a receiver some get lost.
-/
namespace Syslog
namespace Worker

/-- The datagram that a worker has still to read. -/
def unread : Worker → Multiset (List UInt8)
  | .holding raw => {raw}
  | _ => 0

def reports (report : List UInt8 → Report) : Worker → Multiset Report
  | .holding raw => {report raw}
  | .finished found => {found}
  | _ => 0

end Worker

namespace Pool

lemma sum_set {M : Type} [AddCommMonoid M] (f : Worker → M) {workers : List Worker} {i : ℕ}
    {old : Worker} (h : workers[i]? = some old) (new : Worker) :
    ((workers.set i new).map f).sum + f old = (workers.map f).sum + f new := by
  induction workers generalizing i with
  | nil => cases h
  | cons worker workers ih =>
    cases i with
    | zero =>
      obtain rfl := Option.some.inj h
      simp only [List.set_cons_zero, List.map_cons, List.sum_cons]
      rw [add_right_comm, add_comm (f new), add_right_comm]
    | succ i =>
      simp only [List.set_cons_succ, List.map_cons, List.sum_cons, add_assoc]
      rw [ih h]

/-- The datagrams that wait for a worker or are held by one that has still to read them. -/
def unread (pool : Pool) : Multiset (List UInt8) :=
  (pool.workers.map Worker.unread).sum + pool.queue

/-- The reports received and those to come if no datagram is submitted any more. -/
def accounted (pool : Pool) (report : List UInt8 → Report) : Multiset Report :=
  pool.received + pool.channel + (pool.workers.map (Worker.reports report)).sum +
    (pool.queue.map report : Multiset Report)

def expected (pool : Pool) (report : List UInt8 → Report) : Multiset Report :=
  pool.submitted.map report

variable {pool next : Pool} {action : PoolAction} {report : List UInt8 → Report}

lemma Moves.exists_lost (h : pool.Moves action next)
    (hreport : ∀ system raw, pool.collector.report system raw = report raw) :
    ∃ lost, (next.receiving = true → lost = 0) ∧
      next.accounted report + lost + pool.expected report =
        pool.accounted report + next.expected report := by
  cases h with
  | submit hopen hroom =>
    refine ⟨0, fun _ => rfl, ?_⟩
    simp only [accounted, expected, List.map_append, List.map_cons, List.map_nil,
      ← Multiset.coe_add, ← Multiset.cons_coe, ← Multiset.singleton_add]
    abel
  | close hsubmitting => exact ⟨0, fun _ => rfl, congrArg (· + _) (add_zero _)⟩
  | @take worker raw queue hworker hqueue =>
    have hsum := sum_set (Worker.reports report) hworker (.holding raw)
    simp only [Worker.reports, add_zero] at hsum
    refine ⟨0, fun _ => rfl, ?_⟩
    simp only [accounted, expected, setWorker, hqueue, hsum, List.map_cons,
      ← Multiset.cons_coe, ← Multiset.singleton_add]
    abel
  | @read worker raw system hworker =>
    have hsum := sum_set (Worker.reports report) hworker
      (.finished (.ofResult (pool.collector.collect system raw).1))
    have hraw : Report.ofResult (pool.collector.collect system raw).1 = report raw :=
      hreport system raw
    simp only [Worker.reports, hraw, add_left_inj] at hsum
    refine ⟨0, fun _ => rfl, ?_⟩
    simp only [accounted, expected, setWorker, hraw, hsum, add_zero]
  | @send worker found hworker hreceiving hroom =>
    have hsum := sum_set (Worker.reports report) hworker .idle
    simp only [Worker.reports, add_zero] at hsum
    refine ⟨0, fun _ => rfl, ?_⟩
    simp only [accounted, expected, setWorker, ← hsum, ← Multiset.coe_add, Multiset.coe_singleton]
    abel
  | @stop worker hworker hqueue hsubmitting =>
    have hsum := sum_set (Worker.reports report) hworker .stopped
    simp only [Worker.reports, add_zero] at hsum
    refine ⟨0, fun _ => rfl, ?_⟩
    simp only [accounted, expected, setWorker, hsum, add_zero]
  -- the report of a worker that gives up is lost
  | @giveUp worker found hworker hreceiving =>
    have hsum := sum_set (Worker.reports report) hworker .stopped
    simp only [Worker.reports, add_zero] at hsum
    refine ⟨{found}, fun h => ?_, ?_⟩
    · cases hreceiving.symm.trans h
    · simp only [accounted, expected, setWorker, ← hsum]
      abel
  | receive hreceiving hchannel =>
    refine ⟨0, fun _ => rfl, ?_⟩
    simp only [accounted, expected, hchannel,
      ← Multiset.cons_coe, ← Multiset.singleton_add]
    abel
  | hangUp hreceiving =>
    refine ⟨pool.channel, fun h => ?_, ?_⟩
    · cases h
    · simp only [accounted, expected, Multiset.coe_nil, add_zero]
      abel

lemma Moves.exists_read (h : pool.Moves action next)
    (hpinned : pool.collector.clock.pinned.isSome = true) (system : Instant) :
    ∃ read : List (List UInt8), next.collector = pool.collector.collectAll system read ∧
      read + next.unread + (pool.submitted : Multiset (List UInt8)) =
        pool.unread + next.submitted := by
  cases h with
  | submit hopen hroom =>
    refine ⟨[], rfl, ?_⟩
    simp only [unread, ← Multiset.coe_add, ← Multiset.cons_coe, ← Multiset.singleton_add,
      Multiset.coe_nil]
    abel
  | close hsubmitting => exact ⟨[], rfl, congrArg (· + _) (zero_add _)⟩
  | @take worker raw queue hworker hqueue =>
    have hsum := sum_set Worker.unread hworker (.holding raw)
    simp only [Worker.unread, add_zero] at hsum
    refine ⟨[], rfl, ?_⟩
    simp only [unread, setWorker, hqueue, hsum, ← Multiset.cons_coe, ← Multiset.singleton_add,
      Multiset.coe_nil]
    abel
  | @read worker raw time hworker =>
    have hsum := sum_set Worker.unread hworker
      (.finished (.ofResult (pool.collector.collect time raw).1))
    simp only [Worker.unread, add_zero] at hsum
    refine ⟨[raw], ?_, ?_⟩
    · exact congrArg Prod.snd (Collector.collect_of_pinned hpinned time system raw)
    · simp only [unread, setWorker, ← hsum, Multiset.coe_singleton]
      abel
  | @send worker found hworker hreceiving hroom =>
    have hsum := sum_set Worker.unread hworker .idle
    simp only [Worker.unread, add_zero] at hsum
    refine ⟨[], rfl, ?_⟩
    simp only [unread, setWorker, hsum, Multiset.coe_nil, zero_add]
  | @stop worker hworker hqueue hsubmitting =>
    have hsum := sum_set Worker.unread hworker .stopped
    simp only [Worker.unread, add_zero] at hsum
    refine ⟨[], rfl, ?_⟩
    simp only [unread, setWorker, hsum, Multiset.coe_nil, zero_add]
  | @giveUp worker found hworker hreceiving =>
    have hsum := sum_set Worker.unread hworker .stopped
    simp only [Worker.unread, add_zero] at hsum
    refine ⟨[], rfl, ?_⟩
    simp only [unread, setWorker, hsum, Multiset.coe_nil, zero_add]
  | receive hreceiving hchannel => exact ⟨[], rfl, congrArg (· + _) (zero_add _)⟩
  | hangUp hreceiving => exact ⟨[], rfl, congrArg (· + _) (zero_add _)⟩

lemma Moves.receiving (h : pool.Moves action next) (hnext : next.receiving = true) :
    pool.receiving = true := by
  cases h with
  | hangUp => cases hnext
  | _ => exact hnext

/-- A pool accounts for its datagrams by the clock of a collector that stands still. -/
structure Conserved (collector : Collector) (system : Instant) (pool : Pool) : Prop where
  /-- Those read are what the collector has counted, and the others are still in the pool. -/
  read : ∃ read : List (List UInt8), pool.collector = collector.collectAll system read ∧
    read + pool.unread = pool.submitted
  accounted_le : pool.accounted (collector.report system) ≤ pool.expected (collector.report system)
  accounted_eq : pool.receiving = true →
    pool.accounted (collector.report system) = pool.expected (collector.report system)

lemma Conserved.step {collector : Collector} {system : Instant}
    (h : pool.Conserved collector system) (hpinned : collector.clock.pinned.isSome = true)
    (hmoves : pool.Moves action next) : next.Conserved collector system := by
  obtain ⟨read, hcollector, hread⟩ := h.read
  -- the collector in the pool differs from the given one only in what it has counted
  obtain ⟨tally, htally⟩ := collector.exists_collectAll system read
  have hstill : pool.collector.clock.pinned.isSome = true := by rwa [hcollector, htally]
  have hreport : ∀ time raw, pool.collector.report time raw = collector.report system raw := by
    intro time raw
    rw [Collector.report, Collector.collect_of_pinned hstill time system, ← Collector.report,
      hcollector, Collector.report_collectAll]
  obtain ⟨lost, hlost, haccounted⟩ := hmoves.exists_lost hreport
  obtain ⟨later, hlater, hunread⟩ := hmoves.exists_read hstill system
  constructor
  · refine ⟨read ++ later, ?_, ?_⟩
    · rw [Collector.collectAll_append, ← hcollector, hlater]
    · apply add_right_cancel (b := pool.unread)
      calc
        _ = later + next.unread + (read + pool.unread) := by
          rw [← Multiset.coe_add]
          abel
        _ = _ := by rw [hread, hunread, add_comm]
  · have hle : pool.expected (collector.report system) + next.accounted (collector.report system) ≤
        pool.expected (collector.report system) + next.expected (collector.report system) := by
      calc
        _ ≤ next.accounted (collector.report system) + lost +
            pool.expected (collector.report system) := by
          rw [add_comm, add_right_comm]
          exact Multiset.le_add_right _ _
        _ = pool.accounted (collector.report system) + next.expected (collector.report system) :=
          haccounted
        _ ≤ _ := add_le_add_left h.accounted_le _
    exact le_of_add_le_add_left hle
  · intro hreceiving
    rw [hlost hreceiving, add_zero, h.accounted_eq (hmoves.receiving hreceiving), add_comm]
      at haccounted
    exact add_left_cancel haccounted

end Pool
end Syslog
