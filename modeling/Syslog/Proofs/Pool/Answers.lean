import Mathlib.Data.Multiset.ZeroCons
import Syslog.Proofs.Pool.Shutdown

/-!
# Answers of a pool

By whatever clock its workers read, a pool answers the datagrams that they have read one each, and
keeps the answers as long as reports are received. When it comes to rest, every datagram has its
answer among the reports received.
-/
namespace Syslog

/-- The report may be what the collector tells of the datagram at some time. -/
def Collector.Answers (collector : Collector) (raw : List UInt8) (report : Report) : Prop :=
  ∃ system, collector.report system raw = report

def Worker.told : Worker → Multiset Report
  | .finished report => {report}
  | _ => 0

namespace Pool

def told (pool : Pool) : Multiset Report :=
  pool.received + pool.channel + (pool.workers.map Worker.told).sum

variable {pool next : Pool} {action : PoolAction} {workers capacity : ℕ} {collector : Collector}

lemma Moves.exists_answered (h : pool.Moves action next) (hreceiving : next.receiving = true) :
    ∃ read told, Multiset.Rel pool.collector.Answers read told ∧
      read + next.unread + pool.submitted = pool.unread + next.submitted ∧
      next.told = pool.told + told := by
  cases h with
  | submit hopen hroom =>
    refine ⟨0, 0, .zero, ?_, (add_zero _).symm⟩
    simp only [unread, ← Multiset.coe_add, ← Multiset.cons_coe, ← Multiset.singleton_add,
      Multiset.coe_nil]
    abel
  | close hsubmitting =>
    exact ⟨0, 0, .zero, congrArg (· + _) (zero_add _), (add_zero _).symm⟩
  | @take worker raw queue hworker hqueue =>
    have hunread := sum_set Worker.unread hworker (.holding raw)
    have htold := sum_set Worker.told hworker (.holding raw)
    simp only [Worker.unread, Worker.told, add_zero] at hunread htold
    refine ⟨0, 0, .zero, ?_, ?_⟩
    · simp only [unread, setWorker, hqueue, hunread, ← Multiset.cons_coe, ← Multiset.singleton_add]
      abel
    · simp only [told, setWorker, htold, add_zero]
  | @read worker raw system hworker =>
    have hunread := sum_set Worker.unread hworker
      (.finished (.ofResult (pool.collector.collect system raw).1))
    have htold := sum_set Worker.told hworker
      (.finished (.ofResult (pool.collector.collect system raw).1))
    simp only [Worker.unread, Worker.told, add_zero] at hunread htold
    refine ⟨{raw}, {pool.collector.report system raw}, ?_, ?_, ?_⟩
    · exact .cons ⟨system, rfl⟩ .zero
    · simp only [unread, setWorker, ← hunread]
      abel
    · simp only [told, setWorker, htold, Collector.report]
      abel
  | @send worker found hworker hreceiving hroom =>
    have hunread := sum_set Worker.unread hworker .idle
    have htold := sum_set Worker.told hworker .idle
    simp only [Worker.unread, Worker.told, add_zero] at hunread htold
    refine ⟨0, 0, .zero, ?_, ?_⟩
    · simp only [unread, setWorker, hunread, zero_add]
    · simp only [told, setWorker, ← htold, ← Multiset.coe_add, Multiset.coe_singleton]
      abel
  | @stop worker hworker hqueue hsubmitting =>
    have hunread := sum_set Worker.unread hworker .stopped
    have htold := sum_set Worker.told hworker .stopped
    simp only [Worker.unread, Worker.told, add_zero] at hunread htold
    refine ⟨0, 0, .zero, ?_, ?_⟩
    · simp only [unread, setWorker, hunread, zero_add]
    · simp only [told, setWorker, htold, add_zero]
  | giveUp hworker hclosed => cases hclosed.symm.trans hreceiving
  | receive hopen hchannel =>
    refine ⟨0, 0, .zero, congrArg (· + _) (zero_add _), ?_⟩
    simp only [told, hchannel, ← Multiset.cons_coe, ← Multiset.singleton_add]
    abel
  | hangUp hopen => cases hreceiving

lemma Moves.exists_tally (h : pool.Moves action next) :
    ∃ tally, next.collector = { pool.collector with tally := tally } := by
  cases h with
  | @read worker raw system hworker =>
    obtain ⟨result, v, m, a, hcollect⟩ := pool.collector.exists_collect system raw
    exact ⟨_, congrArg Prod.snd (hcollect pool.collector.tally)⟩
  | _ => exact ⟨pool.collector.tally, rfl⟩

/-- The reports of a pool answer, while they are received, the datagrams that its workers have read,
one each. -/
structure Answered (collector : Collector) (pool : Pool) : Prop where
  tally : ∃ tally, pool.collector = { collector with tally := tally }
  told : pool.receiving = true → ∃ read, read + pool.unread = pool.submitted ∧
    Multiset.Rel collector.Answers read pool.told

lemma Answered.step (h : pool.Answered collector) (hmoves : pool.Moves action next) :
    next.Answered collector := by
  obtain ⟨tally, htally⟩ := h.tally
  constructor
  · obtain ⟨later, hlater⟩ := hmoves.exists_tally
    exact ⟨later, by rw [hlater, htally]⟩
  · intro hreceiving
    obtain ⟨read, hread, htold⟩ := h.told (hmoves.receiving hreceiving)
    obtain ⟨more, answers, hanswers, hunread, hnext⟩ := hmoves.exists_answered hreceiving
    have hmore : Multiset.Rel collector.Answers more answers := by
      refine hanswers.mono ?_
      rintro raw - report - ⟨system, rfl⟩
      refine ⟨system, ?_⟩
      rw [htally]
      exact (collector.report_withTally tally system raw).symm
    refine ⟨read + more, ?_, ?_⟩
    · apply add_right_cancel (b := pool.unread)
      calc
        _ = more + next.unread + (read + pool.unread) := by abel
        _ = _ := by rw [hread, hunread, add_comm]
    · rw [hnext]
      exact htold.add hmore

end Pool
end Syslog
