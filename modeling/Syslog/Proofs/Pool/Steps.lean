import Mathlib.Data.Nat.Notation
import Mathlib.Logic.Relation
import Syslog.Pool

/-!
# Steps of a pool

What each action asks of a pool and does to it, and what a pool keeps through all its steps.
-/
namespace Syslog
namespace Pool

inductive Moves (pool : Pool) : PoolAction → Pool → Prop where
  | submit {raw : List UInt8} (hopen : pool.isOpen = true)
      (hroom : pool.queue.length < pool.capacity) :
      Moves pool (.submit raw)
        { pool with queue := pool.queue ++ [raw], submitted := raw :: pool.submitted }
  | close (hsubmitting : pool.submitting = true) :
      Moves pool .close { pool with submitting := false }
  | take {worker : ℕ} {raw : List UInt8} {queue : List (List UInt8)}
      (hworker : pool.workers[worker]? = some .idle) (hqueue : pool.queue = raw :: queue) :
      Moves pool (.take worker) { pool.setWorker worker (.holding raw) with queue := queue }
  | read {worker : ℕ} {raw : List UInt8} {system : Instant}
      (hworker : pool.workers[worker]? = some (.holding raw)) :
      Moves pool (.read worker system)
        { pool.setWorker worker (.finished (.ofResult (pool.collector.collect system raw).1)) with
          collector := (pool.collector.collect system raw).2 }
  | send {worker : ℕ} {report : Report} (hworker : pool.workers[worker]? = some (.finished report))
      (hreceiving : pool.receiving = true) (hroom : pool.channel.length < pool.capacity) :
      Moves pool (.send worker)
        { pool.setWorker worker .idle with channel := pool.channel ++ [report] }
  | stop {worker : ℕ} (hworker : pool.workers[worker]? = some .idle) (hqueue : pool.queue = [])
      (hsubmitting : pool.submitting = false) :
      Moves pool (.stop worker) (pool.setWorker worker .stopped)
  | giveUp {worker : ℕ} {report : Report}
      (hworker : pool.workers[worker]? = some (.finished report))
      (hreceiving : pool.receiving = false) :
      Moves pool (.giveUp worker) (pool.setWorker worker .stopped)
  | receive {report : Report} {channel : List Report} (hreceiving : pool.receiving = true)
      (hchannel : pool.channel = report :: channel) :
      Moves pool .receive { pool with channel := channel, received := report :: pool.received }
  | hangUp (hreceiving : pool.receiving = true) :
      Moves pool .hangUp { pool with channel := [], receiving := false }

variable {pool next : Pool} {action : PoolAction}

lemma moves_of_act? (h : pool.act? action = some next) : pool.Moves action next := by
  cases action with
  | submit raw =>
    simp only [act?] at h
    split at h
    · next hsubmit => exact Option.some.inj h ▸ .submit hsubmit.1 hsubmit.2
    · cases h
  | close =>
    simp only [act?] at h
    split at h
    · next hsubmitting => exact Option.some.inj h ▸ .close hsubmitting
    · cases h
  | take worker =>
    simp only [act?] at h
    split at h
    · next hworker hqueue => exact Option.some.inj h ▸ .take hworker hqueue
    · cases h
  | read worker system =>
    simp only [act?] at h
    split at h
    · next hworker => exact Option.some.inj h ▸ .read hworker
    · cases h
  | send worker =>
    simp only [act?] at h
    split at h
    · next hworker =>
      split at h
      · next hsend => exact Option.some.inj h ▸ .send hworker hsend.1 hsend.2
      · cases h
    · cases h
  | stop worker =>
    simp only [act?] at h
    split at h
    · next hworker hqueue =>
      split at h
      · cases h
      · next hsubmitting =>
        exact Option.some.inj h ▸ .stop hworker hqueue (Bool.eq_false_iff.2 hsubmitting)
    · cases h
  | giveUp worker =>
    simp only [act?] at h
    split at h
    · next hworker =>
      split at h
      · cases h
      · next hreceiving =>
        exact Option.some.inj h ▸ .giveUp hworker (Bool.eq_false_iff.2 hreceiving)
    · cases h
  | receive =>
    simp only [act?] at h
    split at h
    · next hchannel =>
      split at h
      · next hreceiving => exact Option.some.inj h ▸ .receive hreceiving hchannel
      · cases h
    · cases h
  | hangUp =>
    simp only [act?] at h
    split at h
    · next hreceiving => exact Option.some.inj h ▸ .hangUp hreceiving
    · cases h

lemma act?_of_moves (h : pool.Moves action next) : pool.act? action = some next := by
  cases h with
  | submit hopen hroom => exact if_pos ⟨hopen, hroom⟩
  | close hsubmitting => exact if_pos hsubmitting
  | take hworker hqueue => simp only [act?, hworker, hqueue]
  | read hworker => simp only [act?, hworker]
  | send hworker hreceiving hroom =>
    simp only [act?, hworker]
    exact if_pos ⟨hreceiving, hroom⟩
  | stop hworker hqueue hsubmitting => simp [act?, hworker, hqueue, hsubmitting]
  | giveUp hworker hreceiving => simp [act?, hworker, hreceiving]
  | receive hreceiving hchannel => simp [act?, hreceiving, hchannel]
  | hangUp hreceiving => exact if_pos hreceiving

end Pool
end Syslog
