import Mathlib.Algebra.BigOperators.Group.List.Basic
import Syslog.Catalog.Bundled
import Syslog.Proofs.Pool.Conservation

/-!
# The end of a pool

A pool keeps to its places, and after its queue was closed it only comes to rest, as long as reports
are received, when all of them have been. What it counted then does not depend on the order of
steps.
-/
namespace Syslog
namespace Pool

/-- A pool has its workers and keeps to its places; none of its workers stops too early. -/
structure Fits (workers capacity : ℕ) (pool : Pool) : Prop where
  workers : pool.workers.length = max workers 1
  capacity : pool.capacity = max capacity 1
  queue : pool.queue.length ≤ pool.capacity
  channel : pool.channel.length ≤ pool.capacity
  drained : pool.receiving = true → .stopped ∈ pool.workers →
    pool.submitting = false ∧ pool.queue = []

/-- Nothing happens any more unless the receiver hangs up. -/
def Resting (pool : Pool) : Prop := ∀ action, action ≠ .hangUp → pool.act? action = none

variable {pool next : Pool} {action : PoolAction} {workers capacity : ℕ}

lemma mem_of_mem_setWorker {worker : ℕ} {state : Worker}
    (h : .stopped ∈ (pool.setWorker worker state).workers) (hstate : state ≠ .stopped) :
    .stopped ∈ pool.workers :=
  (List.mem_or_eq_of_mem_set h).resolve_right hstate.symm

lemma Fits.step (h : pool.Fits workers capacity) (hmoves : pool.Moves action next) :
    next.Fits workers capacity := by
  cases hmoves with
  | submit hopen hroom =>
    refine ⟨h.workers, h.capacity, ?_, h.channel, fun hreceiving hstopped => ?_⟩
    · rw [List.length_append]
      exact hroom
    -- a queue that takes datagrams is not closed, so no worker has stopped
    · have hsubmitting := (Bool.and_eq_true_iff.1 hopen).1
      cases hsubmitting.symm.trans (h.drained hreceiving hstopped).1
  | close hsubmitting =>
    exact ⟨h.workers, h.capacity, h.queue, h.channel, fun hreceiving hstopped =>
      ⟨rfl, (h.drained hreceiving hstopped).2⟩⟩
  | @take worker raw queue hworker hqueue =>
    refine ⟨List.length_set.trans h.workers, h.capacity, ?_, h.channel,
      fun hreceiving hstopped => ?_⟩
    · have hlength := h.queue
      rw [hqueue] at hlength
      exact (Nat.le_succ _).trans hlength
    · have hdrained := h.drained hreceiving (mem_of_mem_setWorker hstopped nofun)
      cases hqueue.symm.trans hdrained.2
  | read hworker =>
    exact ⟨List.length_set.trans h.workers, h.capacity, h.queue, h.channel,
      fun hreceiving hstopped => h.drained hreceiving (mem_of_mem_setWorker hstopped nofun)⟩
  | send hworker hreceiving hroom =>
    refine ⟨List.length_set.trans h.workers, h.capacity, h.queue, ?_,
      fun hreceiving hstopped => h.drained hreceiving (mem_of_mem_setWorker hstopped nofun)⟩
    rw [List.length_append]
    exact hroom
  | stop hworker hqueue hsubmitting =>
    exact ⟨List.length_set.trans h.workers, h.capacity, h.queue, h.channel,
      fun _ _ => ⟨hsubmitting, hqueue⟩⟩
  | giveUp hworker hreceiving =>
    refine ⟨List.length_set.trans h.workers, h.capacity, h.queue, h.channel,
      fun hstill _ => ?_⟩
    cases hreceiving.symm.trans hstill
  | receive hreceiving hchannel =>
    refine ⟨h.workers, h.capacity, h.queue, ?_, h.drained⟩
    have hlength := h.channel
    rw [hchannel] at hlength
    exact (Nat.le_succ _).trans hlength
  | hangUp hreceiving => exact ⟨h.workers, h.capacity, h.queue, Nat.zero_le _, nofun⟩

lemma Resting.not_moves (h : pool.Resting) (hmoves : pool.Moves action next) :
    action = .hangUp := by
  by_contra haction
  cases (h action haction).symm.trans (act?_of_moves hmoves)

section
open Text

def still : Collector := .new .bundled .standard (.fixed ⟨1717293600000, 0⟩)

def greeting : List UInt8 := Utf8.encode (ofString "<13>hello")

def noise : List UInt8 := Utf8.encode (ofString "?")

def overtaking : List PoolAction := [
  .submit greeting, .take 0, .submit noise, .take 1, .close, .read 1 0, .send 1, .read 0 0,
  .receive, .send 0, .receive, .stop 1, .stop 0]

end

end Pool
end Syslog
